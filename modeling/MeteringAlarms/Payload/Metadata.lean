import MeteringAlarms.Data.Text
import MeteringAlarms.Json.Basic
import MeteringAlarms.Template.Meter

/-!
# The namespace of matching metadata

Samples keep metadata under `metadata.` and the namespace of their meter. A key is completed by
what it lacks, so a key that carries the whole of it stays as it is.
-/

namespace MeteringAlarms.Metadata

def root : String := "metadata."

/-- The key under the root and the given namespace. -/
def qualify (space key : String) : String :=
  if Text.startsWith key (root ++ space) then key
  else if Text.startsWith key space then root ++ key
  else root ++ space ++ key

/-- The map with qualified keys; where two meet, the one later in the order of the old keys wins. -/
def qualifyAll (space : String) (metadata : Fields) : Fields :=
  OrderedMap.ofList (metadata.entries.map fun (key, value) ↦ (qualify space key, value))

end MeteringAlarms.Metadata
