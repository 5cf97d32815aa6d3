import MeteringAlarms.Json.Document

/-!
# Reading records from JSON

A record is written as an object, whose unknown members are skipped, or as an array that lists the
fields in their declared order. A known field may not be written twice, and an array may end before
the last field but not go on after it. What a missing field means is decided by its reader.
-/

namespace MeteringAlarms

/-- The fields of a record that were written, each with its document. -/
abbrev Record := List (String × Document)

namespace Document

/-- The members of an object with one of the given names; `none` if a member has no name. -/
def knownMembers? (names : List String) : List (Option String × Document) → Option Record
  | [] => some []
  | (name?, value) :: members => do
    let name ← name?
    let known ← knownMembers? names members
    some (if names.contains name then (name, value) :: known else known)

def record? (names : List String) : Document → Option Record
  | .object members => do
    let known ← knownMembers? names members
    if (known.map Prod.fst).Nodup then some known else none
  | .array items => if items.length ≤ names.length then some (names.zip items) else none
  | _ => none

def string? : Document → Option String
  | .string value? => value?
  | _ => none

/-- A string, or null for none. -/
def optionalString? : Document → Option (Option String)
  | .null => some none
  | .string value? => value?.map some
  | _ => none

def unsigned? : Document → Option Nat
  | .number (some (.int value)) => if 0 ≤ value then some value.toNat else none
  | _ => none

/-- The name of a constant: a string, or an object whose only member has it and is null. -/
def constantName? : Document → Option String
  | .string value? => value?
  | .object [(name?, .null)] => name?
  | _ => none

/-- An object as a map of values. -/
def fields? (room : Nat) (document : Document) : Option Fields :=
  toJson? room document >>= Json.fields?

/-- An object whose values are objects. -/
def fieldsMap? (room : Nat) : Document → Option (OrderedMap Fields)
  | .object members =>
    if room = 0 then none
    else do
      let entries ← members.mapM fun (name?, value) ↦ do
        let name ← name?
        let fields ← fields? (room - 1) value
        some (name, fields)
      some (OrderedMap.ofList entries)
  | _ => none

end Document

namespace Record

variable {α : Type}

def field? (record : Record) (name : String) : Option Document :=
  Entries.find? name record

/-- A field that must be written. -/
def required (record : Record) (name : String) (read : Document → Option α) : Option α :=
  record.field? name >>= read

/-- A field that takes a default when it is not written. -/
def withDefault (record : Record) (name : String) (default : α) (read : Document → Option α) :
    Option α :=
  match record.field? name with
  | some document => read document
  | none => some default

end Record

end MeteringAlarms
