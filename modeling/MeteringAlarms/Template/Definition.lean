import MeteringAlarms.Json.Record
import MeteringAlarms.Template.Property

/-!
# Resource definitions

One alarm resource as a definition file describes it: its type and logical name, the stack it
belongs to, its properties, and the attributes of the other resources of the stack, which its
actions may name.
-/

namespace MeteringAlarms

/-- The resources of a stack by name, each with its attributes. -/
abbrev StackResources := OrderedMap Fields

structure Definition where
  type : String
  name : String
  stackName : String
  stackId? : Option String
  physicalName? : Option String
  properties : Fields
  /-- The other resources of the stack. -/
  resources : StackResources
  deriving DecidableEq

namespace Definition

def fieldNames : List String :=
  ["type", "name", "stack_name", "stack_id", "physical_name", "properties", "stack_resources"]

/-- The definition that a document describes, with `room` levels of nesting left for it. -/
def ofDocument? (room : Nat) (document : Document) : Option Definition := do
  if room = 0 then none else
  let record ← document.record? fieldNames
  let type ← record.required "type" Document.string?
  let name ← record.required "name" Document.string?
  let stackName ← record.withDefault "stack_name" "stack" Document.string?
  let stackId? ← record.withDefault "stack_id" none Document.optionalString?
  let physicalName? ← record.withDefault "physical_name" none Document.optionalString?
  let properties ← record.withDefault "properties" .empty (Document.fields? (room - 1))
  let resources ← record.withDefault "stack_resources" .empty (Document.fieldsMap? (room - 1))
  some { type, name, stackName, stackId?, physicalName?, properties, resources }

def ofJson? (value : Json) : Option Definition :=
  ofDocument? value.depth (.ofJson value)

def ofText? (text : String) : Option Definition :=
  Document.ofText? text >>= ofDocument? Document.maxDepth

/-- Reads the content of a definition file. -/
def ofFile (path : String) (content : Except ReadFault String) : Except Failure Definition :=
  match content with
  | .error fault => .error (.configuration (.unreadable .definition path fault))
  | .ok text =>
    match ofText? text with
    | some definition => .ok definition
    | none => .error (.document "not a resource definition")

end Definition

end MeteringAlarms
