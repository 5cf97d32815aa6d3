import MeteringAlarms.Template.Definition
import MeteringAlarms.Template.ResourceType

/-!
# A resource within its stack

The context of a resource is its definition with the names that the definition leaves open filled
in: the physical name, unique in the deployment, and the id of the stack. Properties and the other
resources of the stack may change while the resource lives.
-/

namespace MeteringAlarms

/-- An attribute of a resource of the stack: null if it lacks it, `none` if there is no resource. -/
def StackResources.attribute? (resources : StackResources) (resource name : String) : Option Json :=
  (resources.get? resource).map fun attributes ↦ (attributes.get? name).getD .null

structure Context where
  typeName : String
  physicalName : String
  stackId : String
  properties : Fields
  resources : StackResources
  deriving DecidableEq

namespace Context

/-- The context of a definition; `suffix` and `stackId` are fresh and used where none is fixed. -/
def ofDefinition (definition : Definition) (suffix stackId : String) : Context where
  typeName := definition.type
  physicalName := definition.physicalName?.getD
    (definition.stackName ++ "-" ++ definition.name ++ "-" ++ suffix)
  stackId := definition.stackId?.getD stackId
  properties := definition.properties
  resources := definition.resources

def setProperty (context : Context) (name : String) (value : Json) : Context :=
  { context with properties := context.properties.insert name value }

/-- Sets every listed property, in order. -/
def setProperties (context : Context) (changes : Fields) : Context :=
  { context with properties := context.properties.overlay changes }

def addResource (context : Context) (name : String) (attributes : Fields) : Context :=
  { context with resources := context.resources.insert name attributes }

def removeResource (context : Context) (name : String) : Context :=
  { context with resources := context.resources.erase name }

/-- The type must be registered and every required property must be set to more than null. -/
def validate (context : Context) : Except Failure Unit := do
  let type ← ResourceType.find context.typeName
  let isUnset (property : Property) : Bool :=
    ((context.properties.get? property.name).map Json.isNull).getD true
  match type.schema.find? fun property ↦ property.required && isUnset property with
  | some property => .error (.property property.name .unset)
  | none => .ok ()

end Context

end MeteringAlarms
