import MeteringAlarms.Template.Context

/-!
# Resolving actions

An action is the name of a resource of the stack, or a literal target. A name stands for the alarm
webhook of the resource as the stack is now; of the other entries those that are not truthy drop
out. Only the three action lists are resolved, and only when their value is a list.
-/

namespace MeteringAlarms.Actions

/-- The attribute of a resource that holds its alarm webhook. -/
def webhookAttribute : String := "AlarmUrl"

/-- What an entry of an action list becomes, if it stays. -/
def target? (resources : StackResources) (action : Json) : Option Json :=
  match action.string?.bind fun name ↦ resources.attribute? name webhookAttribute with
  | some webhook => some webhook
  | none => if action.truthy then some action else none

def resolveList (resources : StackResources) (actions : List Json) : List Json :=
  actions.filterMap (target? resources)

def resolveValue (resources : StackResources) (name : String) (value : Json) : Json :=
  match value with
  | .array actions =>
    if PropertyName.actionLists.contains name then .array (resolveList resources actions) else value
  | _ => value

/-- The properties with their action lists resolved against the stack. -/
def resolve (resources : StackResources) (properties : Fields) : Fields :=
  properties.mapValues (resolveValue resources)

end MeteringAlarms.Actions
