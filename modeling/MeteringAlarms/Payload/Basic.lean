import MeteringAlarms.Payload.Actions
import MeteringAlarms.Payload.Metadata

/-!
# Payloads for the alarm service

From the properties of a resource, or the part of them that changes, to the fields that the alarm
service is sent. Both kinds of alarm resolve their actions. An alarm on one meter qualifies the keys
of its matching metadata; a combination puts the fields about its alarms into a rule of their own.
-/

namespace MeteringAlarms.Payload

/-- The field that holds the rule of a combination. -/
abbrev combinationRule : String := "combination_rule"

/-- The payload of an alarm on one meter; the meter decides the namespace of the metadata. -/
def threshold (resources : StackResources) (properties : Fields) (meter? : Option String) :
    Fields :=
  let payload := Actions.resolve resources properties
  match (properties.get? PropertyName.matchingMetadata).bind Json.fields? with
  | some metadata =>
    payload.insert PropertyName.matchingMetadata
      (.ofFields (Metadata.qualifyAll (Meter.metadataNamespace meter?) metadata))
  | none => payload

/-- The properties that move into the rule of a combination. -/
def combinationFields : List String :=
  [PropertyName.alarmIds, PropertyName.operator, PropertyName.repeatActions]

/-- The rule that the properties give: those of its fields that are truthy. -/
def combinationRuleOf (properties : Fields) : Fields :=
  OrderedMap.ofList <| combinationFields.filterMap fun name ↦
    ((properties.get? name).filter Json.truthy).map (name, ·)

/--
The properties with the rule's fields gathered in `combination_rule`. The fields always leave the
top level, and the rule is written only if it has an entry.
-/
def reshapeCombination (properties : Fields) : Fields :=
  let rule := combinationRuleOf properties
  let others := combinationFields.foldl OrderedMap.erase properties
  if rule.isEmpty then others else others.insert combinationRule (.ofFields rule)

/-- The payload of a combination. -/
def combination (resources : StackResources) (properties : Fields) : Fields :=
  reshapeCombination (Actions.resolve resources properties)

end MeteringAlarms.Payload
