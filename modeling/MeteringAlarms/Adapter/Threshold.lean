import MeteringAlarms.Adapter.Basic
import MeteringAlarms.Payload.Basic

/-!
# Alarms on one meter

The callbacks of a resource that compares a meter with a threshold. Its creation also registers a
watch rule under the resource's physical name, with the alarm service as its evaluator; when the
rule cannot be registered the new alarm is removed again and the creation fails. Its removal takes
the rule first and the alarm second, and what is gone already does not stand in the way.
-/

namespace MeteringAlarms.ThresholdAlarm

/-- The value of a meter property, if it is a string. -/
def meterOf? (properties : Fields) : Option String :=
  (properties.get? PropertyName.meterName).bind Json.string?

def properties (context : Context) : Fields :=
  Schema.threshold.collect context.properties

/-- The fields that a creation sends. -/
def createPayload (context : Context) : Fields :=
  let properties := properties context
  (Payload.threshold context.resources properties (meterOf? properties)).insert "name"
    (.string context.physicalName)

/-- The fields that an update sends; the meter may be among the changes or be the one in force. -/
def changePayload (context : Context) (changes : Fields) : Fields :=
  Payload.threshold context.resources changes
    (meterOf? changes <|> meterOf? context.properties)

/-- The watch rule that a creation registers. -/
def watchRule (context : Context) (now : Timestamp) : WatchRule :=
  .made context.physicalName (.ofFields (properties context)) context.stackId .delegated now

variable {m : Type → Type} [Monad m]

def create (services : Services m) (context : Context) (now : Timestamp) : Callback m Unit := do
  let alarm ← .call (services.alarms.create (createPayload context))
  match ← .outcomeOf (services.rules.create (watchRule context now)) with
  | .ok () => .activate alarm
  | .error failure =>
    discard <| .outcomeOf (services.alarms.delete alarm.id)
    throw failure

def update (services : Services m) (context : Context) (changes : Fields) : Callback m Unit := do
  if !changes.isEmpty then
    let id ← .requireAlarm context.physicalName
    .call (services.alarms.update id (changePayload context changes))

/-- Removes the rule that the store has under a name, by the name that the rule itself has. -/
def removeRule (rules : RuleStore m) (name : String) : Attempt m Unit := do
  let rule ← rules.load name
  rules.destroy rule.name

def delete (services : Services m) (context : Context) : Callback m Unit := do
  let outcome ← .outcomeOf (removeRule services.rules context.physicalName)
  .call (.ofExcept (ignoreMissing outcome))
  .removeAlarm services.alarms
  .setState .deleted

end MeteringAlarms.ThresholdAlarm
