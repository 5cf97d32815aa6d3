import MeteringAlarms.Adapter.Basic
import MeteringAlarms.Alarm.Document
import MeteringAlarms.Payload.Basic

/-!
# Combinations of alarms

The callbacks of a resource that joins other alarms by a connective. It has no watch rule.
-/

namespace MeteringAlarms.CombinationAlarm

def properties (context : Context) : Fields :=
  Schema.combination.collect context.properties

/-- The fields that a creation sends. -/
def createPayload (context : Context) : Fields :=
  let payload := Actions.resolve context.resources (properties context)
  Payload.reshapeCombination
    ((payload.insert "name" (.string context.physicalName)).insert AlarmDocument.typeField
      (.string AlarmDocument.combinationType))

/-- The fields that an update sends. -/
def changePayload (context : Context) (changes : Fields) : Fields :=
  Payload.combination context.resources changes

variable {m : Type → Type} [Monad m]

def create (services : Services m) (context : Context) : Callback m Unit := do
  let alarm ← .call (services.alarms.create (createPayload context))
  .activate alarm

def update (services : Services m) (context : Context) (changes : Fields) : Callback m Unit := do
  if !changes.isEmpty then
    let id ← .requireAlarm context.physicalName
    .call (services.alarms.update id (changePayload context changes))

def delete (services : Services m) : Callback m Unit := do
  .removeAlarm services.alarms
  .setState .deleted

end MeteringAlarms.CombinationAlarm
