import MeteringAlarms.Adapter.Combination
import MeteringAlarms.Adapter.Threshold

/-!
# Callbacks by resource type

What the stack asks of a resource in the course of its life, and how each type answers.
-/

namespace MeteringAlarms

namespace ResourceType

/-- The fields that a creation sends. -/
def createPayload (type : ResourceType) (context : Context) : Fields :=
  match type with
  | .threshold => ThresholdAlarm.createPayload context
  | .combination => CombinationAlarm.createPayload context

end ResourceType

/-- A callback of the stack. -/
inductive LifecycleEvent where
  | create
  | update (changes : Fields)
  | suspend
  | resume
  | delete

namespace LifecycleEvent

variable {m : Type → Type} [Monad m]

/-- Carries out a callback on a resource of a type; `now` dates what is made. -/
def handle (event : LifecycleEvent) (type : ResourceType) (services : Services m)
    (context : Context) (now : Timestamp) : Callback m Unit :=
  match event, type with
  | .create, .threshold => ThresholdAlarm.create services context now
  | .create, .combination => CombinationAlarm.create services context
  | .update changes, .threshold => ThresholdAlarm.update services context changes
  | .update changes, .combination => CombinationAlarm.update services context changes
  | .suspend, _ => .switch services.alarms false .suspended
  | .resume, _ => .switch services.alarms true .active
  | .delete, .threshold => ThresholdAlarm.delete services context
  | .delete, .combination => CombinationAlarm.delete services

end LifecycleEvent

end MeteringAlarms
