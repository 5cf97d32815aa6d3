import MeteringAlarms.Alarm.Basic
import MeteringAlarms.Rule.Basic
import MeteringAlarms.Template.Context

/-!
# What adapters share

An adapter stands between a resource of a stack and its alarm. Of its own it remembers only the
alarm's id and the state of the resource, its `Handle`. A callback runs on the handle and keeps the
effects it had when it fails.
-/

namespace MeteringAlarms

/-- The services that adapters talk to. -/
structure Services (m : Type → Type) where
  alarms : AlarmService m
  rules : RuleStore m

/-- What an adapter remembers. -/
structure Handle where
  alarmId? : Option String := none
  state : LifecycleState := .absent
  deriving DecidableEq

namespace Handle

instance : Inhabited Handle := ⟨{}⟩

/-- The handle of a resource whose alarm was created earlier. -/
def attached (id : String) : Handle := ⟨some id, .active⟩

end Handle

abbrev Callback (m : Type → Type) := ExceptT Failure (StateT Handle m)

namespace Callback

variable {m : Type → Type} [Monad m] {α : Type}

/-- An operation of a service as part of a callback. -/
def call (attempt : Attempt m α) : Callback m α :=
  ExceptT.mk (StateT.lift attempt.run)

/-- The outcome of an operation, failure or not. -/
def outcomeOf (attempt : Attempt m α) : Callback m (Except Failure α) :=
  call attempt.outcome

def setState (state : LifecycleState) : Callback m Unit :=
  modify fun handle ↦ { handle with state }

/-- The id of the alarm, without which the callback fails. -/
def requireAlarm (resource : String) : Callback m String := do
  match (← get).alarmId? with
  | some id => pure id
  | none => throw (.noAlarm resource)

/-- Remembers a new alarm. -/
def activate (alarm : Alarm) : Callback m Unit :=
  set (Handle.attached alarm.id)

/-- Switches the alarm on or off, if there is one, and then enters the given state. -/
def switch (alarms : AlarmService m) (enabled : Bool) (state : LifecycleState) :
    Callback m Unit := do
  match (← get).alarmId? with
  | some id =>
    call (alarms.update id (.ofList [(PropertyName.enabled, .bool enabled)]))
    setState state
  | none => pure ()

/-- Removes the alarm, if there is one; an alarm that is gone already counts as removed. -/
def removeAlarm (alarms : AlarmService m) : Callback m Unit := do
  match (← get).alarmId? with
  | some id =>
    let outcome ← outcomeOf (alarms.delete id)
    call (.ofExcept (ignoreMissing outcome))
  | none => pure ()

end Callback

end MeteringAlarms
