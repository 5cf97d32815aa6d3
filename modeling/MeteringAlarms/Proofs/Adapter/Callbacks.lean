import MeteringAlarms.Deployment

/-!
# Callbacks as steps

Over services on a common state a callback is a step from a handle and a state to an outcome, a
handle and a state.  This module says of each callback which step it is, in terms of the steps that
the operations of the services take.  The statements name every branch once, so what is proved about
adapters elsewhere splits these equations and never opens a callback.
-/

namespace MeteringAlarms

variable {ω σ ρ α β : Type}

namespace Attempt

/-- The step that an operation takes. -/
def on (attempt : Attempt (StateM ω) α) (world : ω) : Except Failure α × ω :=
  attempt.run.run world

theorem on_bind (attempt : Attempt (StateM ω) α) (next : α → Attempt (StateM ω) β) (world : ω) :
    (attempt >>= next).on world =
      match attempt.on world with
      | (.ok value, world) => (next value).on world
      | (.error failure, world) => (.error failure, world) := by
  change (ExceptT.bindCont next (attempt.on world).1).run (attempt.on world).2 = _
  rcases attempt.on world with ⟨_ | _, _⟩ <;> rfl

@[simp] theorem on_map (f : α → β) (attempt : Attempt (StateM ω) α) (world : ω) :
    (f <$> attempt).on world = ((attempt.on world).1.map f, (attempt.on world).2) := by
  rw [map_eq_pure_bind, on_bind]
  rcases attempt.on world with ⟨_ | _, _⟩ <;> rfl

@[simp] theorem on_ofExcept (outcome : Except Failure α) (world : ω) :
    (ofExcept outcome : Attempt (StateM ω) α).on world = (outcome, world) := rfl

end Attempt

/-- An alarm service and a rule store that share nothing, over the pair of their states. -/
def Services.join (alarms : AlarmService (StateM σ)) (rules : RuleStore (StateM ρ)) :
    Services (StateM (σ × ρ)) where
  alarms := alarms.hoist (StateM.focus Prod.fst fun part whole ↦ (part, whole.2))
  rules := rules.hoist (StateM.focus Prod.snd fun part whole ↦ (whole.1, part))

namespace Callback

/-- The step that a callback takes. -/
def on (callback : Callback (StateM ω) α) (handle : Handle) (world : ω) :
    Except Failure α × Handle × ω :=
  let ((outcome, handle), world) := (callback.run.run handle).run world
  (outcome, handle, world)

theorem on_bind (callback : Callback (StateM ω) α) (next : α → Callback (StateM ω) β)
    (handle : Handle) (world : ω) :
    (callback >>= next).on handle world =
      match callback.on handle world with
      | (.ok value, handle, world) => (next value).on handle world
      | (.error failure, handle, world) => (.error failure, handle, world) := by
  let result := (callback.run.run handle).run world
  change (let ((outcome, handle), world) :=
    ((ExceptT.bindCont next result.1.1).run result.1.2).run result.2; (outcome, handle, world)) =
      match (result.1.1, result.1.2, result.2) with
      | (.ok value, handle, world) => (next value).on handle world
      | (.error failure, handle, world) => (.error failure, handle, world)
  rcases result with ⟨⟨_ | _, _⟩, _⟩ <;> rfl

@[simp] theorem on_get (handle : Handle) (world : ω) :
    (get : Callback (StateM ω) Handle).on handle world = (.ok handle, handle, world) := rfl

@[simp] theorem on_call (attempt : Attempt (StateM ω) α) (handle : Handle) (world : ω) :
    (call attempt).on handle world =
      ((attempt.on world).1, handle, (attempt.on world).2) := rfl

@[simp] theorem on_outcomeOf (attempt : Attempt (StateM ω) α) (handle : Handle) (world : ω) :
    (outcomeOf attempt).on handle world =
      (.ok (attempt.on world).1, handle, (attempt.on world).2) := rfl

variable (alarms : AlarmService (StateM ω)) (rules : RuleStore (StateM ω))

theorem on_requireAlarm (resource : String) (handle : Handle) (world : ω) :
    (requireAlarm resource).on handle world =
      match handle.alarmId? with
      | some id => (.ok id, handle, world)
      | none => (.error (.noAlarm resource), handle, world) := by
  rw [requireAlarm, on_bind, on_get]
  rcases handle with ⟨_ | id, state⟩ <;> rfl

theorem on_switch (enabled : Bool) (state : LifecycleState) (handle : Handle) (world : ω) :
    (switch alarms enabled state).on handle world =
      match handle.alarmId? with
      | none => (.ok (), handle, world)
      | some id =>
        let step := (alarms.update id (.ofList [(PropertyName.enabled, .bool enabled)])).on world
        match step.1 with
        | .ok () => (.ok (), ⟨some id, state⟩, step.2)
        | .error failure => (.error failure, handle, step.2) := by
  rw [switch, on_bind, on_get]
  rcases handle with ⟨_ | id, old⟩
  · rfl
  · dsimp only
    rw [on_bind, on_call]
    rcases (alarms.update id _).on world with ⟨_ | _, world⟩ <;> rfl

theorem on_removeAlarm (handle : Handle) (world : ω) :
    (removeAlarm alarms).on handle world =
      match handle.alarmId? with
      | none => (.ok (), handle, world)
      | some id =>
        let step := (alarms.delete id).on world
        (ignoreMissing step.1, handle, step.2) := by
  rw [removeAlarm, on_bind, on_get]
  rcases handle with ⟨_ | id, state⟩ <;> rfl

end Callback

namespace ThresholdAlarm

variable (services : Services (StateM ω)) (context : Context) (handle : Handle) (world : ω)

theorem on_removeRule (rules : RuleStore (StateM ω)) (name : String) :
    (removeRule rules name).on world =
      match (rules.load name).on world with
      | (.ok rule, world) => (rules.destroy rule.name).on world
      | (.error failure, world) => (.error failure, world) := by
  rw [removeRule, Attempt.on_bind]
  rcases (rules.load name).on world with ⟨_ | _, _⟩ <;> rfl

theorem on_create (now : Timestamp) :
    (create services context now).on handle world =
      match (services.alarms.create (createPayload context)).on world with
      | (.error failure, world) => (.error failure, handle, world)
      | (.ok alarm, world) =>
        match (services.rules.create (watchRule context now)).on world with
        | (.ok (), world) => (.ok (), .attached alarm.id, world)
        | (.error failure, world) =>
          (.error failure, handle, ((services.alarms.delete alarm.id).on world).2) := by
  rw [create, Callback.on_bind, Callback.on_call]
  rcases (services.alarms.create (createPayload context)).on world with ⟨_ | alarm, world⟩
  · rfl
  · dsimp only
    rw [Callback.on_bind, Callback.on_outcomeOf]
    rcases (services.rules.create (watchRule context now)).on world with ⟨_ | _, world⟩ <;> rfl

end ThresholdAlarm

namespace CombinationAlarm

variable (services : Services (StateM ω)) (context : Context) (handle : Handle) (world : ω)

theorem on_create :
    (create services context).on handle world =
      match (services.alarms.create (createPayload context)).on world with
      | (.error failure, world) => (.error failure, handle, world)
      | (.ok alarm, world) => (.ok (), .attached alarm.id, world) := by
  rw [create, Callback.on_bind, Callback.on_call]
  rcases (services.alarms.create (createPayload context)).on world with ⟨_ | _, world⟩ <;> rfl

theorem on_delete :
    (delete services).on handle world =
      match (Callback.removeAlarm services.alarms).on handle world with
      | (.ok (), handle, world) => (.ok (), { handle with state := .deleted }, world)
      | (.error failure, handle, world) => (.error failure, handle, world) := by
  rw [delete, Callback.on_bind]
  rcases (Callback.removeAlarm services.alarms).on handle world with ⟨_ | _, handle, world⟩ <;> rfl

end CombinationAlarm

/-- Without its rule, an alarm on one meter is removed like a combination. -/
theorem ThresholdAlarm.on_delete (services : Services (StateM ω)) (context : Context)
    (handle : Handle) (world : ω) :
    (delete services context).on handle world =
      match (removeRule services.rules context.physicalName).on world with
      | (outcome, world) =>
        match ignoreMissing outcome with
        | .error failure => (.error failure, handle, world)
        | .ok () => (CombinationAlarm.delete services).on handle world := by
  rw [delete, Callback.on_bind, Callback.on_outcomeOf]
  dsimp only
  rw [Callback.on_bind, Callback.on_call, Attempt.on_ofExcept]
  rcases (removeRule services.rules context.physicalName).on world with ⟨outcome, world⟩
  dsimp only
  rcases ignoreMissing outcome with failure | _ <;> rfl

namespace Services

variable (alarms : AlarmService (StateM σ)) (rules : RuleStore (StateM ρ)) (left : σ) (right : ρ)

theorem join_create (payload : Fields) :
    ((join alarms rules).alarms.create payload).on (left, right) =
      (((alarms.create payload).on left).1, ((alarms.create payload).on left).2, right) := rfl

theorem join_update (id : String) (changes : Fields) :
    ((join alarms rules).alarms.update id changes).on (left, right) =
      (((alarms.update id changes).on left).1, ((alarms.update id changes).on left).2, right) := rfl

theorem join_delete (id : String) :
    ((join alarms rules).alarms.delete id).on (left, right) =
      (((alarms.delete id).on left).1, ((alarms.delete id).on left).2, right) := rfl

theorem join_createRule (rule : WatchRule) :
    ((join alarms rules).rules.create rule).on (left, right) =
      (((rules.create rule).on right).1, left, ((rules.create rule).on right).2) := rfl

theorem join_removeRule (name : String) :
    (ThresholdAlarm.removeRule (join alarms rules).rules name).on (left, right) =
      (((ThresholdAlarm.removeRule rules name).on right).1, left,
        ((ThresholdAlarm.removeRule rules name).on right).2) := by
  have hload : ((join alarms rules).rules.load name).on (left, right) =
      (((rules.load name).on right).1, left, ((rules.load name).on right).2) := rfl
  rw [ThresholdAlarm.on_removeRule, ThresholdAlarm.on_removeRule, hload]
  rcases (rules.load name).on right with ⟨_ | _, _⟩ <;> rfl

end Services

/-- The fields that an update sends. -/
def ResourceType.changePayload (type : ResourceType) (context : Context) (changes : Fields) :
    Fields :=
  match type with
  | .threshold => ThresholdAlarm.changePayload context changes
  | .combination => CombinationAlarm.changePayload context changes

/-- Updates of both types differ in their payload only. -/
theorem LifecycleEvent.on_update (services : Services (StateM ω)) (type : ResourceType)
    (context : Context) (changes : Fields) (now : Timestamp) (handle : Handle) (world : ω) :
    ((update changes).handle type services context now).on handle world =
      if changes.isEmpty then (.ok (), handle, world)
      else match handle.alarmId? with
        | none => (.error (.noAlarm context.physicalName), handle, world)
        | some id =>
          let step := (services.alarms.update id (type.changePayload context changes)).on world
          (step.1, handle, step.2) := by
  cases type <;>
  · simp only [LifecycleEvent.handle, ThresholdAlarm.update, CombinationAlarm.update]
    cases changes.isEmpty with
    | true => rfl
    | false =>
      simp only [Bool.not_false, if_true, Callback.on_bind, Callback.on_requireAlarm,
        Bool.false_eq_true, if_false]
      rcases handle with ⟨_ | id, state⟩ <;> rfl

namespace Resource

variable (services : Services (StateM ω)) (now : Timestamp) (resource : Resource) (world : ω)

theorem perform_eq (event : LifecycleEvent) :
    resource.perform services now event world =
      match (event.handle resource.type services resource.context now).on resource.handle world with
      | (outcome, handle, world) => (outcome, { resource with handle }, world) := rfl

end Resource

end MeteringAlarms
