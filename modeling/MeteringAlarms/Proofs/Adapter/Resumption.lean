import MeteringAlarms.Proofs.Adapter.Runs
import MeteringAlarms.Proofs.Remote.Handles

/-!
# Resumptions

A suspension writes that the alarm is off and a resumption that it is on, and neither reads what
was there before.  So of any number of them only the last counts.  A resumption undoes a suspension
just for an alarm that was on; one that its template declares off is on afterwards.
-/

namespace MeteringAlarms

open PropertyName

/-- The callback that switches an alarm. -/
def LifecycleEvent.switching : (on : Bool) → LifecycleEvent
  | false => suspend
  | true => resume

/-- The state of a resource whose alarm was switched. -/
def LifecycleState.switched : (on : Bool) → LifecycleState
  | false => suspended
  | true => active

namespace Moment

variable {ρ : Type} {moment : Moment (AlarmMemory × ρ)} {id : String} {fields : Fields}

/-- The resource has an alarm, and the service stores it with the given fields and answers. -/
structure Serves (moment : Moment (AlarmMemory × ρ)) (id : String) (fields : Fields) : Prop where
  attached : moment.resource.handle.alarmId? = some id
  available : moment.world.1.unavailable = false
  stored : moment.world.1.alarms.get? id = some fields

/-- The moment after the alarm was switched. -/
def switched (moment : Moment (AlarmMemory × ρ)) (id : String) (fields : Fields) (on : Bool) :
    Moment (AlarmMemory × ρ) where
  history := (.switching on, .ok ()) :: moment.history
  resource := { moment.resource with handle := ⟨some id, .switched on⟩ }
  world :=
    ({ moment.world.1.record (.update id (.ofList [(enabled, .bool on)])) with
        alarms := moment.world.1.alarms.insert id (fields.insert enabled (.bool on)) },
      moment.world.2)

variable (newId : Nat → String) (store : RuleStore (StateM ρ))

/-- A switch succeeds and writes one field of one alarm. -/
theorem Serves.after_switching (h : moment.Serves id fields) (now : Timestamp) (on : Bool) :
    moment.after (.overMemory newId store) now (.switching on) = moment.switched id fields on := by
  obtain ⟨history, ⟨type, context, handle⟩, memory, rules⟩ := moment
  have hevent : (LifecycleEvent.switching on).handle type (.overMemory newId store) context now =
      .switch (Services.overMemory newId store).alarms on (.switched on) := by
    cases on <;> rfl
  have hid : handle.alarmId? = some id := h.attached
  have hupdate :=
    memory.update_of_get?_eq_some id (.ofList [(enabled, .bool on)]) h.available h.stored
  rw [OrderedMap.overlay_ofList_singleton] at hupdate
  rw [after, Resource.perform_eq, hevent, Callback.on_switch, hid]
  simp only [Services.overMemory_update, hupdate]
  rfl

theorem serves_switched (h : moment.Serves id fields) (on : Bool) :
    (moment.switched id fields on).Serves id (fields.insert enabled (.bool on)) := by
  refine ⟨rfl, h.available, ?_⟩
  change (OrderedMap.insert _ _ _).get? id = _
  rw [OrderedMap.get?_insert, if_pos rfl]

/-- The moment after the switches, each at a time of its own. -/
def afterSwitches (services : Services (StateM (AlarmMemory × ρ)))
    (switches : List (Bool × Timestamp)) (moment : Moment (AlarmMemory × ρ)) :
    Moment (AlarmMemory × ρ) :=
  switches.foldl (fun moment switch ↦ moment.after services switch.2 (.switching switch.1)) moment

/-- Of any number of switches the last counts. -/
theorem Serves.afterSwitches (h : moment.Serves id fields) (switches : List (Bool × Timestamp))
    (now : Timestamp) (on : Bool) :
    let last := moment.afterSwitches (.overMemory newId store) (switches ++ [(on, now)])
    last.resource = { moment.resource with handle := ⟨some id, .switched on⟩ } ∧
    last.world.1.alarms = moment.world.1.alarms.insert id (fields.insert enabled (.bool on)) ∧
    last.world.2 = moment.world.2 ∧
    last.history = ((switches ++ [(on, now)]).map fun switch ↦
      (LifecycleEvent.switching switch.1, Except.ok ())).reverse ++ moment.history := by
  induction switches generalizing moment fields with
  | nil =>
    intro last
    have hlast : last = moment.switched id fields on := h.after_switching newId store now on
    rw [hlast]
    exact ⟨rfl, rfl, rfl, rfl⟩
  | cons first switches ih =>
    obtain ⟨hresource, halarms, hrules, hhistory⟩ := ih (serves_switched h first.1)
    intro last
    have hlast : last = (moment.switched id fields first.1).afterSwitches
        (.overMemory newId store) (switches ++ [(on, now)]) :=
      congrArg (fun next : Moment _ ↦ next.afterSwitches (.overMemory newId store)
        (switches ++ [(on, now)])) (h.after_switching newId store first.2 first.1)
    rw [hlast]
    refine ⟨hresource, ?_, hrules, ?_⟩
    · rw [halarms, OrderedMap.insert_insert]
      exact OrderedMap.insert_insert _ _ _ _
    · rw [hhistory, List.cons_append, List.map_cons, List.reverse_cons, List.append_assoc]
      rfl

end Moment

namespace Resource

/-- Whatever fields the alarm of a resource has, to suspend the resource and to resume it both
succeed, and together they write that the alarm is on and change nothing else: no other field, no
other alarm and no rule.  So they leave the alarms as they were just when the alarm was on. -/
theorem resume_after_suspend {ρ : Type} (newId : Nat → String) (store : RuleStore (StateM ρ))
    {moment : Moment (AlarmMemory × ρ)} {id : String} {fields : Fields}
    (h : moment.Serves id fields) (now later : Timestamp) :
    let resumed := (moment.after (.overMemory newId store) now .suspend).after
      (.overMemory newId store) later .resume
    resumed.history = (.resume, .ok ()) :: (.suspend, .ok ()) :: moment.history ∧
    resumed.resource = { moment.resource with handle := .attached id } ∧
    resumed.world.2 = moment.world.2 ∧
    resumed.world.1.alarms =
      moment.world.1.alarms.insert id (fields.insert enabled (.bool true)) ∧
    (resumed.world.1.alarms = moment.world.1.alarms ↔
      fields.get? enabled = some (.bool true)) := by
  intro resumed
  obtain ⟨hresource, halarms, hrules, hhistory⟩ :=
    h.afterSwitches newId store [(false, now)] later true
  refine ⟨hhistory, hresource, hrules, halarms, ?_⟩
  calc resumed.world.1.alarms = moment.world.1.alarms
    _ ↔ moment.world.1.alarms.insert id (fields.insert enabled (.bool true)) =
        moment.world.1.alarms := Eq.congr_left halarms
    _ ↔ fields = fields.insert enabled (.bool true) := by
      rw [OrderedMap.insert_eq_self_iff, h.stored, Option.some_inj]
    _ ↔ fields.get? enabled = some (.bool true) := by
      rw [eq_comm, OrderedMap.insert_eq_self_iff]

/-- A combination that is on as it was made. -/
theorem resume_after_suspend_of_combination :
    let newId (n : Nat) := String.ofList (List.replicate n 'a')
    let now : Timestamp := ⟨0, 0⟩
    let start : Moment (AlarmMemory × RuleBook) :=
      ⟨[], ⟨.combination, ⟨"OS::Ceilometer::CombinationAlarm", "own", "stack",
        .ofList [(alarmIds, .array [.string "first"])], .empty⟩, {}⟩, {}, .empty⟩
    let created := start.after (.inMemory newId) now .create
    let resumed :=
      (created.after (.inMemory newId) now .suspend).after (.inMemory newId) now .resume
    ∃ fields, created.Serves (newId 0) fields ∧
      resumed.world.1.alarms = created.world.1.alarms := by
  intro newId now start created resumed
  have hserves : created.Serves (newId 0) (CombinationAlarm.createPayload start.resource.context) :=
    ⟨rfl, rfl, rfl⟩
  obtain ⟨-, -, -, -, hsame⟩ := resume_after_suspend newId RuleBook.store hserves now now
  exact ⟨_, hserves, hsame.2 (by decide +kernel)⟩

/-- An alarm on one meter that its description declares off: to suspend it and to resume it succeeds
and switches it on. -/
theorem resumed_alarm_switched_on :
    let newId (n : Nat) := String.ofList (List.replicate n 'a')
    let now : Timestamp := ⟨0, 0⟩
    let start : Moment (AlarmMemory × RuleBook) :=
      ⟨[], ⟨.threshold, ⟨"OS::Ceilometer::Alarm", "own", "stack",
        .ofList [(meterName, .string "cpu_util"), ("threshold", .number (.int 70)),
          (enabled, .bool false)], .empty⟩, {}⟩, {}, .empty⟩
    let created := start.after (.inMemory newId) now .create
    let resumed :=
      (created.after (.inMemory newId) now .suspend).after (.inMemory newId) now .resume
    (∀ entry ∈ resumed.history, entry.2 = .ok ()) ∧
    (∃ fields, created.Serves (newId 0) fields ∧ fields.get? enabled = some (.bool false)) ∧
    (∃ fields, resumed.Serves (newId 0) fields ∧ fields.get? enabled = some (.bool true)) ∧
    resumed.world.1.alarms ≠ created.world.1.alarms := by
  intro newId now start created resumed
  have hbefore : (created.world.1.alarms.get? (newId 0)).bind (·.get? enabled) =
      some (.bool false) := by
    decide +kernel
  have hafter : (resumed.world.1.alarms.get? (newId 0)).bind (·.get? enabled) =
      some (.bool true) := by
    decide +kernel
  refine ⟨by decide, ⟨_, ⟨rfl, rfl, rfl⟩, hbefore⟩, ⟨_, ⟨rfl, rfl, rfl⟩, hafter⟩, fun hsame ↦ ?_⟩
  rw [hsame, hbefore] at hafter
  cases hafter

end Resource

end MeteringAlarms
