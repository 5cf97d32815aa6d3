import MeteringAlarms.Proofs.Adapter.Runs
import MeteringAlarms.Proofs.Payload.Combination
import MeteringAlarms.Proofs.Payload.Threshold
import MeteringAlarms.Proofs.Remote.Handles

/-!
# Suspended resources and alarms that are off

A resource enters the suspended state when its alarm was switched off, and it leaves the state only
by a resumption, a removal or another creation.  Its alarm need not stay off that long: an update
may name the field `enabled`, which it then writes, while it never writes the state.  So the alarm
of a suspended resource is always stored, but whether it is off is up to the updates since the
suspension.  `flagSinceSuspension` reads that from the callbacks, and every step of a run keeps the
alarm's field equal to it.
-/

namespace MeteringAlarms

open PropertyName

/-- What `enabled` was set to by the callbacks since the last suspension, the suspension included;
the latest callback comes first. -/
def flagSinceSuspension : List (LifecycleEvent × Except Failure Unit) → Json
  | [] => .bool false
  | (.suspend, .ok ()) :: _ => .bool false
  | (.update changes, .ok ()) :: earlier =>
    (changes.get? enabled).getD (flagSinceSuspension earlier)
  | _ :: earlier => flagSinceSuspension earlier

/-- What is neither a list of actions nor metadata nor of a rule, an update sends as it is asked
to. -/
theorem ResourceType.get?_changePayload_of_plain (type : ResourceType) (context : Context)
    (changes : Fields) {key : String} (hactions : key ∉ actionLists)
    (hmetadata : key ≠ matchingMetadata) (hfields : key ∉ Payload.combinationFields)
    (hrule : key ≠ Payload.combinationRule) :
    (type.changePayload context changes).get? key = changes.get? key := by
  have hresolve (value : Json) : Actions.resolveValue context.resources key value = value :=
    Actions.resolveValue_of_notMem context.resources hactions value
  cases type with
  | threshold =>
    have hvalue (meter? : Option String) :
        Payload.thresholdValue context.resources meter? key = fun value ↦ value := by
      funext value
      rw [Payload.thresholdValue, if_neg hmetadata, hresolve]
    rw [changePayload, ThresholdAlarm.get?_changePayload, hvalue, Option.map_id']
  | combination =>
    rw [changePayload, CombinationAlarm.changePayload, Payload.combination,
      Payload.get?_reshapeCombination_of_notMem _ hfields hrule, Actions.get?_resolve]
    cases changes.get? key with
    | none => rfl
    | some value => rw [Option.map_some, hresolve]

theorem ResourceType.get?_enabled_changePayload (type : ResourceType) (context : Context)
    (changes : Fields) :
    (type.changePayload context changes).get? enabled = changes.get? enabled :=
  type.get?_changePayload_of_plain context changes (by decide) (by decide) (by decide) (by decide)

namespace Suspension

variable {ρ : Type} {newId : Nat → String} {store : RuleStore (StateM ρ)}
  {moment : Moment (AlarmMemory × ρ)}

/-- A callback that failed has set nothing. -/
theorem flag_of_failed (event : LifecycleEvent) (failure : Failure)
    (earlier : List (LifecycleEvent × Except Failure Unit)) :
    flagSinceSuspension ((event, .error failure) :: earlier) = flagSinceSuspension earlier := by
  cases event <;> rfl

/-- The alarm that the handle remembers was handed out by the service, and while the resource is
suspended it is stored with the field that the callbacks left it. -/
structure Holds (newId : Nat → String) (moment : Moment (AlarmMemory × ρ)) : Prop where
  issued : ∀ id ∈ moment.resource.handle.alarmId?, ∃ n < moment.world.1.issued, newId n = id
  flag : moment.resource.handle.state = .suspended →
    ∃ id fields, moment.resource.handle.alarmId? = some id ∧
      moment.world.1.alarms.get? id = some fields ∧
      fields.get? enabled = some (flagSinceSuspension moment.history)

/-- What leaves the resource and its alarm as they are keeps the invariant. -/
theorem Holds.of_unchanged (h : Holds newId moment) {next : Moment (AlarmMemory × ρ)}
    (hresource : next.resource = moment.resource)
    (hissued : moment.world.1.issued ≤ next.world.1.issued)
    (halarm : ∀ id ∈ moment.resource.handle.alarmId?,
      next.world.1.alarms.get? id = moment.world.1.alarms.get? id)
    (hflag : flagSinceSuspension next.history = flagSinceSuspension moment.history) :
    Holds newId next := by
  refine ⟨fun id hid ↦ ?_, fun hstate ↦ ?_⟩
  · rw [hresource] at hid
    obtain ⟨n, hn, hnew⟩ := h.issued id hid
    exact ⟨n, Nat.lt_of_lt_of_le hn hissued, hnew⟩
  · rw [hresource] at hstate
    obtain ⟨id, fields, hid, hfields, hvalue⟩ := h.flag hstate
    refine ⟨id, fields, hresource ▸ hid, (halarm id hid).trans hfields, ?_⟩
    rw [hflag, hvalue]

/-- A resource that has left the suspended state, with an alarm that the service handed out. -/
theorem Holds.of_notSuspended {history : List (LifecycleEvent × Except Failure Unit)}
    {resource : Resource} {memory : AlarmMemory} {rules : ρ}
    (hissued : ∀ id ∈ resource.handle.alarmId?, ∃ n < memory.issued, newId n = id)
    (hstate : resource.handle.state ≠ .suspended) :
    Holds newId ⟨history, resource, memory, rules⟩ :=
  ⟨hissued, fun hsuspended ↦ absurd hsuspended hstate⟩

/-- A removal of one alarm touches no other. -/
theorem delete_frame (memory : AlarmMemory) (id : String) :
    (memory.delete id).2.issued = memory.issued ∧
    ∀ other, other ≠ id → (memory.delete id).2.alarms.get? other = memory.alarms.get? other := by
  rcases memory.delete_cases id with ⟨_, hstep⟩ | ⟨_, _, hstep⟩ | ⟨_, _, hstep⟩
  · rw [hstep]
    exact ⟨rfl, fun _ _ ↦ rfl⟩
  · rw [hstep]
    exact ⟨rfl, fun _ _ ↦ rfl⟩
  · rw [hstep]
    refine ⟨rfl, fun other hother ↦ ?_⟩
    rw [OrderedMap.get?_erase, if_neg hother]

variable (now : Timestamp)

theorem Holds.after_update (h : Holds newId moment) (changes : Fields) :
    Holds newId (moment.after (.overMemory newId store) now (.update changes)) := by
  obtain ⟨history, ⟨type, context, handle⟩, memory, rules⟩ := moment
  rw [Moment.after, Resource.perform_eq, LifecycleEvent.on_update]
  dsimp only
  cases hempty : changes.isEmpty with
  | true =>
    refine h.of_unchanged rfl (Nat.le_refl _) (fun _ _ ↦ rfl) ?_
    change (changes.get? enabled).getD (flagSinceSuspension history) = _
    rw [OrderedMap.isEmpty_iff.1 hempty, Option.getD_none]
  | false =>
    simp only [Bool.false_eq_true, if_false]
    rcases hid : handle.alarmId? with _ | id
    · exact h.of_unchanged rfl (Nat.le_refl _) (fun _ _ ↦ rfl) (flag_of_failed _ _ _)
    · simp only [Services.overMemory_update]
      obtain ⟨hissued, ⟨failure, houtcome, halarms⟩ | ⟨fields, houtcome, hfields, halarms⟩⟩ :=
        memory.update_effect id (type.changePayload context changes)
      · rw [houtcome]
        exact h.of_unchanged rfl (Nat.le_of_eq hissued.symm)
          (fun other _ ↦ congrArg (·.get? other) halarms) (flag_of_failed _ _ _)
      · refine ⟨fun other hother ↦ ?_, fun hstate ↦ ?_⟩
        · rw [hissued]
          exact h.issued other hother
        · obtain ⟨id', fields', hid', hfields', hvalue⟩ := h.flag hstate
          obtain rfl : id' = id := Option.some.inj (hid'.symm.trans hid)
          obtain rfl : fields' = fields := Option.some.inj (hfields'.symm.trans hfields)
          refine ⟨id', _, hid, by rw [halarms, OrderedMap.get?_insert, if_pos rfl], ?_⟩
          rw [OrderedMap.get?_overlay, type.get?_enabled_changePayload, hvalue, houtcome]
          change _ = some ((changes.get? enabled).getD (flagSinceSuspension history))
          cases changes.get? enabled <;> rfl

/-- Suspending and resuming: the handle enters the new state only together with the flag. -/
theorem Holds.after_switch (h : Holds newId moment) {event : LifecycleEvent} {on : Bool}
    {state : LifecycleState}
    (hevent : event.handle moment.resource.type (.overMemory newId store) moment.resource.context
      now = .switch (Services.overMemory newId store).alarms on state)
    (hstate : state = .suspended →
      flagSinceSuspension ((event, .ok ()) :: moment.history) = .bool on) :
    Holds newId (moment.after (.overMemory newId store) now event) := by
  obtain ⟨history, ⟨type, context, handle⟩, memory, rules⟩ := moment
  rw [Moment.after, Resource.perform_eq, hevent, Callback.on_switch]
  dsimp only
  rcases hid : handle.alarmId? with _ | id
  · -- without an alarm nothing happens, and the resource was not suspended
    refine ⟨h.issued, fun hsuspended ↦ ?_⟩
    obtain ⟨id, _, hsome, _⟩ := h.flag hsuspended
    exact absurd (hsome.symm.trans hid) (Option.some_ne_none id)
  · simp only [Services.overMemory_update]
    obtain ⟨hissued, ⟨failure, houtcome, halarms⟩ | ⟨fields, houtcome, hfields, halarms⟩⟩ :=
      memory.update_effect id (.ofList [(enabled, .bool on)])
    · simp only [houtcome]
      exact h.of_unchanged rfl (Nat.le_of_eq hissued.symm)
        (fun other _ ↦ congrArg (·.get? other) halarms) (flag_of_failed _ _ _)
    · simp only [houtcome]
      refine ⟨fun other hother ↦ ?_, fun hsuspended ↦ ?_⟩
      · rw [hissued]
        exact h.issued other (hid.trans hother)
      · refine ⟨id, _, rfl, by rw [halarms, OrderedMap.get?_insert, if_pos rfl], ?_⟩
        rw [OrderedMap.get?_overlay, OrderedMap.get?_ofList_singleton, if_pos rfl, Option.some_or,
          hstate hsuspended]

/-- A creation that succeeds makes the resource active; one that fails has at most made another
alarm and withdrawn it. -/
theorem Holds.after_create (hnewId : Function.Injective newId) (h : Holds newId moment) :
    Holds newId (moment.after (.overMemory newId store) now .create) := by
  obtain ⟨history, ⟨type, context, handle⟩, memory, rules⟩ := moment
  have hother (id : String) (hid : id ∈ handle.alarmId?) : id ≠ newId memory.issued := by
    rintro rfl
    obtain ⟨n, hn, heq⟩ := h.issued _ hid
    exact absurd (hnewId heq) (Nat.ne_of_lt hn)
  have hattached : ∀ id ∈ (Handle.attached (newId memory.issued)).alarmId?,
      ∃ n < memory.issued + 1, newId n = id :=
    fun id hid ↦ ⟨_, Nat.lt_succ_self _, Option.some.inj hid⟩
  have hactive : (Handle.attached (newId memory.issued)).state ≠ .suspended := by
    rintro ⟨⟩
  rw [Moment.after, Resource.perform_eq]
  cases type with
  | threshold =>
    rw [LifecycleEvent.handle, ThresholdAlarm.on_create, Services.overMemory_create]
    rcases memory.create_cases newId (ThresholdAlarm.createPayload context) with
      ⟨_, hstep⟩ | ⟨_, hstep⟩
    · rw [hstep]
      exact h.of_unchanged rfl (Nat.le_refl _) (fun _ _ ↦ rfl) (flag_of_failed _ _ _)
    · rw [hstep]
      simp only [Services.overMemory_createRule]
      rcases (store.create (ThresholdAlarm.watchRule context now)).on rules with
        ⟨failure | _, rules'⟩
      · obtain ⟨hissued, halarms⟩ := delete_frame
          { memory.record (.create (ThresholdAlarm.createPayload context)) with
            alarms := memory.alarms.insert (newId memory.issued)
              (ThresholdAlarm.createPayload context)
            issued := memory.issued + 1 } (newId memory.issued)
        simp only [Services.overMemory_delete]
        refine h.of_unchanged rfl ?_ (fun id hid ↦ ?_) (flag_of_failed _ _ _)
        · exact Nat.le_of_lt (Nat.lt_of_lt_of_eq (Nat.lt_succ_self _) hissued.symm)
        · exact (halarms id (hother id hid)).trans
            (by rw [OrderedMap.get?_insert, if_neg (hother id hid)])
      · exact .of_notSuspended hattached hactive
  | combination =>
    rw [LifecycleEvent.handle, CombinationAlarm.on_create, Services.overMemory_create]
    rcases memory.create_cases newId (CombinationAlarm.createPayload context) with
      ⟨_, hstep⟩ | ⟨_, hstep⟩
    · rw [hstep]
      exact h.of_unchanged rfl (Nat.le_refl _) (fun _ _ ↦ rfl) (flag_of_failed _ _ _)
    · rw [hstep]
      exact .of_notSuspended hattached hactive

/-- The removal of an alarm fails and changes nothing, or the resource is deleted. -/
theorem removal_cases (handle : Handle) (memory : AlarmMemory) (rules : ρ) :
    (∃ failure, (CombinationAlarm.delete (.overMemory newId store)).on handle (memory, rules) =
      (.error failure, handle, memory, rules)) ∨
    ∃ left : AlarmMemory, left.issued = memory.issued ∧
      (CombinationAlarm.delete (.overMemory newId store)).on handle (memory, rules) =
        (.ok (), { handle with state := .deleted }, left, rules) := by
  rw [CombinationAlarm.on_delete, Callback.on_removeAlarm]
  obtain ⟨_ | id, state⟩ := handle
  · exact Or.inr ⟨memory, rfl, rfl⟩
  · simp only [Services.overMemory_delete]
    rcases memory.delete_cases id with ⟨_, hstep⟩ | ⟨_, _, hstep⟩ | ⟨_, _, hstep⟩
    · rw [hstep]
      exact Or.inl ⟨_, rfl⟩
    · rw [hstep]
      exact Or.inr ⟨memory.record (.delete id), rfl, rfl⟩
    · rw [hstep]
      exact Or.inr ⟨{ memory.record (.delete id) with alarms := memory.alarms.erase id }, rfl, rfl⟩

theorem Holds.after_delete (h : Holds newId moment) :
    Holds newId (moment.after (.overMemory newId store) now .delete) := by
  obtain ⟨history, ⟨type, context, handle⟩, memory, rules⟩ := moment
  have hremoval (type : ResourceType) (rules' : ρ) :
      let (outcome, handle, world) :=
        (CombinationAlarm.delete (.overMemory newId store)).on handle (memory, rules')
      Holds newId ⟨(.delete, outcome) :: history, ⟨type, context, handle⟩, world⟩ := by
    rcases removal_cases handle memory rules' with ⟨failure, hstep⟩ | ⟨left, hissued, hstep⟩
    · rw [hstep]
      exact ⟨h.issued, h.flag⟩
    · rw [hstep]
      refine .of_notSuspended (fun id hid ↦ ?_) (by rintro ⟨⟩)
      rw [hissued]
      exact h.issued id hid
  rw [Moment.after, Resource.perform_eq]
  cases type with
  | threshold =>
    simp only [LifecycleEvent.handle, ThresholdAlarm.on_delete, Services.overMemory_removeRule]
    rcases (ThresholdAlarm.removeRule store context.physicalName).on rules with ⟨outcome, rules'⟩
    rcases ignoreMissing outcome with failure | _
    · exact ⟨h.issued, h.flag⟩
    · exact hremoval .threshold rules'
  | combination => exact hremoval .combination rules

/-- Every callback keeps the invariant. -/
theorem Holds.after (hnewId : Function.Injective newId) (h : Holds newId moment)
    (event : LifecycleEvent) : Holds newId (moment.after (.overMemory newId store) now event) := by
  cases event with
  | create => exact h.after_create now hnewId
  | update changes => exact h.after_update now changes
  | suspend => exact h.after_switch now rfl fun _ ↦ rfl
  | resume => exact h.after_switch now rfl (by rintro ⟨⟩)
  | delete => exact h.after_delete now

/-- What a run keeps: every callback does, and to switch the service touches no alarm. -/
theorem Holds.of_reachable {start : Moment (AlarmMemory × ρ)} (hnewId : Function.Injective newId)
    (hhandle : start.resource.handle = {})
    (h : Reachable (.overMemory newId store)
      (fun available world ↦ (world.1.setAvailable available, world.2)) (fun _ _ ↦ True) start
      moment) :
    Holds newId moment := by
  induction h with
  | start =>
    obtain ⟨history, ⟨type, context, _⟩, memory, rules⟩ := start
    obtain rfl := hhandle
    exact .of_notSuspended (by rintro _ ⟨⟩) (by rintro ⟨⟩)
  | callback event now _ _ ih => exact ih.after now hnewId event
  | switch available _ ih => exact ⟨ih.issued, ih.flag⟩

/-- While no update has set `enabled` to anything else, a suspension keeps the alarm off. -/
theorem flag_eq_false {history : List (LifecycleEvent × Except Failure Unit)}
    (h : ∀ changes value, (LifecycleEvent.update changes, Except.ok ()) ∈ history →
      changes.get? enabled = some value → value = .bool false) :
    flagSinceSuspension history = .bool false := by
  induction history with
  | nil => rfl
  | cons entry earlier ih =>
    have hearlier := ih fun changes value hmem ↦ h changes value (List.mem_cons_of_mem _ hmem)
    obtain ⟨event, failure | _⟩ := entry
    · rw [flag_of_failed, hearlier]
    · cases event with
      | update changes =>
        rw [flagSinceSuspension, hearlier]
        cases hvalue : changes.get? enabled with
        | none => rfl
        | some value => exact h changes value List.mem_cons_self hvalue
      | suspend => rfl
      | create | resume | delete => exact hearlier

end Suspension

/-- In every run from before its creation, whatever is asked of a resource, however the service is
switched and whatever the rule store does, the alarm of a suspended resource is stored under the id
that the resource remembers.  Its field `enabled` is false from the suspension on until an update
that succeeds names it, and after that what the latest such update gave it; so the alarm is off
throughout if no update gave it another value. -/
theorem Resource.suspended_flag {ρ : Type} {newId : Nat → String} {store : RuleStore (StateM ρ)}
    {start moment : Moment (AlarmMemory × ρ)} (hnewId : Function.Injective newId)
    (hhandle : start.resource.handle = {})
    (hrun : Reachable (.overMemory newId store)
      (fun available world ↦ (world.1.setAvailable available, world.2)) (fun _ _ ↦ True) start
      moment)
    (hstate : moment.resource.handle.state = .suspended) :
    ∃ id fields, moment.resource.handle.alarmId? = some id ∧
      moment.world.1.alarms.get? id = some fields ∧
      fields.get? enabled = some (flagSinceSuspension moment.history) ∧
      ((∀ changes value, (LifecycleEvent.update changes, Except.ok ()) ∈ moment.history →
          changes.get? enabled = some value → value = .bool false) →
        fields.get? enabled = some (.bool false)) := by
  obtain ⟨id, fields, hid, hfields, hvalue⟩ :=
    (Suspension.Holds.of_reachable hnewId hhandle hrun).flag hstate
  refine ⟨id, fields, hid, hfields, hvalue, fun hupdates ↦ ?_⟩
  rw [hvalue, Suspension.flag_eq_false hupdates]

/-- A combination that is updated while it is suspended, with the service away for a moment. -/
theorem Resource.suspended_flag_of_new_description :
    let newId (n : Nat) := String.ofList (List.replicate n 'a')
    let now : Timestamp := ⟨0, 0⟩
    let start : Moment (AlarmMemory × RuleBook) :=
      ⟨[], ⟨.combination, ⟨"OS::Ceilometer::CombinationAlarm", "own", "stack",
        .ofList [(alarmIds, .array [.string "first"])], .empty⟩, {}⟩, {}, .empty⟩
    let changes : Fields := .ofList [(description, .string "of both"), (enabled, .bool true)]
    let suspended :=
      (start.after (.inMemory newId) now .create).after (.inMemory newId) now .suspend
    let moment := ((suspended.withWorld fun world ↦ (world.1.setAvailable false, world.2)).after
      (.inMemory newId) now (.update changes))
    moment.resource.handle.state = .suspended ∧
    ∃ id fields, moment.resource.handle.alarmId? = some id ∧
      moment.world.1.alarms.get? id = some fields ∧
      fields.get? enabled = some (.bool false) := by
  intro newId now start changes suspended moment
  have hnewId : Function.Injective newId := injective_ofList_replicate 'a'
  have hrun : Reachable (.inMemory newId)
      (fun available world ↦ (world.1.setAvailable available, world.2)) (fun _ _ ↦ True) start
      moment :=
    .callback (.update changes) now (.switch false (.callback .suspend now (.callback .create now
      .start trivial) trivial)) trivial
  have hstate : moment.resource.handle.state = .suspended := by decide
  obtain ⟨id, fields, hid, hfields, hvalue, -⟩ := suspended_flag hnewId rfl hrun hstate
  exact ⟨hstate, id, fields, hid, hfields, hvalue⟩

/-- A suspended alarm on one meter that an update switches on again: every change is to a property
that may be changed, and the resource is still suspended while its alarm is on. -/
theorem Resource.suspended_alarm_switched_on :
    let newId (n : Nat) := String.ofList (List.replicate n 'a')
    let now : Timestamp := ⟨0, 0⟩
    let start : Moment (AlarmMemory × RuleBook) :=
      ⟨[], ⟨.threshold, ⟨"OS::Ceilometer::Alarm", "own", "stack",
        .ofList [(meterName, .string "cpu_util"), ("threshold", .string "70")], .empty⟩, {}⟩,
        {}, .empty⟩
    let changes : Fields := .ofList [(enabled, .bool true)]
    let moment := ((start.after (.inMemory newId) now .create).after (.inMemory newId) now
      .suspend).after (.inMemory newId) now (.update changes)
    Reachable (.inMemory newId) (fun available world ↦ (world.1.setAvailable available, world.2))
      (fun _ _ ↦ True) start moment ∧
    (∀ entry ∈ changes.entries, ∃ property ∈ Schema.threshold, property.name = entry.1 ∧
      property.updatable = true) ∧
    (∀ entry ∈ moment.history, entry.2 = .ok ()) ∧
    moment.resource.handle.state = .suspended ∧
    ∃ id fields, moment.resource.handle.alarmId? = some id ∧
      moment.world.1.alarms.get? id = some fields ∧
      fields.get? enabled = some (.bool true) := by
  intro newId now start changes moment
  refine ⟨?_, ?_, ?_, ?_, ?_⟩
  · exact .callback (.update changes) now (.callback .suspend now (.callback .create now .start
      trivial) trivial) trivial
  · decide
  · decide +kernel
  · decide +kernel
  · exact ⟨newId 0, _, rfl, rfl, by decide +kernel⟩

end MeteringAlarms
