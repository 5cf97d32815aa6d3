import MeteringAlarms.Proofs.Adapter.Runs

/-!
# One alarm for each live resource

A resource over services in memory is either idle, and then the services hold what they held before
it, or live, and then they hold one alarm more, the one whose id its handle remembers, and for an
alarm on one meter its watch rule, unless a removal has failed and may have taken the rule already.
`InStep` states this as an equation between the states of the services, so that everything else they
hold is seen to be untouched.  Every callback keeps it, however it ends, and so does every run in
which resources are created only when they are gone.
-/

namespace MeteringAlarms

/-- There is no alarm: the resource is not created yet, or removed. -/
def LifecycleState.IsGone (state : LifecycleState) : Prop :=
  state = .absent ∨ state = .deleted

/-- A resource is created only when it is gone; all else may be asked at any time. -/
def CreatedWhenGone (resource : Resource) : LifecycleEvent → Prop
  | .create => resource.handle.state.IsGone
  | _ => True

/-- A removal has failed since the last creation that succeeded. -/
def removalFailed : List (LifecycleEvent × Except Failure Unit) → Bool
  | [] => false
  | (.delete, .error _) :: _ => true
  | (.create, .ok _) :: _ => false
  | _ :: earlier => removalFailed earlier

namespace Ownership

variable {newId : Nat → String} {start moment : Moment (AlarmMemory × RuleBook)}

/-- The resource has no alarm, and the services hold what they held at the start. -/
structure IsIdle (start moment : Moment (AlarmMemory × RuleBook)) : Prop where
  gone : moment.resource.handle.state.IsGone
  absent : moment.resource.handle.state = .absent → moment.resource.handle.alarmId? = none
  alarms : moment.world.1.alarms = start.world.1.alarms
  rules : moment.world.2 = start.world.2

/-- The watch rule of a live resource is stored, or there is none to store, or its removal has
begun. -/
def HasRule (start moment : Moment (AlarmMemory × RuleBook)) : Prop :=
  (start.resource.type = .threshold ∧ ∃ rule : WatchRule,
    rule.name = start.resource.context.physicalName ∧ rule.state = .delegated ∧
      moment.world.2 = start.world.2.insert start.resource.context.physicalName rule) ∨
  ((start.resource.type = .threshold → removalFailed moment.history = true) ∧
    moment.world.2 = start.world.2)

/-- The services hold one alarm more than at the start, that of the resource. -/
structure IsLive (start moment : Moment (AlarmMemory × RuleBook)) : Prop where
  notGone : ¬moment.resource.handle.state.IsGone
  alarm : ∃ id fields, moment.resource.handle.alarmId? = some id ∧
    moment.world.1.alarms = start.world.1.alarms.insert id fields
  rule : HasRule start moment

/-- The handle and the services agree.  A handle may remember an alarm that is removed, but never
one that was there at the start. -/
structure InStep (newId : Nat → String) (start moment : Moment (AlarmMemory × RuleBook)) :
    Prop where
  resource : moment.resource = { start.resource with handle := moment.resource.handle }
  issued : start.world.1.issued ≤ moment.world.1.issued
  known : ∀ id ∈ moment.resource.handle.alarmId?, ∃ n, start.world.1.issued ≤ n ∧ newId n = id
  phase : IsIdle start moment ∨ IsLive start moment

/-- No id that will be handed out is taken at the start, and neither is the resource's name. -/
structure HasRoom (newId : Nat → String) (start : Moment (AlarmMemory × RuleBook)) : Prop where
  ids : ∀ n, start.world.1.issued ≤ n → start.world.1.alarms.get? (newId n) = none
  name : start.world.2.get? start.resource.context.physicalName = none

theorem InStep.get?_start (hroom : HasRoom newId start) (h : InStep newId start moment)
    {id : String} (hid : moment.resource.handle.alarmId? = some id) :
    start.world.1.alarms.get? id = none := by
  obtain ⟨n, hn, rfl⟩ := h.known id hid
  exact hroom.ids n hn

/-- What leaves the resource, the alarms and the rules as they are leaves them in step. -/
theorem InStep.of_unchanged (h : InStep newId start moment)
    {next : Moment (AlarmMemory × RuleBook)} (hresource : next.resource = moment.resource)
    (hissued : next.world.1.issued = moment.world.1.issued)
    (halarms : next.world.1.alarms = moment.world.1.alarms)
    (hrules : next.world.2 = moment.world.2)
    (hhistory : removalFailed moment.history = true → removalFailed next.history = true) :
    InStep newId start next := by
  refine ⟨?_, ?_, ?_, ?_⟩
  · rw [hresource]
    exact h.resource
  · rw [hissued]
    exact h.issued
  · rw [hresource]
    exact h.known
  · rcases h.phase with hidle | hlive
    · left
      refine ⟨?_, ?_, halarms.trans hidle.alarms, hrules.trans hidle.rules⟩
      · rw [hresource]
        exact hidle.gone
      · rw [hresource]
        exact hidle.absent
    · right
      refine ⟨?_, ?_, ?_⟩
      · rw [hresource]
        exact hlive.notGone
      · rw [hresource, halarms]
        exact hlive.alarm
      · rcases hlive.rule with ⟨htype, rule, hname, hstate, hrule⟩ | ⟨hfailed, hrule⟩
        · exact Or.inl ⟨htype, rule, hname, hstate, hrules.trans hrule⟩
        · exact Or.inr ⟨fun htype ↦ hhistory (hfailed htype), hrules.trans hrule⟩

/-- Changing the alarm of a handle either fails and changes nothing, or the resource is live. -/
theorem InStep.update_cases (hroom : HasRoom newId start) (h : InStep newId start moment)
    {id : String} (hid : moment.resource.handle.alarmId? = some id) (changes : Fields) :
    (∃ failure, (moment.world.1.update id changes).1 = .error failure ∧
      (moment.world.1.update id changes).2.alarms = moment.world.1.alarms ∧
      (moment.world.1.update id changes).2.issued = moment.world.1.issued) ∨
    (∃ fields, (moment.world.1.update id changes).1 = .ok () ∧ IsLive start moment ∧
      (moment.world.1.update id changes).2.alarms = start.world.1.alarms.insert id fields ∧
      (moment.world.1.update id changes).2.issued = moment.world.1.issued) := by
  obtain ⟨hissued, ⟨failure, hfailed, hsame⟩ | ⟨fields, hdone, hfields, hinsert⟩⟩ :=
    moment.world.1.update_effect id changes
  · exact Or.inl ⟨failure, hfailed, hsame, hissued⟩
  · right
    rcases h.phase with hidle | hlive
    · rw [hidle.alarms, h.get?_start hroom hid] at hfields
      cases hfields
    · obtain ⟨id', old, hid', halarms⟩ := hlive.alarm
      obtain rfl : id' = id := Option.some.inj (hid'.symm.trans hid)
      refine ⟨fields.overlay changes, hdone, hlive, ?_, hissued⟩
      rw [hinsert, halarms, OrderedMap.insert_insert]

variable (now : Timestamp)

theorem InStep.after_update (hroom : HasRoom newId start) (h : InStep newId start moment)
    (changes : Fields) :
    InStep newId start (moment.after (.inMemory newId) now (.update changes)) := by
  obtain ⟨history, ⟨type, context, handle⟩, memory, rules⟩ := moment
  rw [Moment.after, Resource.perform_eq, LifecycleEvent.on_update]
  dsimp only
  cases changes.isEmpty with
  | true => exact h.of_unchanged rfl rfl rfl rfl id
  | false =>
    simp only [Bool.false_eq_true, if_false]
    rcases hid : handle.alarmId? with _ | id
    · exact h.of_unchanged rfl rfl rfl rfl id
    · simp only [Services.overMemory_update]
      rcases h.update_cases hroom hid (type.changePayload context changes) with
        ⟨failure, _, halarms, hissued⟩ | ⟨fields, _, hlive, halarms, hissued⟩
      · exact h.of_unchanged rfl hissued halarms rfl fun hfailed ↦ hfailed
      · refine ⟨h.resource, Nat.le_trans h.issued (Nat.le_of_eq hissued.symm), h.known, Or.inr ?_⟩
        exact ⟨hlive.notGone, ⟨id, fields, hid, halarms⟩, hlive.rule⟩

/-- Suspending and resuming: the handle enters the new state only if the alarm was changed. -/
theorem InStep.after_switch (hroom : HasRoom newId start) (h : InStep newId start moment)
    {event : LifecycleEvent} {enabled : Bool} {state : LifecycleState}
    (hevent : event.handle moment.resource.type (.inMemory newId) moment.resource.context now =
      .switch (Services.inMemory newId).alarms enabled state)
    (hhistory : ∀ outcome,
      removalFailed ((event, outcome) :: moment.history) = removalFailed moment.history)
    (hstate : ¬state.IsGone) :
    InStep newId start (moment.after (.inMemory newId) now event) := by
  obtain ⟨history, ⟨type, context, handle⟩, memory, rules⟩ := moment
  rw [Moment.after, Resource.perform_eq, hevent, Callback.on_switch]
  dsimp only
  rcases hid : handle.alarmId? with _ | id
  · exact h.of_unchanged rfl rfl rfl rfl (hhistory _ ▸ fun hfailed ↦ hfailed)
  · simp only [Services.overMemory_update]
    rcases h.update_cases hroom hid (.ofList [(PropertyName.enabled, .bool enabled)]) with
      ⟨failure, houtcome, halarms, hissued⟩ | ⟨fields, houtcome, hlive, halarms, hissued⟩
    · simp only [houtcome]
      exact h.of_unchanged rfl hissued halarms rfl (hhistory _ ▸ fun hfailed ↦ hfailed)
    · simp only [houtcome]
      refine ⟨?_, Nat.le_trans h.issued (Nat.le_of_eq hissued.symm), ?_, Or.inr ?_⟩
      · exact congrArg (fun resource : Resource ↦ { resource with handle := ⟨some id, state⟩ })
          h.resource
      · rw [← hid]
        exact h.known
      · refine ⟨hstate, ⟨id, fields, rfl, halarms⟩, ?_⟩
        rcases hlive.rule with hrule | ⟨hfailed, hrule⟩
        · exact Or.inl hrule
        · exact Or.inr ⟨fun htype ↦ (hhistory _).trans (hfailed htype), hrule⟩

/-- A creation of an idle resource either is refused and changes nothing, or makes it live. -/
theorem InStep.after_create (hroom : HasRoom newId start) (h : InStep newId start moment)
    (hgone : moment.resource.handle.state.IsGone) :
    InStep newId start (moment.after (.inMemory newId) now .create) := by
  have hidle : IsIdle start moment := h.phase.resolve_right fun hlive ↦ hlive.notGone hgone
  have hresource := h.resource
  obtain ⟨history, ⟨type, context, handle⟩, memory, rules⟩ := moment
  obtain ⟨-, -, halarms, hrules⟩ := hidle
  obtain rfl : type = start.resource.type := congrArg Resource.type hresource
  obtain rfl : context = start.resource.context := congrArg Resource.context hresource
  dsimp only at halarms hrules
  rw [Moment.after, Resource.perform_eq]
  dsimp only
  have hattached : ∀ id ∈ (Handle.attached (newId memory.issued)).alarmId?,
      ∃ n, start.world.1.issued ≤ n ∧ newId n = id :=
    fun id hid ↦ ⟨_, h.issued, Option.some.inj hid⟩
  have hactive : ¬LifecycleState.active.IsGone := by
    rintro (hstate | hstate) <;> cases hstate
  have hadded (fields : Fields) :
      memory.alarms.insert (newId memory.issued) fields =
        start.world.1.alarms.insert (newId memory.issued) fields := by
    rw [halarms]
  cases htype : start.resource.type with
  | threshold =>
    rw [LifecycleEvent.handle, ThresholdAlarm.on_create, Services.overMemory_create]
    rcases memory.create_cases newId (ThresholdAlarm.createPayload start.resource.context) with
      ⟨_, hstep⟩ | ⟨_, hstep⟩
    · rw [hstep]
      exact h.of_unchanged (by rw [htype]) rfl rfl rfl fun hfailed ↦ hfailed
    · have hfree : rules.get? start.resource.context.physicalName = none := hrules ▸ hroom.name
      have hcreate : (RuleBook.store.create
            (ThresholdAlarm.watchRule start.resource.context now)).on rules =
          (.ok (), start.world.2.insert start.resource.context.physicalName
            (ThresholdAlarm.watchRule start.resource.context now)) := by
        rw [← hrules]
        exact RuleBook.create_of_none hfree
      rw [hstep]
      simp only [Services.overMemory_createRule, hcreate]
      refine ⟨by rw [← htype], Nat.le_succ_of_le h.issued, hattached, Or.inr ?_⟩
      exact ⟨hactive, ⟨_, _, rfl, hadded _⟩, Or.inl ⟨htype, _, rfl, rfl, rfl⟩⟩
  | combination =>
    rw [LifecycleEvent.handle, CombinationAlarm.on_create, Services.overMemory_create]
    rcases memory.create_cases newId (CombinationAlarm.createPayload start.resource.context) with
      ⟨_, hstep⟩ | ⟨_, hstep⟩
    · rw [hstep]
      exact h.of_unchanged (by rw [htype]) rfl rfl rfl fun hfailed ↦ hfailed
    · rw [hstep]
      refine ⟨by rw [← htype], Nat.le_succ_of_le h.issued, hattached, Or.inr ?_⟩
      refine ⟨hactive, ⟨_, _, rfl, hadded _⟩, Or.inr ⟨fun hthreshold ↦ ?_, hrules⟩⟩
      rw [htype] at hthreshold
      cases hthreshold

/-- Removing the alarm of a handle either fails and changes nothing, or leaves the alarms that were
there at the start. -/
theorem InStep.delete_cases (hroom : HasRoom newId start) (h : InStep newId start moment)
    {id : String} (hid : moment.resource.handle.alarmId? = some id) :
    (∃ failure, ignoreMissing (moment.world.1.delete id).1 = .error failure ∧
      (moment.world.1.delete id).2 = moment.world.1) ∨
    (ignoreMissing (moment.world.1.delete id).1 = .ok () ∧
      (moment.world.1.delete id).2.alarms = start.world.1.alarms ∧
      (moment.world.1.delete id).2.issued = moment.world.1.issued) := by
  rcases moment.world.1.delete_cases id with
    ⟨_, hstep⟩ | ⟨_, hfields, hstep⟩ | ⟨_, hfields, hstep⟩
  · exact Or.inl ⟨_, by rw [hstep]; rfl, by rw [hstep]⟩
  · refine Or.inr ⟨by rw [hstep]; rfl, ?_, by rw [hstep]; rfl⟩
    rcases h.phase with hidle | hlive
    · rw [hstep]
      exact hidle.alarms
    · obtain ⟨id', fields, hid', halarms⟩ := hlive.alarm
      obtain rfl : id' = id := Option.some.inj (hid'.symm.trans hid)
      rw [halarms, OrderedMap.get?_insert, if_pos rfl] at hfields
      cases hfields
  · refine Or.inr ⟨by rw [hstep]; rfl, ?_, by rw [hstep]; rfl⟩
    rcases h.phase with hidle | hlive
    · rw [hidle.alarms, h.get?_start hroom hid] at hfields
      cases hfields
    · obtain ⟨id', fields, hid', halarms⟩ := hlive.alarm
      obtain rfl : id' = id := Option.some.inj (hid'.symm.trans hid)
      rw [hstep]
      change moment.world.1.alarms.erase id' = start.world.1.alarms
      rw [halarms, OrderedMap.erase_insert_of_get?_eq_none (h.get?_start hroom hid)]

/-- Removing the rule of the resource never fails, and leaves the rules that were there at the
start. -/
theorem InStep.removeRule (hroom : HasRoom newId start) (h : InStep newId start moment) :
    ∃ outcome, (ThresholdAlarm.removeRule RuleBook.store start.resource.context.physicalName).on
        moment.world.2 = (outcome, start.world.2) ∧ ignoreMissing outcome = .ok () := by
  have hfree (hrules : moment.world.2 = start.world.2) :
      ∃ outcome, (ThresholdAlarm.removeRule RuleBook.store start.resource.context.physicalName).on
        moment.world.2 = (outcome, start.world.2) ∧ ignoreMissing outcome = .ok () := by
    rw [hrules]
    exact ⟨_, RuleBook.removeRule_of_none hroom.name, rfl⟩
  rcases h.phase with hidle | hlive
  · exact hfree hidle.rules
  · rcases hlive.rule with ⟨_, rule, hname, _, hrules⟩ | ⟨_, hrules⟩
    · refine ⟨.ok (), ?_, rfl⟩
      rw [hrules, RuleBook.removeRule_of_some (by rw [OrderedMap.get?_insert, if_pos rfl]) hname,
        OrderedMap.erase_insert_of_get?_eq_none hroom.name]
    · exact hfree hrules

/-- What is left of a moment when its rule has been removed, with a removal that has failed. -/
theorem InStep.of_ruleRemoved (h : InStep newId start moment)
    {next : Moment (AlarmMemory × RuleBook)} (hresource : next.resource = moment.resource)
    (hissued : next.world.1.issued = moment.world.1.issued)
    (halarms : next.world.1.alarms = moment.world.1.alarms)
    (hrules : next.world.2 = start.world.2) (hfailed : removalFailed next.history = true) :
    InStep newId start next := by
  refine ⟨?_, ?_, ?_, ?_⟩
  · rw [hresource]
    exact h.resource
  · rw [hissued]
    exact h.issued
  · rw [hresource]
    exact h.known
  · rcases h.phase with hidle | hlive
    · left
      refine ⟨?_, ?_, halarms.trans hidle.alarms, hrules⟩
      · rw [hresource]
        exact hidle.gone
      · rw [hresource]
        exact hidle.absent
    · right
      refine ⟨?_, ?_, Or.inr ⟨fun _ ↦ hfailed, hrules⟩⟩
      · rw [hresource]
        exact hlive.notGone
      · rw [hresource, halarms]
        exact hlive.alarm

/-- Removing the alarm is the last step of every removal. -/
theorem InStep.after_removeAlarm (hroom : HasRoom newId start) (h : InStep newId start moment)
    {event : LifecycleEvent}
    (hevent : (event.handle moment.resource.type (.inMemory newId) moment.resource.context now).on
        moment.resource.handle moment.world =
      (CombinationAlarm.delete (.inMemory newId)).on moment.resource.handle
        (moment.world.1, start.world.2))
    (hfailed : ∀ failure, removalFailed ((event, .error failure) :: moment.history) = true) :
    InStep newId start (moment.after (.inMemory newId) now event) := by
  obtain ⟨history, ⟨type, context, handle⟩, memory, rules⟩ := moment
  rw [Moment.after, Resource.perform_eq, hevent, CombinationAlarm.on_delete,
    Callback.on_removeAlarm]
  dsimp only
  have hresource (handle : Handle) :
      (⟨type, context, handle⟩ : Resource) = { start.resource with handle } :=
    congrArg (fun resource : Resource ↦ { resource with handle }) h.resource
  rcases hid : handle.alarmId? with _ | id
  · refine ⟨hresource _, h.issued, fun id hknown ↦ ?_, Or.inl ⟨Or.inr rfl, ?_, ?_, rfl⟩⟩
    · rw [hid] at hknown
      cases hknown
    · intro habsent
      cases habsent
    · rcases h.phase with hidle | hlive
      · exact hidle.alarms
      · obtain ⟨id, fields, hsome, _⟩ := hlive.alarm
        rw [hid] at hsome
        cases hsome
  · simp only [Services.overMemory_delete]
    rcases h.delete_cases hroom hid with ⟨failure, houtcome, hmemory⟩ | ⟨houtcome, halarms, hissued⟩
    · simp only [houtcome, hmemory]
      exact h.of_ruleRemoved rfl rfl rfl rfl (hfailed failure)
    · simp only [houtcome]
      refine ⟨hresource _, Nat.le_trans h.issued (Nat.le_of_eq hissued.symm), h.known, ?_⟩
      refine Or.inl ⟨Or.inr rfl, ?_, halarms, rfl⟩
      intro habsent
      cases habsent

theorem InStep.after_delete (hroom : HasRoom newId start) (h : InStep newId start moment) :
    InStep newId start (moment.after (.inMemory newId) now .delete) := by
  apply h.after_removeAlarm now hroom ?_ fun _ ↦ rfl
  have htype : moment.resource.type = start.resource.type := by rw [h.resource]
  have hcontext : moment.resource.context = start.resource.context := by rw [h.resource]
  rw [htype, hcontext]
  cases hthreshold : start.resource.type with
  | threshold =>
    obtain ⟨outcome, hremoved, hignored⟩ := h.removeRule hroom
    rw [LifecycleEvent.handle, ThresholdAlarm.on_delete, Services.overMemory_removeRule, hremoved]
    dsimp only
    rw [hignored]
  | combination =>
    have hrules : moment.world.2 = start.world.2 := by
      rcases h.phase with hidle | hlive
      · exact hidle.rules
      · rcases hlive.rule with ⟨htype, _⟩ | ⟨_, hrules⟩
        · rw [hthreshold] at htype
          cases htype
        · exact hrules
    rw [LifecycleEvent.handle, ← hrules]

/-- What a callback keeps. -/
theorem InStep.after (hroom : HasRoom newId start) (h : InStep newId start moment)
    (event : LifecycleEvent) (hasked : CreatedWhenGone moment.resource event) :
    InStep newId start (moment.after (.inMemory newId) now event) := by
  cases event with
  | create => exact h.after_create now hroom hasked
  | update changes => exact h.after_update now hroom changes
  | suspend =>
    refine h.after_switch now hroom rfl (fun _ ↦ rfl) ?_
    rintro (hstate | hstate) <;> cases hstate
  | resume =>
    refine h.after_switch now hroom rfl (fun _ ↦ rfl) ?_
    rintro (hstate | hstate) <;> cases hstate
  | delete => exact h.after_delete now hroom

/-- What a run keeps: every callback does, and to switch the service touches no alarm. -/
theorem InStep.of_reachable (hhandle : start.resource.handle = {}) (hroom : HasRoom newId start)
    (h : Reachable (.inMemory newId)
      (fun available world ↦ (world.1.setAvailable available, world.2)) CreatedWhenGone start
      moment) :
    InStep newId start moment := by
  induction h with
  | start =>
    refine ⟨?_, Nat.le_refl _, ?_, Or.inl ⟨?_, ?_, rfl, rfl⟩⟩
    · rfl
    · rw [hhandle]
      intro id hid
      cases hid
    · rw [hhandle]
      exact Or.inl rfl
    · rw [hhandle]
      intro _
      rfl
  | callback event now _ hasked ih => exact ih.after now hroom event hasked
  | switch available _ ih => exact ih.of_unchanged rfl rfl rfl rfl id

end Ownership

open Ownership in
/-- Over services in memory with room for a new resource, whatever is asked of it and however the
service is switched: before its creation a resource remembers no alarm; the alarms stored beyond
those at the start are none while it is gone, and else the one whose id it remembers; no rule has
its name while it is gone, and else, for an alarm on one meter, a delegated one has, unless a
removal has failed since the creation; all alarms and rules of the start stay as they were. -/
theorem Resource.in_step_with_memory {newId : Nat → String}
    {start moment : Moment (AlarmMemory × RuleBook)} (hhandle : start.resource.handle = {})
    (hroom : HasRoom newId start)
    (hrun : Reachable (.inMemory newId)
      (fun available world ↦ (world.1.setAvailable available, world.2)) CreatedWhenGone start
      moment) :
    (moment.resource.handle.state = .absent → moment.resource.handle.alarmId? = none) ∧
    (moment.resource.handle.state.IsGone → moment.world.1.alarms = start.world.1.alarms) ∧
    (¬moment.resource.handle.state.IsGone →
      ∃ id fields, moment.resource.handle.alarmId? = some id ∧
        start.world.1.alarms.get? id = none ∧
        moment.world.1.alarms = start.world.1.alarms.insert id fields) ∧
    (moment.resource.handle.state.IsGone →
      moment.world.2.get? start.resource.context.physicalName = none) ∧
    (start.resource.type = .threshold → ¬moment.resource.handle.state.IsGone →
      removalFailed moment.history = false →
      ∃ rule, moment.world.2.get? start.resource.context.physicalName = some rule ∧
        rule.name = start.resource.context.physicalName ∧ rule.state = .delegated) ∧
    (∀ id fields, start.world.1.alarms.get? id = some fields →
      moment.world.1.alarms.get? id = some fields) ∧
    (∀ name rule, start.world.2.get? name = some rule →
      moment.world.2.get? name = some rule) := by
  have h := InStep.of_reachable hhandle hroom hrun
  have hlive (hnotGone : ¬moment.resource.handle.state.IsGone) : IsLive start moment :=
    h.phase.resolve_left fun hidle ↦ hnotGone hidle.gone
  have hidle (hgone : moment.resource.handle.state.IsGone) : IsIdle start moment :=
    h.phase.resolve_right fun hlive ↦ hlive.notGone hgone
  refine ⟨?_, ?_, ?_, ?_, ?_, ?_, ?_⟩
  · intro habsent
    exact (hidle (Or.inl habsent)).absent habsent
  · intro hgone
    exact (hidle hgone).alarms
  · intro hnotGone
    obtain ⟨id, fields, hid, halarms⟩ := (hlive hnotGone).alarm
    exact ⟨id, fields, hid, h.get?_start hroom hid, halarms⟩
  · intro hgone
    rw [(hidle hgone).rules]
    exact hroom.name
  · intro htype hnotGone hfailed
    rcases (hlive hnotGone).rule with ⟨_, rule, hname, hstate, hrules⟩ | ⟨hremoved, _⟩
    · refine ⟨rule, ?_, hname, hstate⟩
      rw [hrules, OrderedMap.get?_insert, if_pos rfl]
    · rw [hremoved htype] at hfailed
      cases hfailed
  · intro id fields hfields
    by_cases hgone : moment.resource.handle.state.IsGone
    · rw [(hidle hgone).alarms]
      exact hfields
    · obtain ⟨own, _, hown, halarms⟩ := (hlive hgone).alarm
      rw [halarms]
      exact OrderedMap.get?_insert_of_get?_eq_none (h.get?_start hroom hown) hfields _
  · intro name rule hrule
    by_cases hgone : moment.resource.handle.state.IsGone
    · rw [(hidle hgone).rules]
      exact hrule
    · rcases (hlive hgone).rule with ⟨_, _, _, _, hrules⟩ | ⟨_, hrules⟩
      · rw [hrules]
        exact OrderedMap.get?_insert_of_get?_eq_none hroom.name hrule _
      · rw [hrules]
        exact hrule

open Ownership in
/-- A creation, a suspension and a removal that fails halfway, beside an alarm and a rule of
others. -/
theorem Resource.in_step_with_memory_of_failed_removal :
    let newId (n : Nat) := String.ofList (List.replicate n 'a')
    let now : Timestamp := ⟨0, 0⟩
    let other : WatchRule := .made "other" .null "stack" .normal now
    let start : Moment (AlarmMemory × RuleBook) :=
      ⟨[], ⟨.threshold, ⟨"OS::Ceilometer::Alarm", "own", "stack", .empty, .empty⟩, {}⟩,
        { alarms := .ofList [("b", .empty)] }, .ofList [("other", other)]⟩
    let moment :=
      (((start.after (.inMemory newId) now .create).after (.inMemory newId) now .suspend).withWorld
        fun world ↦ (world.1.setAvailable false, world.2)).after (.inMemory newId) now .delete
    HasRoom newId start ∧
    Reachable (.inMemory newId) (fun available world ↦ (world.1.setAvailable available, world.2))
      CreatedWhenGone start moment ∧
    ¬moment.resource.handle.state.IsGone ∧ removalFailed moment.history = true ∧
    ∃ id fields, moment.resource.handle.alarmId? = some id ∧
      start.world.1.alarms.get? id = none ∧
      moment.world.1.alarms = start.world.1.alarms.insert id fields := by
  intro newId now other start moment
  have hroom : HasRoom newId start := by
    refine ⟨fun n _ ↦ ?_, rfl⟩
    have hne : newId n ≠ "b" := by
      intro heq
      have hchars : List.replicate n 'a' = ['b'] := String.ofList_injective heq
      have hmem : 'b' ∈ List.replicate n 'a' := hchars ▸ List.mem_singleton.2 rfl
      exact absurd (List.eq_of_mem_replicate hmem) (by decide)
    change (OrderedMap.empty.insert "b" OrderedMap.empty).get? (newId n) = none
    rw [OrderedMap.get?_insert, if_neg hne, OrderedMap.get?_empty]
  have hrun : Reachable (.inMemory newId)
      (fun available world ↦ (world.1.setAvailable available, world.2)) CreatedWhenGone start
      moment := by
    refine .callback .delete now (.switch false (.callback .suspend now (.callback .create now
      .start (Or.inl rfl)) trivial)) trivial
  have hstate : ¬moment.resource.handle.state.IsGone := by
    rintro (hstate | hstate) <;> exact absurd hstate (by decide)
  exact ⟨hroom, hrun, hstate, by decide, (in_step_with_memory rfl hroom hrun).2.2.1 hstate⟩

end MeteringAlarms
