import MeteringAlarms.Proofs.Adapter.Removal

/-!
# Resources that share services

Several alarms on one meter, each with an adapter of its own, share an alarm service and a rule
store.  Rules are looked up by name alone, so a removal takes the rule of its name even if the
resource has no alarm and the rule belongs to another one.  That cannot happen where names are
distinct and none is taken at the start: then a resource without an alarm has no rule either, in
every state that some run of callbacks leads to.
-/

namespace MeteringAlarms

variable {ι σ ω : Type}

namespace RuleKeeping

variable (keeping : RuleKeeping) (verdict : Verdict) (name : String) (rules : RuleBook)
  (folder : Folder)

theorem destroy_of_none (h : rules.get? name = none) :
    ((keeping.store verdict).destroy name).on (rules, folder) =
      (.error (.ruleMissing name), rules, folder) := by
  cases keeping with
  | memory =>
    have hstep : ((RuleKeeping.memory.store verdict).destroy name).on (rules, folder) =
      ((RuleBook.destroy name rules).1, (RuleBook.destroy name rules).2, folder) := rfl
    rw [hstep]
    rcases RuleBook.destroy_cases name rules with ⟨_, hdestroy⟩ | ⟨htaken, _⟩
    · rw [hdestroy]
    · rw [h] at htaken
      cases htaken
  | snapshot directory =>
    rw [store, Snapshot.on_destroy, h]

variable {rules} in
/-- Removing a rule adds none, even where rules are stored under names that are not theirs. -/
theorem get?_removeRule {other : String} (h : rules.get? other = none) :
    ((ThresholdAlarm.removeRule (keeping.store verdict) name).on (rules, folder)).2.1.get? other =
      none := by
  rw [ThresholdAlarm.on_removeRule, load_eq, RuleBook.load]
  cases rules.get? name with
  | none => exact h
  | some rule =>
    dsimp only
    cases hrule : rules.get? rule.name with
    | none =>
      rw [keeping.destroy_of_none verdict rule.name rules folder hrule]
      exact h
    | some stored =>
      rcases keeping.destroy_of_some verdict rule.name rules folder hrule with
        ⟨_, hstep⟩ | ⟨_, files, _, hstep⟩
      · rw [hstep]
        dsimp only
        rw [OrderedMap.get?_erase, h, ite_self]
      · rw [hstep]
        exact h

end RuleKeeping

/-- Resources and the state of the services that they share. -/
structure Fleet (ι ω : Type) where
  resources : ι → Resource
  world : ω

namespace Fleet

variable [DecidableEq ι]

/-- The fleet after a callback of one of its resources. -/
def after (services : Services (StateM ω)) (now : Timestamp) (event : LifecycleEvent) (i : ι)
    (fleet : Fleet ι ω) : Fleet ι ω :=
  let (_, resource, world) := (fleet.resources i).perform services now event fleet.world
  ⟨Function.update fleet.resources i resource, world⟩

variable (services : Services (StateM ω)) (now : Timestamp) (event : LifecycleEvent)
  (fleet : Fleet ι ω)

theorem resources_after_self (i : ι) :
    (fleet.after services now event i).resources i =
      ((fleet.resources i).perform services now event fleet.world).2.1 :=
  Function.update_self ..

theorem resources_after_of_ne {i j : ι} (h : j ≠ i) :
    (fleet.after services now event i).resources j = fleet.resources j :=
  Function.update_of_ne h ..

/-- The fleets that runs of callbacks lead to.  What steps on files come to is up to each callback,
and the alarm service may change on its own in between. -/
inductive Reachable (alarms : AlarmService (StateM σ)) (keeping : RuleKeeping)
    (start : Fleet ι (σ × RuleBook × Folder)) : Fleet ι (σ × RuleBook × Folder) → Prop
  | start : Reachable alarms keeping start start
  | callback {fleet : Fleet ι (σ × RuleBook × Folder)} (i : ι) (event : LifecycleEvent)
      (now : Timestamp) (verdict : Verdict) (before : Reachable alarms keeping start fleet) :
      Reachable alarms keeping start
        (fleet.after (.join alarms (keeping.store verdict)) now event i)
  | change {fleet : Fleet ι (σ × RuleBook × Folder)} (state : σ)
      (before : Reachable alarms keeping start fleet) :
      Reachable alarms keeping start ⟨fleet.resources, state, fleet.world.2⟩

end Fleet

/-- What a callback of a resource may do to the rules of the store: it adds none but that of the
resource, which then has an alarm.  A resource never forgets its alarm. -/
structure AddsOwnRuleOnly (resource : Resource) (rules : RuleBook) (handle : Handle)
    (rules' : RuleBook) : Prop where
  alarm : handle.alarmId? = none → resource.handle.alarmId? = none
  rules : ∀ name, rules.get? name = none → rules'.get? name = none ∨
    name = resource.context.physicalName ∧ handle.alarmId?.isSome

theorem AddsOwnRuleOnly.of_subset {resource : Resource} {rules rules' : RuleBook} {handle : Handle}
    (hhandle : handle.alarmId? = resource.handle.alarmId?)
    (hrules : ∀ name, rules.get? name = none → rules'.get? name = none) :
    AddsOwnRuleOnly resource rules handle rules' :=
  ⟨fun hnone ↦ hhandle ▸ hnone, fun name hname ↦ Or.inl (hrules name hname)⟩

namespace ThresholdAlarm

variable (alarms : AlarmService (StateM σ)) (keeping : RuleKeeping) (verdict : Verdict)
  (now : Timestamp) (context : Context) (handle : Handle) (state : σ) (rules : RuleBook)
  (folder : Folder)

theorem addsOwnRuleOnly_create :
    let after := (create (.join alarms (keeping.store verdict)) context now).on handle
      (state, rules, folder)
    AddsOwnRuleOnly ⟨.threshold, context, handle⟩ rules after.2.1 after.2.2.2.1 := by
  have hsame : AddsOwnRuleOnly ⟨.threshold, context, handle⟩ rules handle rules :=
    .of_subset rfl fun _ hname ↦ hname
  rw [on_create, Services.join_create]
  rcases (alarms.create (createPayload context)).on state with ⟨failure | alarm, state⟩
  · exact hsame
  · dsimp only
    rw [Services.join_createRule]
    rcases keeping.create_cases verdict (watchRule context now) rules folder with
      ⟨_, hstep⟩ | ⟨_, _, hstep⟩ | ⟨_, _, files, _, hstep⟩
    · rw [hstep]
      exact hsame
    · rw [hstep]
      refine ⟨nofun, fun name hname ↦ ?_⟩
      dsimp only
      rw [OrderedMap.get?_insert]
      split
      · rename_i hown
        exact Or.inr ⟨hown, rfl⟩
      · exact Or.inl hname
    · rw [hstep]
      exact hsame

theorem on_delete_of_none (hnone : handle.alarmId? = none) :
    (delete (.join alarms (keeping.store verdict)) context).on handle (state, rules, folder) =
      match (removeRule (keeping.store verdict) context.physicalName).on (rules, folder) with
      | (outcome, rules, folder) =>
        match ignoreMissing outcome with
        | .error failure => (.error failure, handle, state, rules, folder)
        | .ok () => (.ok (), { handle with state := .deleted }, state, rules, folder) := by
  obtain ⟨alarmId?, lifecycle⟩ := handle
  obtain rfl : alarmId? = none := hnone
  rw [on_delete, Services.join_removeRule]
  rcases (removeRule (keeping.store verdict) context.physicalName).on (rules, folder) with
    ⟨outcome, removed, files⟩
  dsimp only
  rcases ignoreMissing outcome with failure | _
  · rfl
  · dsimp only
    rw [CombinationAlarm.on_delete, Callback.on_removeAlarm]

theorem addsOwnRuleOnly_delete :
    let after := (delete (.join alarms (keeping.store verdict)) context).on handle
      (state, rules, folder)
    AddsOwnRuleOnly ⟨.threshold, context, handle⟩ rules after.2.1 after.2.2.2.1 := by
  have hremoved (name : String) (hname : rules.get? name = none) :=
    keeping.get?_removeRule verdict context.physicalName folder hname
  rw [on_delete, Services.join_removeRule]
  dsimp only
  revert hremoved
  rcases (removeRule (keeping.store verdict) context.physicalName).on (rules, folder) with
    ⟨outcome, removed, files⟩
  intro hremoved
  dsimp only
  rcases ignoreMissing outcome with failure | _
  · exact .of_subset rfl hremoved
  · dsimp only
    rw [CombinationAlarm.on_delete, Callback.on_removeAlarm]
    rcases handle with ⟨_ | id, lifecycle⟩
    · exact .of_subset rfl hremoved
    · dsimp only
      rw [Services.join_delete]
      dsimp only
      rcases ignoreMissing ((alarms.delete id).on state).1 with failure | _ <;>
        exact .of_subset rfl hremoved

end ThresholdAlarm

namespace Resource

variable (alarms : AlarmService (StateM σ)) (keeping : RuleKeeping) (verdict : Verdict)
  (now : Timestamp) {resource : Resource} (state : σ) (rules : RuleBook) (folder : Folder)

variable {rules} in
/-- Where neither an alarm nor a rule is there to remove, a removal succeeds and changes nothing of
what the services hold. -/
theorem delete_of_get?_eq_none (htype : resource.type = .threshold)
    (hnone : resource.handle.alarmId? = none)
    (hfree : rules.get? resource.context.physicalName = none) :
    resource.perform (.join alarms (keeping.store verdict)) now .delete (state, rules, folder) =
      (.ok (), resource.deleted, state, rules, folder) := by
  obtain ⟨type, context, handle⟩ := resource
  obtain rfl : type = .threshold := htype
  rw [perform_eq, LifecycleEvent.handle,
    ThresholdAlarm.on_delete_of_none alarms keeping verdict context handle state rules folder hnone,
    keeping.removeRule_of_none verdict context.physicalName folder hfree]
  rfl

theorem addsOwnRuleOnly_switch (enabled : Bool) (lifecycle : LifecycleState) :
    let after := (Callback.switch (Services.join alarms (keeping.store verdict)).alarms enabled
      lifecycle).on resource.handle (state, rules, folder)
    AddsOwnRuleOnly resource rules after.2.1 after.2.2.2.1 := by
  rw [Callback.on_switch]
  rcases hid : resource.handle.alarmId? with _ | id
  · exact .of_subset rfl fun _ hname ↦ hname
  · dsimp only
    rw [Services.join_update]
    dsimp only
    rcases ((alarms.update id (.ofList [(PropertyName.enabled, .bool enabled)])).on state).1 with
      failure | _
    · exact .of_subset rfl fun _ hname ↦ hname
    · exact .of_subset hid.symm fun _ hname ↦ hname

theorem addsOwnRuleOnly (htype : resource.type = .threshold) (event : LifecycleEvent) :
    let after := resource.perform (.join alarms (keeping.store verdict)) now event
      (state, rules, folder)
    AddsOwnRuleOnly resource rules after.2.1.handle after.2.2.2.1 := by
  rw [perform_eq]
  cases event with
  | create =>
    obtain ⟨type, context, handle⟩ := resource
    obtain rfl : type = .threshold := htype
    exact ThresholdAlarm.addsOwnRuleOnly_create alarms keeping verdict now context handle state
      rules folder
  | update changes =>
    rw [LifecycleEvent.on_update]
    cases changes.isEmpty with
    | true => exact .of_subset rfl fun _ hname ↦ hname
    | false =>
      rw [if_neg Bool.false_ne_true]
      rcases resource.handle.alarmId? with _ | id <;>
        exact .of_subset rfl fun _ hname ↦ hname
  | suspend => exact addsOwnRuleOnly_switch alarms keeping verdict state rules folder _ _
  | resume => exact addsOwnRuleOnly_switch alarms keeping verdict state rules folder _ _
  | delete =>
    obtain ⟨type, context, handle⟩ := resource
    obtain rfl : type = .threshold := htype
    exact ThresholdAlarm.addsOwnRuleOnly_delete alarms keeping verdict context handle state rules
      folder

end Resource

namespace Fleet

variable [DecidableEq ι] {alarms : AlarmService (StateM σ)} {keeping : RuleKeeping}
  {start fleet : Fleet ι (σ × RuleBook × Folder)}

/-- The physical name of a resource. -/
def name (fleet : Fleet ι ω) (i : ι) : String :=
  (fleet.resources i).context.physicalName

/-- Resources have the types and contexts that they have at the start, and no rule has the name of
a resource without an alarm. -/
structure IsOrderly (start fleet : Fleet ι (σ × RuleBook × Folder)) : Prop where
  resources : ∀ i, ∃ handle, fleet.resources i = { start.resources i with handle }
  rules : ∀ i, (fleet.resources i).handle.alarmId? = none →
    fleet.world.2.1.get? (start.name i) = none

theorem IsOrderly.callback (htype : ∀ i, (start.resources i).type = .threshold)
    (hnames : Function.Injective start.name) (h : IsOrderly start fleet) (i : ι)
    (event : LifecycleEvent) (now : Timestamp) (verdict : Verdict) :
    IsOrderly start (fleet.after (.join alarms (keeping.store verdict)) now event i) := by
  obtain ⟨handle, hresource⟩ := h.resources i
  have htype' : (fleet.resources i).type = .threshold := by rw [hresource, htype i]
  have hname : (fleet.resources i).context.physicalName = start.name i := by rw [hresource]; rfl
  have hframe := Resource.addsOwnRuleOnly alarms keeping verdict now fleet.world.1 fleet.world.2.1
    fleet.world.2.2 htype' event
  refine ⟨fun j ↦ ?_, fun j hnone ↦ ?_⟩
  · by_cases hj : j = i
    · subst hj
      rw [resources_after_self, Resource.perform_eq, hresource]
      exact ⟨_, rfl⟩
    · rw [resources_after_of_ne _ _ _ _ hj]
      exact h.resources j
  · by_cases hj : j = i
    · subst hj
      rw [resources_after_self] at hnone
      rcases hframe.rules (start.name j) (h.rules j (hframe.alarm hnone)) with hfree | ⟨_, hsome⟩
      · exact hfree
      · rw [hnone] at hsome
        cases hsome
    · rw [resources_after_of_ne _ _ _ _ hj] at hnone
      rcases hframe.rules (start.name j) (h.rules j hnone) with hfree | ⟨hown, _⟩
      · exact hfree
      · exact absurd (hnames (hown.trans hname)) hj

theorem IsOrderly.of_reachable (htype : ∀ i, (start.resources i).type = .threshold)
    (hnames : Function.Injective start.name)
    (hfree : ∀ i, (start.resources i).handle.alarmId? = none →
      start.world.2.1.get? (start.name i) = none)
    (hrun : Reachable alarms keeping start fleet) : IsOrderly start fleet := by
  induction hrun with
  | start => exact ⟨fun i ↦ ⟨_, rfl⟩, hfree⟩
  | callback i event now verdict _ ih => exact ih.callback htype hnames i event now verdict
  | change state _ ih => exact ⟨ih.resources, ih.rules⟩

/-- Among resources with distinct names, none of which is taken at the start, a resource without an
alarm can be removed at any time, and its removal changes nothing of what the services hold. -/
theorem delete_keeps_world (htype : ∀ i, (start.resources i).type = .threshold)
    (hnames : Function.Injective start.name)
    (hfree : ∀ i, (start.resources i).handle.alarmId? = none →
      start.world.2.1.get? (start.name i) = none)
    (hrun : Reachable alarms keeping start fleet) {i : ι}
    (hnone : (fleet.resources i).handle.alarmId? = none) (now : Timestamp) (verdict : Verdict) :
    (fleet.resources i).perform (.join alarms (keeping.store verdict)) now .delete fleet.world =
      (.ok (), (fleet.resources i).deleted, fleet.world) := by
  have horderly := IsOrderly.of_reachable htype hnames hfree hrun
  obtain ⟨handle, hresource⟩ := horderly.resources i
  have htype' : (fleet.resources i).type = .threshold := by rw [hresource, htype i]
  have hname : (fleet.resources i).context.physicalName = start.name i := by rw [hresource]; rfl
  exact Resource.delete_of_get?_eq_none alarms keeping verdict now fleet.world.1 fleet.world.2.2
    htype' hnone (hname ▸ horderly.rules i hnone)

/-- Two resources of different names: the first is created, and the second, which is not, is
removed. -/
theorem delete_keeps_world_of_two_names :
    let alarms := AlarmMemory.service fun n ↦ String.ofList (List.replicate n 'a')
    let verdict : Verdict := ⟨true, none, true, true⟩
    let start : Fleet Bool (AlarmMemory × RuleBook × Folder) :=
      ⟨fun second ↦ ⟨.threshold, ⟨"OS::Ceilometer::Alarm", if second then "second" else "first",
        "stack", .empty, .empty⟩, {}⟩, {}, .empty, .empty⟩
    let fleet := start.after (.join alarms (RuleKeeping.memory.store verdict)) ⟨0, 0⟩ .create false
    Function.Injective start.name ∧ Reachable alarms .memory start fleet ∧
    (fleet.resources true).handle.alarmId? = none ∧
    (fleet.resources true).perform (.join alarms (RuleKeeping.memory.store verdict)) ⟨1, 0⟩ .delete
      fleet.world = (.ok (), (fleet.resources true).deleted, fleet.world) := by
  intro alarms verdict start
  have htype (i : Bool) : (start.resources i).type = .threshold := rfl
  have hfree (i : Bool) (_ : (start.resources i).handle.alarmId? = none) :
      start.world.2.1.get? (start.name i) = none := rfl
  have hnames : Function.Injective start.name := by
    intro i j hij
    revert hij
    cases i <;> cases j <;> decide
  have hrun : Reachable alarms .memory start
      (start.after (.join alarms (RuleKeeping.memory.store verdict)) ⟨0, 0⟩ .create false) :=
    .callback false .create ⟨0, 0⟩ verdict .start
  have hnone : ((start.after (.join alarms (RuleKeeping.memory.store verdict)) ⟨0, 0⟩ .create
      false).resources true).handle.alarmId? = none := by
    rw [resources_after_of_ne _ _ _ _ (by decide)]
  exact ⟨hnames, hrun, hnone,
    delete_keeps_world htype hnames hfree hrun hnone ⟨1, 0⟩ verdict⟩

/-- Two resources of one name: the creation of the second fails because the name is taken, and its
removal then takes the rule of the first. -/
theorem delete_takes_rule_of_other :
    let alarms := AlarmMemory.service fun n ↦ String.ofList (List.replicate n 'a')
    let services := Services.join alarms (RuleKeeping.memory.store ⟨true, none, true, true⟩)
    let start : Fleet Bool (AlarmMemory × RuleBook × Folder) :=
      ⟨fun second ↦ ⟨.threshold, ⟨"OS::Ceilometer::Alarm", "own", if second then "second" else
        "first", .empty, .empty⟩, {}⟩, {}, .empty, .empty⟩
    let fleet := (start.after services ⟨0, 0⟩ .create false).after services ⟨1, 0⟩ .create true
    Reachable alarms .memory start fleet ∧
    (fleet.resources true).handle.alarmId? = none ∧
    (fleet.world.2.1.get? "own").map (·.stackId) = some "first" ∧
    (fleet.after services ⟨2, 0⟩ .delete true).world.2.1.get? "own" = none :=
  ⟨.callback true .create ⟨1, 0⟩ _ (.callback false .create ⟨0, 0⟩ _ .start), rfl, rfl, rfl⟩

end Fleet

end MeteringAlarms
