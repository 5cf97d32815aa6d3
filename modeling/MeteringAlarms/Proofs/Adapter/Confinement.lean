import MeteringAlarms.Proofs.Adapter.Sharing

/-!
# What a callback may touch

Over services in memory a callback of a resource changes no alarm but the one whose id the resource
remembers and the one that it creates, and no rule but the one under the name of the resource,
whatever rule store keeps the rules and whether or not the callback succeeds.  That takes that every
rule is stored under its own name, which callbacks keep.
-/

namespace MeteringAlarms

namespace RuleKeeping

variable (keeping : RuleKeeping) (verdict : Verdict) (rule : WatchRule) (name : String)
  (rules : RuleBook) (folder : Folder)

/-- What the creation of a rule comes to, the files aside. -/
def created : Except Failure Unit × RuleBook :=
  if (rules.get? rule.name).isSome then (.error (.ruleExists rule.name), rules)
  else if keeping.lasts verdict then (.ok (), rules.insert rule.name rule)
  else (.error Snapshot.storageFailure, rules)

/-- What the removal of a rule comes to, the files aside. -/
def removed : Except Failure Unit × RuleBook :=
  if (rules.get? name).isSome then
    if keeping.lasts verdict then (.ok (), rules.erase name)
    else (.error Snapshot.storageFailure, rules)
  else (.error (.ruleMissing name), rules)

theorem on_create :
    ∃ next, ((keeping.store verdict).create rule).on (rules, folder) =
      ((keeping.created verdict rule rules).1, (keeping.created verdict rule rules).2, next) := by
  rw [created]
  rcases keeping.create_cases verdict rule rules folder with
    ⟨htaken, hstep⟩ | ⟨hfree, hlasts, hstep⟩ | ⟨hfree, hfails, next, -, hstep⟩
  · rw [if_pos htaken]
    exact ⟨_, hstep⟩
  · rw [hfree, Option.isSome_none, if_neg Bool.false_ne_true, if_pos hlasts]
    exact ⟨_, hstep⟩
  · rw [hfree, Option.isSome_none, hfails, if_neg Bool.false_ne_true, if_neg Bool.false_ne_true]
    exact ⟨_, hstep⟩

variable {rules} in
theorem on_removeRule (hkeyed : rules.IsKeyed) :
    ∃ next, (ThresholdAlarm.removeRule (keeping.store verdict) name).on (rules, folder) =
      ((keeping.removed verdict name rules).1, (keeping.removed verdict name rules).2, next) := by
  rw [removed]
  rcases keeping.removeRule_cases verdict name rules folder hkeyed with
    ⟨hfree, hstep⟩ | ⟨hstored, hlasts, hstep⟩ | ⟨hstored, hfails, next, -, hstep⟩
  · rw [hfree, Option.isSome_none, if_neg Bool.false_ne_true]
    exact ⟨_, hstep⟩
  · rw [if_pos hstored, if_pos hlasts]
    exact ⟨_, hstep⟩
  · rw [if_pos hstored, hfails, if_neg Bool.false_ne_true]
    exact ⟨_, hstep⟩

/-- The rules change under one name only, and every rule is still stored under its own. -/
structure TouchesRule (name : String) (before after : RuleBook) : Prop where
  rules : ∀ other, other ≠ name → after.get? other = before.get? other
  keyed : before.IsKeyed → after.IsKeyed

theorem TouchesRule.refl : TouchesRule name rules rules :=
  ⟨fun _ _ ↦ rfl, id⟩

theorem touchesRule_created :
    TouchesRule rule.name rules (keeping.created verdict rule rules).2 := by
  rw [created]
  split
  · exact .refl rule.name rules
  · split
    · refine ⟨fun other hother ↦ ?_, fun hkeyed other found hfound ↦ ?_⟩
      · rw [OrderedMap.get?_insert, if_neg hother]
      · rw [OrderedMap.get?_insert] at hfound
        split at hfound
        · rename_i hname
          cases hfound
          exact hname.symm
        · exact hkeyed other found hfound
    · exact .refl rule.name rules

theorem touchesRule_removed : TouchesRule name rules (keeping.removed verdict name rules).2 := by
  rw [removed]
  split
  · split
    · refine ⟨fun other hother ↦ ?_, fun hkeyed other found hfound ↦ ?_⟩
      · rw [OrderedMap.get?_erase, if_neg hother]
      · rw [OrderedMap.get?_erase] at hfound
        split at hfound
        · cases hfound
        · exact hkeyed other found hfound
    · exact .refl name rules
  · exact .refl name rules

end RuleKeeping

namespace AlarmMemory

/-- The alarms change under one id only, no id is handed out and the service is not switched. -/
structure Touches (id : String) (before after : AlarmMemory) : Prop where
  issued : after.issued = before.issued
  unavailable : after.unavailable = before.unavailable
  alarms : ∀ other, other ≠ id → after.alarms.get? other = before.alarms.get? other

variable (newId : Nat → String) (id : String) (payload changes : Fields) (memory : AlarmMemory)

theorem Touches.refl : Touches id memory memory :=
  ⟨rfl, rfl, fun _ _ ↦ rfl⟩

theorem touches_update : Touches id memory (memory.update id changes).2 := by
  rcases memory.update_cases id changes with ⟨_, hstep⟩ | ⟨_, _, hstep⟩ | ⟨_, fields, _, hstep⟩
  · rw [hstep]
    exact .refl id memory
  · rw [hstep]
    exact ⟨rfl, rfl, fun _ _ ↦ rfl⟩
  · rw [hstep]
    refine ⟨rfl, rfl, fun other hother ↦ ?_⟩
    exact (OrderedMap.get?_insert ..).trans (if_neg hother)

theorem touches_delete : Touches id memory (memory.delete id).2 := by
  rcases memory.delete_cases id with ⟨_, hstep⟩ | ⟨_, _, hstep⟩ | ⟨_, _, hstep⟩
  · rw [hstep]
    exact .refl id memory
  · rw [hstep]
    exact ⟨rfl, rfl, fun _ _ ↦ rfl⟩
  · rw [hstep]
    refine ⟨rfl, rfl, fun other hother ↦ ?_⟩
    exact (OrderedMap.get?_erase ..).trans (if_neg hother)

/-- An alarm is added under the id that comes next, or there the alarms change after that. -/
structure Adds (newId : Nat → String) (before after : AlarmMemory) : Prop where
  issued : after.issued = before.issued + 1
  unavailable : after.unavailable = before.unavailable
  alarms : ∀ other, other ≠ newId before.issued →
    after.alarms.get? other = before.alarms.get? other

theorem create_cases_adds :
    memory.create newId payload = (.error refusal, memory) ∨
      (memory.create newId payload).1 = .ok ⟨newId memory.issued, payload⟩ ∧
        Adds newId memory (memory.create newId payload).2 := by
  rcases memory.create_cases newId payload with ⟨_, hstep⟩ | ⟨_, hstep⟩
  · exact Or.inl hstep
  · rw [hstep]
    refine Or.inr ⟨rfl, rfl, rfl, fun other hother ↦ ?_⟩
    exact (OrderedMap.get?_insert ..).trans (if_neg hother)

variable {newId memory} in
theorem Adds.touches {middle after : AlarmMemory} (h : Adds newId memory middle)
    (htouches : Touches (newId memory.issued) middle after) : Adds newId memory after :=
  ⟨htouches.issued.trans h.issued, htouches.unavailable.trans h.unavailable,
    fun other hother ↦ (htouches.alarms other hother).trans (h.alarms other hother)⟩

end AlarmMemory

/-- What a callback of a resource may do to the services: it changes no alarm but that of the
resource and one that it creates, no rule but that of the name of the resource, and leaves the
service switched as it is.  The resource then remembers the alarm it had or the one created. -/
structure Confined (newId : Nat → String) (resource : Resource)
    (before : AlarmMemory × RuleBook × Folder) (handle : Handle)
    (after : AlarmMemory × RuleBook × Folder) : Prop where
  issued : after.1.issued = before.1.issued ∨ after.1.issued = before.1.issued + 1
  unavailable : after.1.unavailable = before.1.unavailable
  alarms : ∀ id, resource.handle.alarmId? ≠ some id →
    (after.1.issued = before.1.issued + 1 → id ≠ newId before.1.issued) →
      after.1.alarms.get? id = before.1.alarms.get? id
  alarmId : handle.alarmId? = resource.handle.alarmId? ∨
    after.1.issued = before.1.issued + 1 ∧ handle.alarmId? = some (newId before.1.issued)
  rule : RuleKeeping.TouchesRule resource.context.physicalName before.2.1 after.2.1

namespace Confined

variable {newId : Nat → String} {resource : Resource} {handle : Handle}
  {memory memory' : AlarmMemory} {rules rules' : RuleBook} {folder folder' : Folder}

theorem of_touches {id : String} (hid : resource.handle.alarmId? = some id)
    (hhandle : handle.alarmId? = some id) (hmemory : memory.Touches id memory')
    (hrules : RuleKeeping.TouchesRule resource.context.physicalName rules rules') :
    Confined newId resource (memory, rules, folder) handle (memory', rules', folder') := by
  refine ⟨Or.inl hmemory.issued, hmemory.unavailable, fun other hother _ ↦ ?_,
    Or.inl (hhandle.trans hid.symm), hrules⟩
  refine hmemory.alarms other fun hsame ↦ hother ?_
  rw [hid, hsame]

theorem of_same (hhandle : handle.alarmId? = resource.handle.alarmId?)
    (hrules : RuleKeeping.TouchesRule resource.context.physicalName rules rules') :
    Confined newId resource (memory, rules, folder) handle (memory, rules', folder') :=
  ⟨Or.inl rfl, rfl, fun _ _ _ ↦ rfl, Or.inl hhandle, hrules⟩

theorem of_adds (hhandle : handle.alarmId? = resource.handle.alarmId? ∨
      handle.alarmId? = some (newId memory.issued))
    (hmemory : memory.Adds newId memory')
    (hrules : RuleKeeping.TouchesRule resource.context.physicalName rules rules') :
    Confined newId resource (memory, rules, folder) handle (memory', rules', folder') :=
  ⟨Or.inr hmemory.issued, hmemory.unavailable,
    fun other _ hother ↦ hmemory.alarms other (hother hmemory.issued),
    hhandle.imp_right fun hnew ↦ ⟨hmemory.issued, hnew⟩, hrules⟩

/-- An id is never handed out again. -/
theorem le_issued {before after : AlarmMemory × RuleBook × Folder}
    (h : Confined newId resource before handle after) : before.1.issued ≤ after.1.issued := by
  rcases h.issued with hsame | hmore
  · exact Nat.le_of_eq hsame.symm
  · omega

end Confined

section Callbacks

variable (newId : Nat → String) (keeping : RuleKeeping) (verdict : Verdict) (context : Context)
  (now : Timestamp) (handle : Handle) (memory : AlarmMemory) (rules : RuleBook) (folder : Folder)

theorem ThresholdAlarm.confined_create :
    let after := (create (.overMemory newId (keeping.store verdict)) context now).on handle
      (memory, rules, folder)
    Confined newId ⟨.threshold, context, handle⟩ (memory, rules, folder) after.2.1 after.2.2 := by
  have hrules := keeping.touchesRule_created verdict (watchRule context now) rules
  obtain ⟨files, hrule⟩ := keeping.on_create verdict (watchRule context now) rules folder
  rw [on_create, Services.overMemory_create]
  rcases memory.create_cases_adds newId (createPayload context) with hstep | ⟨houtcome, hadds⟩
  · rw [hstep]
    exact .of_same rfl (.refl _ rules)
  · rw [houtcome]
    dsimp only
    rw [Services.overMemory_createRule, hrule]
    dsimp only
    rcases (keeping.created verdict (watchRule context now) rules).1 with failure | ⟨⟩
    · refine .of_adds (Or.inl rfl) (hadds.touches ?_) hrules
      exact AlarmMemory.touches_delete _ _
    · exact .of_adds (Or.inr rfl) hadds hrules

theorem CombinationAlarm.confined_create :
    let after := (create (.overMemory newId (keeping.store verdict)) context).on handle
      (memory, rules, folder)
    Confined newId ⟨.combination, context, handle⟩ (memory, rules, folder) after.2.1 after.2.2 := by
  rw [on_create, Services.overMemory_create]
  rcases memory.create_cases_adds newId (createPayload context) with hstep | ⟨houtcome, hadds⟩
  · rw [hstep]
    exact .of_same rfl (.refl _ rules)
  · rw [houtcome]
    exact .of_adds (Or.inr rfl) hadds (.refl _ rules)

variable (type : ResourceType)

theorem confined_update (changes : Fields) :
    let services := Services.overMemory newId (keeping.store verdict)
    let after := ((LifecycleEvent.update changes).handle type services context now).on handle
      (memory, rules, folder)
    Confined newId ⟨type, context, handle⟩ (memory, rules, folder) after.2.1 after.2.2 := by
  intro services after
  have hafter : after = _ :=
    LifecycleEvent.on_update services type context changes now handle (memory, rules, folder)
  rw [hafter]
  cases changes.isEmpty with
  | true => exact .of_same rfl (.refl _ rules)
  | false =>
    rw [if_neg Bool.false_ne_true]
    rcases hid : handle.alarmId? with _ | id
    · exact .of_same rfl (.refl _ rules)
    · exact .of_touches hid hid (memory.touches_update id _) (.refl _ rules)

theorem confined_switch (enabled : Bool) (state : LifecycleState) :
    let services := Services.overMemory newId (keeping.store verdict)
    let after := (Callback.switch services.alarms enabled state).on handle (memory, rules, folder)
    Confined newId ⟨type, context, handle⟩ (memory, rules, folder) after.2.1 after.2.2 := by
  intro services after
  have hafter : after = _ :=
    Callback.on_switch services.alarms enabled state handle (memory, rules, folder)
  rw [hafter]
  rcases hid : handle.alarmId? with _ | id
  · exact .of_same rfl (.refl _ rules)
  · have htouches := memory.touches_update id (.ofList [(PropertyName.enabled, .bool enabled)])
    dsimp only
    rw [Services.overMemory_update]
    dsimp only
    cases (memory.update id (.ofList [(PropertyName.enabled, .bool enabled)])).1 with
    | error failure => exact .of_touches hid hid htouches (.refl _ rules)
    | ok => exact .of_touches hid rfl htouches (.refl _ rules)

variable {rules} in
/-- The removal of an alarm after a change of the rules. -/
theorem CombinationAlarm.confined_delete {removed : RuleBook}
    (hrules : RuleKeeping.TouchesRule context.physicalName rules removed) (files : Folder) :
    let after := (delete (.overMemory newId (keeping.store verdict))).on handle
      (memory, removed, files)
    Confined newId ⟨type, context, handle⟩ (memory, rules, folder) after.2.1 after.2.2 := by
  rw [on_delete, Callback.on_removeAlarm]
  rcases hid : handle.alarmId? with _ | id
  · exact .of_same rfl hrules
  · have htouches := memory.touches_delete id
    dsimp only
    rw [Services.overMemory_delete]
    dsimp only
    cases ignoreMissing (memory.delete id).1 with
    | error failure => exact .of_touches hid hid htouches hrules
    | ok => exact .of_touches hid hid htouches hrules

variable {rules} in
theorem ThresholdAlarm.confined_delete (hkeyed : rules.IsKeyed) :
    let after := (delete (.overMemory newId (keeping.store verdict)) context).on handle
      (memory, rules, folder)
    Confined newId ⟨.threshold, context, handle⟩ (memory, rules, folder) after.2.1 after.2.2 := by
  have hrules := keeping.touchesRule_removed verdict context.physicalName rules
  obtain ⟨files, hrule⟩ := keeping.on_removeRule verdict context.physicalName folder hkeyed
  rw [on_delete, Services.overMemory_removeRule, hrule]
  dsimp only
  cases ignoreMissing (keeping.removed verdict context.physicalName rules).1 with
  | error failure => exact .of_same rfl hrules
  | ok =>
    exact CombinationAlarm.confined_delete newId keeping verdict context handle memory folder
      .threshold hrules files

end Callbacks

/-- Where every rule is stored under its own name, each callback of a resource changes no alarm but
that of the resource and one that it creates, and no rule but the one under its name. -/
theorem Resource.confined (newId : Nat → String) (keeping : RuleKeeping) (verdict : Verdict)
    (resource : Resource) (now : Timestamp) (event : LifecycleEvent)
    {world : AlarmMemory × RuleBook × Folder} (hkeyed : world.2.1.IsKeyed) :
    let after := resource.perform (.overMemory newId (keeping.store verdict)) now event world
    Confined newId resource world after.2.1.handle after.2.2 := by
  obtain ⟨type, context, handle⟩ := resource
  obtain ⟨memory, rules, folder⟩ := world
  rw [perform_eq]
  cases event with
  | create =>
    cases type with
    | threshold =>
      exact ThresholdAlarm.confined_create newId keeping verdict context now handle memory rules
        folder
    | combination =>
      exact CombinationAlarm.confined_create newId keeping verdict context handle memory rules
        folder
  | update changes =>
    exact confined_update newId keeping verdict context now handle memory rules folder type changes
  | suspend =>
    exact confined_switch newId keeping verdict context handle memory rules folder type false _
  | resume =>
    exact confined_switch newId keeping verdict context handle memory rules folder type true _
  | delete =>
    cases type with
    | threshold =>
      exact ThresholdAlarm.confined_delete newId keeping verdict context handle memory folder hkeyed
    | combination =>
      exact CombinationAlarm.confined_delete newId keeping verdict context handle memory folder
        .combination (.refl _ rules) folder

end MeteringAlarms
