import MeteringAlarms.Proofs.Rule.Keeping

/-!
# Removals that are tried again

The removal of an alarm on one meter takes the rule first and the alarm second, and either step may
fail, after which the stack tries again.  However many attempts it takes, they come to the same as
one that meets no fault.  Between the steps of an attempt the alarm is never gone while the rule is
still there; to see this the services keep a record of the states that their operations leave.
-/

namespace MeteringAlarms

variable {ω : Type}

namespace Services

/-- A step that also notes the state that it leaves. -/
def noting {α : Type} (step : StateM ω α) : StateM (ω × List ω) α := fun noted ↦
  let (value, world) := step.run noted.1
  (value, world, world :: noted.2)

/-- The services with a record of the states after their operations, the latest first. -/
def recorded (services : Services (StateM ω)) : Services (StateM (ω × List ω)) where
  alarms := services.alarms.hoist noting
  rules := services.rules.hoist noting

variable (services : Services (StateM ω)) (world : ω) (seen : List ω)

theorem recorded_delete (id : String) :
    (services.recorded.alarms.delete id).on (world, seen) =
      (((services.alarms.delete id).on world).1, ((services.alarms.delete id).on world).2,
        ((services.alarms.delete id).on world).2 :: seen) := rfl

/-- Removing a rule takes two operations at most. -/
theorem recorded_removeRule (name : String) :
    ∃ passed, (ThresholdAlarm.removeRule services.recorded.rules name).on (world, seen) =
        (((ThresholdAlarm.removeRule services.rules name).on world).1,
          ((ThresholdAlarm.removeRule services.rules name).on world).2, passed ++ seen) ∧
      ∀ state ∈ passed, state = ((services.rules.load name).on world).2 ∨
        state = ((ThresholdAlarm.removeRule services.rules name).on world).2 := by
  have hload : (services.recorded.rules.load name).on (world, seen) =
      (((services.rules.load name).on world).1, ((services.rules.load name).on world).2,
        ((services.rules.load name).on world).2 :: seen) := rfl
  rw [ThresholdAlarm.on_removeRule, ThresholdAlarm.on_removeRule, hload]
  rcases (services.rules.load name).on world with ⟨failure | rule, loaded⟩
  · exact ⟨[loaded], rfl, fun state hstate ↦ Or.inl (List.mem_singleton.1 hstate)⟩
  · refine ⟨[((services.rules.destroy rule.name).on loaded).2, loaded], rfl, ?_⟩
    intro state hstate
    rcases List.mem_cons.1 hstate with rfl | hstate
    · exact Or.inr rfl
    · exact Or.inl (List.mem_singleton.1 hstate)

end Services

/-- What the alarm service in memory and a rule store hold. -/
abbrev Holdings := AlarmMemory × RuleBook × Folder

namespace Moment

variable (moment : Moment (Holdings × List Holdings))

abbrev memory : AlarmMemory := moment.world.1.1

abbrev rules : RuleBook := moment.world.1.2.1

abbrev folder : Folder := moment.world.1.2.2

/-- What the services held after each operation. -/
abbrev record : List Holdings := moment.world.2

abbrev name : String := moment.resource.context.physicalName

/-- The moment before the first callback. -/
def starting (resource : Resource) (memory : AlarmMemory) (rules : RuleBook) (folder : Folder) :
    Moment (Holdings × List Holdings) :=
  ⟨[], resource, (memory, rules, folder), []⟩

end Moment

/-- The resource once its removal has succeeded. -/
def Resource.deleted (resource : Resource) : Resource :=
  { resource with handle := { resource.handle with state := .deleted } }

/-- What an attempt at a removal meets. -/
structure Trial where
  now : Timestamp
  /-- The alarm service is switched on. -/
  available : Bool
  verdict : Verdict

/-- Nothing stands in the way of the attempt. -/
def Trial.IsFaultless (keeping : RuleKeeping) (trial : Trial) : Prop :=
  trial.available = true ∧ keeping.lasts trial.verdict = true

namespace Removal

variable (newId : Nat → String) (keeping : RuleKeeping)
  (before moment after : Moment (Holdings × List Holdings)) (trial : Trial)

/-- The moment after an attempt. -/
def tryOnce : Moment (Holdings × List Holdings) :=
  (moment.withWorld fun world ↦
    ((world.1.1.setAvailable trial.available, world.1.2), world.2)).after
      (Services.overMemory newId (keeping.store trial.verdict)).recorded trial.now .delete

/-- The moment after some attempts. -/
def tryAll (trials : List Trial) : Moment (Holdings × List Holdings) :=
  trials.foldl (tryOnce newId keeping) moment

theorem tryAll_append (trials : List Trial) :
    tryAll newId keeping moment (trials ++ [trial]) =
      tryOnce newId keeping (tryAll newId keeping moment trials) trial :=
  List.foldl_append

/-- The alarms once the one of an id is gone, if there is an id. -/
def withoutAlarm (id? : Option String) (alarms : OrderedMap Fields) : OrderedMap Fields :=
  id?.elim alarms alarms.erase

theorem get?_withoutAlarm (id? : Option String) (alarms : OrderedMap Fields) (id : String) :
    (withoutAlarm id? alarms).get? id = if id? = some id then none else alarms.get? id := by
  cases id? with
  | none => rfl
  | some own =>
    change (alarms.erase own).get? id = _
    rw [OrderedMap.get?_erase]
    by_cases hid : id = own <;> simp [hid, eq_comm]

theorem withoutAlarm_withoutAlarm (id? : Option String) (alarms : OrderedMap Fields) :
    withoutAlarm id? (withoutAlarm id? alarms) = withoutAlarm id? alarms := by
  apply OrderedMap.ext_get?
  intro id
  rw [get?_withoutAlarm, get?_withoutAlarm]
  split <;> rfl

/-- What an attempt comes to: the rule cannot be removed and stays, or the rule is removed and the
alarm cannot be, or both are removed. -/
inductive Effect : Prop
  | stuck {failure : Failure}
      (outcome : after.history = (.delete, .error failure) :: before.history)
      (failing : keeping.lasts trial.verdict = false)
      (stored : (before.rules.get? before.name).isSome)
      (resource : after.resource = before.resource)
      (alarms : after.memory.alarms = before.memory.alarms)
      (rules : after.rules = before.rules)
      (files : keeping.SameFiles after.folder before.folder)
  | halfway {failure : Failure}
      (outcome : after.history = (.delete, .error failure) :: before.history)
      (unavailable : trial.available = false)
      (attached : before.resource.handle.alarmId? ≠ none)
      (resource : after.resource = before.resource)
      (alarms : after.memory.alarms = before.memory.alarms)
      (cleared : after.world.1.2 = keeping.cleared before.name before.rules before.folder)
  | done
      (outcome : after.history = (.delete, .ok ()) :: before.history)
      (reached : trial.available = true ∨ before.resource.handle.alarmId? = none)
      (resource : after.resource = before.resource.deleted)
      (alarms : after.memory.alarms =
        withoutAlarm before.resource.handle.alarmId? before.memory.alarms)
      (cleared : after.world.1.2 = keeping.cleared before.name before.rules before.folder)

variable {newId keeping before moment after trial}

variable (newId keeping) in
/-- The rule and its file after an attempt to remove it, and what was recorded meanwhile. -/
theorem removeRule_recorded (verdict : Verdict) (name : String) (memory : AlarmMemory)
    {rules : RuleBook} (folder : Folder) (record : List Holdings) (hkeyed : rules.IsKeyed) :
    let removed := (ThresholdAlarm.removeRule
      (Services.overMemory newId (keeping.store verdict)).recorded.rules name).on
        ((memory, rules, folder), record)
    ∃ passed, (∀ holdings ∈ passed, holdings.2.1.get? name = none ∨
        holdings.1.alarms = memory.alarms ∧ holdings.2.1 = rules) ∧
      ((rules.get? name).isSome ∧ keeping.lasts verdict = false ∧
        (∃ files, keeping.SameFiles files folder ∧
          removed = (.error Snapshot.storageFailure, (memory, rules, files), passed ++ record)) ∨
      ∃ outcome, ignoreMissing outcome = .ok () ∧
        removed = (outcome, (memory, keeping.cleared name rules folder), passed ++ record)) := by
  intro removed
  let services := Services.overMemory newId (keeping.store verdict)
  obtain ⟨passed, hremoved, hpassed⟩ :=
    services.recorded_removeRule (memory, rules, folder) record name
  have hload : ((services.rules.load name).on (memory, rules, folder)).2 =
      (memory, rules, folder) :=
    congrArg (fun step ↦ (memory, step.2)) (keeping.load_eq verdict name rules folder)
  rw [hload, Services.overMemory_removeRule] at hpassed
  rw [Services.overMemory_removeRule] at hremoved
  rcases keeping.clearing_cases verdict name rules folder hkeyed with
    ⟨hstored, hfails, files, hsame, hstep⟩ | ⟨_, outcome, hignored, hstep⟩
  · rw [hstep] at hremoved hpassed
    refine ⟨passed, fun holdings hholdings ↦ ?_, Or.inl ⟨hstored, hfails, files, hsame, hremoved⟩⟩
    rcases hpassed holdings hholdings with rfl | rfl <;> exact Or.inr ⟨rfl, rfl⟩
  · rw [hstep] at hremoved hpassed
    refine ⟨passed, fun holdings hholdings ↦ ?_, Or.inr ⟨outcome, hignored, hremoved⟩⟩
    rcases hpassed holdings hholdings with rfl | rfl
    · exact Or.inr ⟨rfl, rfl⟩
    · exact Or.inl (by rw [keeping.get?_cleared, if_pos rfl])

variable (newId) in
/-- The alarm after an attempt to remove it, and what was recorded meanwhile. -/
theorem delete_recorded (rules : RuleStore (StateM (RuleBook × Folder))) (handle : Handle)
    (memory : AlarmMemory) (kept : RuleBook × Folder) (record : List Holdings) :
    let deleted := (CombinationAlarm.delete (Services.overMemory newId rules).recorded).on handle
      ((memory, kept), record)
    ∃ passed : List Holdings, (∀ holdings ∈ passed, holdings.2 = kept) ∧
      (memory.unavailable = true ∧ handle.alarmId? ≠ none ∧
        (∃ failure, deleted = (.error failure, handle, (memory, kept), passed ++ record)) ∨
      (memory.unavailable = false ∨ handle.alarmId? = none) ∧
        ∃ memory', memory'.alarms = withoutAlarm handle.alarmId? memory.alarms ∧
          deleted = (.ok (), { handle with state := .deleted }, (memory', kept),
            passed ++ record)) := by
  rw [CombinationAlarm.on_delete, Callback.on_removeAlarm]
  rcases handle with ⟨_ | id, state⟩
  · exact ⟨[], by simp, Or.inr ⟨Or.inr rfl, memory, rfl, rfl⟩⟩
  · dsimp only
    rw [Services.recorded_delete, Services.overMemory_delete]
    rcases memory.delete_cases id with ⟨hdown, hstep⟩ | ⟨hup, hnone, hstep⟩ | ⟨hup, _, hstep⟩
    · rw [hstep]
      exact ⟨[(memory, kept)], by simp, Or.inl ⟨hdown, by simp, _, rfl⟩⟩
    · rw [hstep]
      exact ⟨[_], by simp, Or.inr ⟨Or.inl hup, memory.record (.delete id),
        (OrderedMap.erase_of_get?_eq_none hnone).symm, rfl⟩⟩
    · rw [hstep]
      exact ⟨[_], by simp, Or.inr ⟨Or.inl hup, _, rfl, rfl⟩⟩

variable (newId trial) in
theorem effect (htype : before.resource.type = .threshold) (hkeyed : before.rules.IsKeyed) :
    Effect keeping before (tryOnce newId keeping before trial) trial ∧
      ∃ passed, (tryOnce newId keeping before trial).record = passed ++ before.record ∧
        ∀ holdings ∈ passed, holdings.2.1.get? before.name = none ∨
          holdings.1.alarms = before.memory.alarms ∧ holdings.2.1 = before.rules := by
  obtain ⟨history, ⟨type, context, handle⟩, ⟨memory, rules, folder⟩, record⟩ := before
  obtain rfl : type = .threshold := htype
  let switched := memory.setAvailable trial.available
  obtain ⟨passed, hpassed, hremoved⟩ := removeRule_recorded newId keeping
    trial.verdict context.physicalName switched folder record hkeyed
  rw [tryOnce, Moment.withWorld, Moment.after, Resource.perform_eq, LifecycleEvent.handle,
    ThresholdAlarm.on_delete]
  dsimp only
  rcases hremoved with ⟨hstored, hfails, files, hsame, hstep⟩ | ⟨outcome, hignored, hstep⟩
  · rw [hstep]
    exact ⟨.stuck rfl hfails hstored rfl rfl rfl hsame, passed, rfl, hpassed⟩
  · rw [hstep]
    dsimp only
    rw [hignored]
    dsimp only
    obtain ⟨later, hlater, hdeleted⟩ := delete_recorded newId (keeping.store trial.verdict) handle
      switched (keeping.cleared context.physicalName rules folder) (passed ++ record)
    -- Once the rule is removed, all that is recorded has no rule.
    have hrecord : ∀ holdings ∈ later ++ passed,
        holdings.2.1.get? context.physicalName = none ∨
          holdings.1.alarms = memory.alarms ∧ holdings.2.1 = rules := by
      intro holdings hholdings
      rcases List.mem_append.1 hholdings with hnew | hold
      · left
        rw [hlater holdings hnew, keeping.get?_cleared, if_pos rfl]
      · exact hpassed holdings hold
    rcases hdeleted with ⟨hdown, hid, failure, hstep'⟩ | ⟨hreached, memory', halarms, hstep'⟩
    · rw [hstep']
      exact ⟨.halfway rfl ((Bool.not_eq_true' _).mp hdown) hid rfl rfl rfl, later ++ passed,
        (List.append_assoc ..).symm, hrecord⟩
    · rw [hstep']
      have hreached' : trial.available = true ∨ handle.alarmId? = none :=
        hreached.imp_left (Bool.not_eq_false' _).mp
      exact ⟨.done rfl hreached' rfl halarms rfl, later ++ passed, (List.append_assoc ..).symm,
        hrecord⟩

/-- The attempt that is behind a moment, one of many, has succeeded. -/
def HasSucceeded (moment : Moment (Holdings × List Holdings)) : Prop :=
  ∃ entry ∈ moment.history, entry.2 = .ok ()

theorem not_hasSucceeded_cons {failure : Failure} (hfailed : ¬HasSucceeded moment)
    (houtcome : after.history = (.delete, .error failure) :: moment.history) :
    ¬HasSucceeded after := by
  rintro ⟨entry, hentry, hok⟩
  rw [houtcome] at hentry
  rcases List.mem_cons.1 hentry with rfl | hentry
  · cases hok
  · exact hfailed ⟨entry, hentry, hok⟩

variable (keeping before moment) in
/-- How far attempts have come: nothing is removed, or the rule is, or the rule and the alarm. -/
inductive Progress : Prop
  | untouched (failed : ¬HasSucceeded moment)
      (stored : (before.rules.get? before.name).isSome)
      (resource : moment.resource = before.resource)
      (alarms : moment.memory.alarms = before.memory.alarms)
      (rules : moment.rules = before.rules)
      (files : keeping.SameFiles moment.folder before.folder)
  | cleared (failed : ¬HasSucceeded moment)
      (resource : moment.resource = before.resource)
      (alarms : moment.memory.alarms = before.memory.alarms)
      (cleared : moment.world.1.2 = keeping.cleared before.name before.rules before.folder)
  | removed (resource : moment.resource = before.resource.deleted)
      (alarms : moment.memory.alarms =
        withoutAlarm before.resource.handle.alarmId? before.memory.alarms)
      (cleared : moment.world.1.2 = keeping.cleared before.name before.rules before.folder)

/-- Of the resource only the state may change. -/
theorem Progress.resource_eq (h : Progress keeping before moment) :
    ∃ state, moment.resource =
      { before.resource with handle := { before.resource.handle with state } } := by
  cases h with
  | untouched _ _ resource => exact ⟨_, resource⟩
  | cleared _ resource => exact ⟨_, resource⟩
  | removed resource => exact ⟨_, resource⟩

theorem Progress.of_hasSucceeded (h : Progress keeping before moment)
    (hdone : HasSucceeded moment) :
    moment.resource = before.resource.deleted ∧
      moment.memory.alarms = withoutAlarm before.resource.handle.alarmId? before.memory.alarms ∧
      moment.world.1.2 = keeping.cleared before.name before.rules before.folder := by
  cases h with
  | untouched failed => exact absurd hdone failed
  | cleared failed => exact absurd hdone failed
  | removed resource alarms cleared => exact ⟨resource, alarms, cleared⟩

theorem Progress.get?_alarms (h : Progress keeping before moment) {id : String}
    (hid : before.resource.handle.alarmId? ≠ some id) :
    moment.memory.alarms.get? id = before.memory.alarms.get? id := by
  cases h with
  | untouched _ _ _ alarms => rw [alarms]
  | cleared _ _ alarms => rw [alarms]
  | removed _ alarms => rw [alarms, get?_withoutAlarm, if_neg hid]

theorem Progress.get?_rules (h : Progress keeping before moment) {name : String}
    (hname : name ≠ before.name) : moment.rules.get? name = before.rules.get? name := by
  have hcleared (cleared : moment.world.1.2 =
      keeping.cleared before.name before.rules before.folder) :
      moment.rules.get? name = before.rules.get? name := by
    rw [Moment.rules, cleared, keeping.get?_cleared, if_neg hname]
  cases h with
  | untouched _ _ _ _ rules => rw [rules]
  | cleared _ _ _ cleared => exact hcleared cleared
  | removed _ _ cleared => exact hcleared cleared

theorem Progress.isKeyed (h : Progress keeping before moment) (hkeyed : before.rules.IsKeyed) :
    moment.rules.IsKeyed := by
  cases h with
  | untouched _ _ _ _ rules =>
    rw [rules]
    exact hkeyed
  | cleared _ _ _ cleared =>
    rw [Moment.rules, cleared]
    exact keeping.isKeyed_cleared _ _ hkeyed
  | removed _ _ cleared =>
    rw [Moment.rules, cleared]
    exact keeping.isKeyed_cleared _ _ hkeyed

/-- What removing the rule comes to does not depend on the attempts before. -/
theorem Progress.cleared_eq (h : Progress keeping before moment) :
    keeping.cleared moment.name moment.rules moment.folder =
      keeping.cleared before.name before.rules before.folder := by
  obtain ⟨state, hresource⟩ := h.resource_eq
  have hname : moment.name = before.name := by rw [Moment.name, hresource]
  rw [hname]
  cases h with
  | untouched _ stored _ _ rules files => rw [rules, files.cleared_eq stored]
  | cleared _ _ _ cleared =>
    rw [Moment.rules, Moment.folder, cleared, keeping.cleared_cleared]
  | removed _ _ cleared =>
    rw [Moment.rules, Moment.folder, cleared, keeping.cleared_cleared]

/-- A rule that is still there can be stuck only before anything is removed. -/
theorem Progress.get?_of_cleared
    (hcleared : moment.world.1.2 = keeping.cleared before.name before.rules before.folder)
    (hname : moment.name = before.name) : moment.rules.get? moment.name = none := by
  rw [Moment.rules, hcleared, keeping.get?_cleared, if_pos hname]

theorem Progress.step (h : Progress keeping before moment)
    (heffect : Effect keeping moment after trial) : Progress keeping before after := by
  obtain ⟨state, hresource⟩ := h.resource_eq
  have hid : moment.resource.handle.alarmId? = before.resource.handle.alarmId? := by
    rw [hresource]
  have hname : moment.name = before.name := by rw [Moment.name, hresource]
  have hcleared := h.cleared_eq
  cases heffect with
  | stuck outcome failing stored resource alarms rules files =>
    cases h with
    | untouched failed stored' resource' alarms' rules' files' =>
      exact .untouched (not_hasSucceeded_cons failed outcome) stored' (resource.trans resource')
        (alarms.trans alarms') (rules.trans rules') (files.trans files')
    | cleared _ _ _ cleared' =>
      rw [Progress.get?_of_cleared cleared' hname] at stored
      cases stored
    | removed _ _ cleared' =>
      rw [Progress.get?_of_cleared cleared' hname] at stored
      cases stored
  | halfway outcome unavailable attached resource alarms cleared =>
    cases h with
    | untouched failed _ resource' alarms' =>
      exact .cleared (not_hasSucceeded_cons failed outcome) (resource.trans resource')
        (alarms.trans alarms') (cleared.trans hcleared)
    | cleared failed resource' alarms' =>
      exact .cleared (not_hasSucceeded_cons failed outcome) (resource.trans resource')
        (alarms.trans alarms') (cleared.trans hcleared)
    | removed resource' alarms' =>
      exact .removed (resource.trans resource') (alarms.trans alarms') (cleared.trans hcleared)
  | done outcome reached resource alarms cleared =>
    rw [hid] at alarms
    have hdeleted : moment.resource.deleted = before.resource.deleted := by
      rw [hresource]
      rfl
    refine .removed (resource.trans hdeleted) ?_ (cleared.trans hcleared)
    cases h with
    | untouched _ _ _ alarms' => rw [alarms, alarms']
    | cleared _ _ alarms' => rw [alarms, alarms']
    | removed _ alarms' => rw [alarms, alarms', withoutAlarm_withoutAlarm]

variable (keeping) in
theorem Progress.starting (resource : Resource) (memory : AlarmMemory) (rules : RuleBook)
    (folder : Folder) :
    Progress keeping (.starting resource memory rules folder)
      (.starting resource memory rules folder) := by
  have hfailed : ¬HasSucceeded (.starting resource memory rules folder) := by
    rintro ⟨entry, hentry, _⟩
    cases hentry
  cases hrule : rules.get? resource.context.physicalName with
  | none => exact .cleared hfailed rfl rfl (keeping.cleared_of_none folder hrule).symm
  | some rule =>
    exact .untouched hfailed (Option.isSome_of_eq_some hrule) rfl rfl rfl (.refl keeping folder)

/-- At every moment on record the rule is gone or no alarm is. -/
def RuleGoesFirst (before moment : Moment (Holdings × List Holdings)) : Prop :=
  ∀ holdings ∈ moment.record, holdings.2.1.get? before.name = none ∨
    holdings.1.alarms = before.memory.alarms

theorem RuleGoesFirst.step (h : RuleGoesFirst before moment)
    (hprogress : Progress keeping before moment) {passed : List Holdings}
    (hrecord : after.record = passed ++ moment.record)
    (hpassed : ∀ holdings ∈ passed, holdings.2.1.get? moment.name = none ∨
      holdings.1.alarms = moment.memory.alarms ∧ holdings.2.1 = moment.rules) :
    RuleGoesFirst before after := by
  obtain ⟨state, hresource⟩ := hprogress.resource_eq
  have hname : moment.name = before.name := by rw [Moment.name, hresource]
  intro holdings hholdings
  rw [hrecord] at hholdings
  rcases List.mem_append.1 hholdings with hnew | hold
  · rcases hpassed holdings hnew with hfree | ⟨halarms, hrules⟩
    · rw [hname] at hfree
      exact Or.inl hfree
    · cases hprogress with
      | untouched _ _ _ alarms => exact Or.inr (halarms.trans alarms)
      | cleared _ _ alarms => exact Or.inr (halarms.trans alarms)
      | removed _ _ cleared =>
        rw [hrules, ← hname]
        exact Or.inl (Progress.get?_of_cleared cleared hname)
  · exact h holdings hold

variable (newId) in
/-- What a number of attempts keeps. -/
theorem Progress.tryAll (htype : before.resource.type = .threshold)
    (hkeyed : before.rules.IsKeyed) (trials : List Trial) (h : Progress keeping before moment)
    (hfirst : RuleGoesFirst before moment) :
    Progress keeping before (tryAll newId keeping moment trials) ∧
      RuleGoesFirst before (Removal.tryAll newId keeping moment trials) := by
  induction trials generalizing moment with
  | nil => exact ⟨h, hfirst⟩
  | cons trial later ih =>
    obtain ⟨state, hresource⟩ := h.resource_eq
    have htype' : moment.resource.type = .threshold := by rw [hresource, htype]
    obtain ⟨heffect, passed, hrecord, hpassed⟩ := effect newId trial htype' (h.isKeyed hkeyed)
    exact ih (h.step heffect) (hfirst.step h hrecord hpassed)

/-- The same resource, the same alarms, and the same rules in the same files. -/
structure SameResult (left right : Moment (Holdings × List Holdings)) : Prop where
  resource : left.resource = right.resource
  alarms : left.memory.alarms = right.memory.alarms
  rules : left.rules = right.rules
  folder : left.folder = right.folder

/-- Attempts that have succeeded come to the same, however many there were. -/
theorem Progress.sameResult (h : Progress keeping before moment) (hdone : HasSucceeded moment)
    (h' : Progress keeping before after) (hdone' : HasSucceeded after) :
    SameResult moment after := by
  obtain ⟨hresource, halarms, hcleared⟩ := h.of_hasSucceeded hdone
  obtain ⟨hresource', halarms', hcleared'⟩ := h'.of_hasSucceeded hdone'
  exact ⟨hresource.trans hresource'.symm, halarms.trans halarms'.symm,
    congrArg Prod.fst (hcleared.trans hcleared'.symm),
    congrArg Prod.snd (hcleared.trans hcleared'.symm)⟩

theorem Effect.hasSucceeded (h : Effect keeping moment after trial) (hdone : HasSucceeded moment) :
    HasSucceeded after := by
  obtain ⟨entry, hentry, hok⟩ := hdone
  refine ⟨entry, ?_, hok⟩
  cases h with
  | stuck outcome => exact outcome ▸ List.mem_cons_of_mem _ hentry
  | halfway outcome => exact outcome ▸ List.mem_cons_of_mem _ hentry
  | done outcome => exact outcome ▸ List.mem_cons_of_mem _ hentry

/-- An attempt succeeds when nothing stands in its way. -/
theorem Effect.hasSucceeded_of_isFaultless (h : Effect keeping moment after trial)
    (hfaultless : trial.IsFaultless keeping) : HasSucceeded after := by
  cases h with
  | stuck _ failing =>
    rw [hfaultless.2] at failing
    cases failing
  | halfway _ unavailable =>
    rw [hfaultless.1] at unavailable
    cases unavailable
  | done outcome => exact ⟨(.delete, .ok ()), outcome ▸ List.mem_cons_self, rfl⟩

/-- Once the rule is removed, it is up to the alarm service whether an attempt succeeds. -/
theorem Effect.outcome_iff (h : Effect keeping moment after trial)
    (hfree : moment.rules.get? moment.name = none) :
    after.history.head? = some (.delete, .ok ()) ↔
      trial.available = true ∨ moment.resource.handle.alarmId? = none := by
  cases h with
  | stuck _ _ stored =>
    rw [hfree] at stored
    cases stored
  | halfway outcome unavailable attached => simp [outcome, unavailable, attached]
  | done outcome reached => simp [outcome, reached]

end Removal

open Removal in
/-- However often the removal of an alarm on one meter is tried, and whatever fails meanwhile: other
alarms and other rules stay; no alarm is gone while the rule of the resource is there; and an
attempt that meets no fault succeeds.  Once an attempt has succeeded, the rule and the alarm are
gone and the resource is deleted, further attempts change nothing and succeed when the alarm service
is there or the resource has no alarm, and all is as after one attempt that meets no fault. -/
theorem ThresholdAlarm.delete_converges (newId : Nat → String) (keeping : RuleKeeping)
    {resource : Resource} (htype : resource.type = .threshold) (memory : AlarmMemory)
    {rules : RuleBook} (hkeyed : rules.IsKeyed) (folder : Folder) (trials : List Trial) :
    let name := resource.context.physicalName
    let start := Moment.starting resource memory rules folder
    let after := tryAll newId keeping start trials
    (∀ id, resource.handle.alarmId? ≠ some id →
      after.memory.alarms.get? id = memory.alarms.get? id) ∧
    (∀ other, other ≠ name → after.rules.get? other = rules.get? other) ∧
    (∀ holdings ∈ after.record, ∀ id, (memory.alarms.get? id).isSome →
      holdings.1.alarms.get? id = none → holdings.2.1.get? name = none) ∧
    (∀ trial, trial.IsFaultless keeping →
      HasSucceeded (tryOnce newId keeping after trial)) ∧
    (HasSucceeded after →
      after.rules.get? name = none ∧
      (∀ id, resource.handle.alarmId? = some id → after.memory.alarms.get? id = none) ∧
      after.resource = resource.deleted ∧
      (∀ trial, SameResult (tryOnce newId keeping after trial) after ∧
        ((tryOnce newId keeping after trial).history.head? = some (.delete, .ok ()) ↔
          trial.available = true ∨ resource.handle.alarmId? = none)) ∧
      ∀ trial, trial.IsFaultless keeping →
        SameResult after (tryOnce newId keeping start trial)) := by
  intro name start after
  have hstart : Progress keeping start start := .starting keeping resource memory rules folder
  have hrun := hstart.tryAll newId htype hkeyed trials fun holdings hholdings ↦ by cases hholdings
  obtain ⟨hprogress, hfirst⟩ : Progress keeping start after ∧ RuleGoesFirst start after := hrun
  obtain ⟨state, hresource⟩ := hprogress.resource_eq
  have heffect (trial : Trial) :
      Effect keeping after (tryOnce newId keeping after trial) trial := by
    have htype' : after.resource.type = .threshold := by rw [hresource]; exact htype
    exact (effect newId trial htype' (hprogress.isKeyed hkeyed)).1
  refine ⟨fun id hid ↦ hprogress.get?_alarms hid, fun other hother ↦ hprogress.get?_rules hother,
    ?_, fun trial hfaultless ↦ (heffect trial).hasSucceeded_of_isFaultless hfaultless, ?_⟩
  · intro holdings hholdings id hstored hgone
    rcases hfirst holdings hholdings with hfree | halarms
    · exact hfree
    · rw [halarms] at hgone
      exact absurd hgone (Option.isSome_iff_ne_none.1 hstored)
  · intro hdone
    obtain ⟨hdeleted, halarms, hcleared⟩ := hprogress.of_hasSucceeded hdone
    have hname : after.name = name := by rw [Moment.name, hdeleted]; rfl
    have hfree : after.rules.get? name = none := hname ▸ Progress.get?_of_cleared hcleared hname
    refine ⟨hfree, ?_, hdeleted, ?_, ?_⟩
    · intro id hid
      rw [halarms, get?_withoutAlarm]
      exact if_pos hid
    · intro trial
      refine ⟨(hprogress.step (heffect trial)).sameResult ((heffect trial).hasSucceeded hdone)
        hprogress hdone, ?_⟩
      rw [(heffect trial).outcome_iff (by rw [hname]; exact hfree), hdeleted]
      rfl
    · intro trial hfaultless
      have honce : Effect keeping start (tryOnce newId keeping start trial) trial :=
        (effect newId trial htype hkeyed).1
      exact hprogress.sameResult hdone (hstart.step honce)
        (honce.hasSucceeded_of_isFaultless hfaultless)

open Removal in
/-- A removal whose snapshot cannot be renamed at first, for which the alarm service is switched off
next, and which succeeds at last. -/
theorem ThresholdAlarm.delete_converges_of_two_faults :
    let newId (n : Nat) := String.ofList (List.replicate n 'a')
    let keeping := RuleKeeping.snapshot "rules"
    let other : WatchRule := .made "other" .null "stack" .normal ⟨0, 0⟩
    let rules : RuleBook :=
      .ofList [("own", .made "own" .null "stack" .delegated ⟨0, 0⟩), ("other", other)]
    let memory : AlarmMemory := { alarms := .ofList [("a", .empty), ("b", .empty)] }
    let resource : Resource :=
      ⟨.threshold, ⟨"OS::Ceilometer::Alarm", "own", "stack", .empty, .empty⟩, .attached "a"⟩
    let lasting : Verdict := ⟨true, none, true, true⟩
    let faults : List Trial :=
      [⟨⟨1, 0⟩, true, ⟨true, none, false, false⟩⟩, ⟨⟨2, 0⟩, false, lasting⟩]
    let faultless : Trial := ⟨⟨3, 0⟩, true, lasting⟩
    let start := Moment.starting resource memory rules .empty
    let after := tryAll newId keeping start (faults ++ [faultless])
    rules.IsKeyed ∧ HasSucceeded after ∧
    (∀ trial, SameResult (tryOnce newId keeping after trial) after) ∧
    SameResult after (tryOnce newId keeping start faultless) := by
  intro newId keeping other rules memory resource lasting faults faultless
  have hkeyed : rules.IsKeyed := by
    intro name rule hrule
    simp only [rules, OrderedMap.get?_ofList, List.reverse_cons, List.reverse_nil, List.nil_append,
      List.cons_append, Entries.find?] at hrule
    split at hrule
    · rename_i hname
      cases hrule
      exact hname.symm
    · split at hrule
      · rename_i hname
        cases hrule
        exact hname.symm
      · cases hrule
  have htype : resource.type = .threshold := rfl
  have hfaultless : faultless.IsFaultless keeping := ⟨rfl, rfl⟩
  obtain ⟨-, -, -, hreached, -⟩ :=
    ThresholdAlarm.delete_converges newId keeping htype memory hkeyed .empty faults
  obtain ⟨-, -, -, -, hdeleted⟩ := ThresholdAlarm.delete_converges newId keeping htype memory
    hkeyed .empty (faults ++ [faultless])
  have hdone : HasSucceeded (tryAll newId keeping (.starting resource memory rules .empty)
      (faults ++ [faultless])) := by
    rw [tryAll_append]
    exact hreached faultless hfaultless
  obtain ⟨-, -, -, hlater, honce⟩ := hdeleted hdone
  exact ⟨hkeyed, hdone, fun trial ↦ (hlater trial).1, honce faultless hfaultless⟩

end MeteringAlarms
