import MeteringAlarms.Proofs.Adapter.Renaming
import MeteringAlarms.Proofs.Remote.Handles

/-!
# Resources that do not interfere

Callbacks of several resources follow one another on shared services in any order, and the alarm
service is switched off and on in between.  As long as the resources have distinct names, each of
them sees what it would see alone: leave out the callbacks of the others, let ids and times be what
they then are, and its outcomes, its state, its alarms and its rule are the same.  What carries the
proof over a step of another resource is that it is confined, and over one of its own that callbacks
agree up to a renaming of ids.
-/

namespace MeteringAlarms.Fleet

variable {ι : Type}

/-- A callback of one of the resources, with what its steps on files come to, or the alarm service
is switched off or on. -/
inductive Turn (ι : Type) where
  | callback (i : ι) (event : LifecycleEvent) (verdict : Verdict)
  | switch (available : Bool)

/-- What is left of a turn when a resource runs alone. -/
def Turn.alone [DecidableEq ι] (i : ι) : Turn ι → Option (Turn Unit)
  | .callback j event verdict => if j = i then some (.callback () event verdict) else none
  | .switch available => some (.switch available)

/-- What a run has come to. -/
structure Course (ι : Type) where
  fleet : Fleet ι (AlarmMemory × RuleBook × Folder)
  /-- The outcomes of the callbacks of each resource so far, the latest first. -/
  outcomes : ι → List (Except Failure Unit)

namespace Course

/-- Before any callback, with services that hold nothing. -/
def start (resources : ι → Resource) (folder : Folder) : Course ι :=
  ⟨⟨resources, {}, .empty, folder⟩, fun _ ↦ []⟩

variable [DecidableEq ι]

def after (newId : Nat → String) (keeping : RuleKeeping) (now : Timestamp) (course : Course ι) :
    Turn ι → Course ι
  | .callback i event verdict =>
    let services := Services.overMemory newId (keeping.store verdict)
    let step := (course.fleet.resources i).perform services now event course.fleet.world
    ⟨course.fleet.after services now event i,
      Function.update course.outcomes i (step.1 :: course.outcomes i)⟩
  | .switch available =>
    ⟨⟨course.fleet.resources, course.fleet.world.1.setAvailable available, course.fleet.world.2⟩,
      course.outcomes⟩

/-- The course after some turns, the latest first; `clock n` is the time of the `n`-th from zero. -/
def run (newId : Nat → String) (keeping : RuleKeeping) (clock : Nat → Timestamp)
    (start : Course ι) : List (Turn ι) → Course ι
  | [] => start
  | turn :: earlier =>
    (run newId keeping clock start earlier).after newId keeping (clock earlier.length) turn

/-- What one resource has of a run with others and of one of its own is the same, and its alarms are
not those of the others. -/
structure Coupled (newId ownId : Nat → String) (resources : ι → Resource) (i : ι)
    (names : Renaming) (shared : Course ι) (own : Course Unit) : Prop where
  members : ∀ j, ∃ handle, shared.fleet.resources j = { resources j with handle }
  self : ∃ handle, own.fleet.resources () = { resources i with handle }
  handle : (shared.fleet.resources i).handle.Renamed names (own.fleet.resources ()).handle
  outcomes : List.Forall₂ (SameUpToIds names) (shared.outcomes i) (own.outcomes ())
  alarms : SameAlarms newId ownId names shared.fleet.world.1 own.fleet.world.1
  rule : SameRule (resources i).context.physicalName shared.fleet.world.2.1 own.fleet.world.2.1
  others : ∀ j, j ≠ i → ∀ id, (shared.fleet.resources j).handle.alarmId? = some id →
    (∃ n < shared.fleet.world.1.issued, newId n = id) ∧ ∀ pair ∈ names, pair.1 ≠ id

namespace Coupled

variable {newId ownId : Nat → String} {resources : ι → Resource} {i : ι} {names : Renaming}
  {shared : Course ι} {own : Course Unit}

theorem switch (h : Coupled newId ownId resources i names shared own) (keeping : RuleKeeping)
    (now now' : Timestamp) (available : Bool) :
    Coupled newId ownId resources i names (shared.after newId keeping now (.switch available))
      (own.after ownId keeping now' (.switch available)) :=
  ⟨h.members, h.self, h.handle, h.outcomes,
    ⟨h.alarms.oneToOne, h.alarms.issued, rfl, h.alarms.alarms⟩, h.rule, h.others⟩

variable (hnew : Function.Injective newId) (hown : Function.Injective ownId)
  (h : Coupled newId ownId resources i names shared own) (keeping : RuleKeeping)
  (now now' : Timestamp) (event : LifecycleEvent) (verdict : Verdict)
include h

omit [DecidableEq ι] in
/-- Resources keep their types and contexts. -/
theorem perform_member (services : Services (StateM (AlarmMemory × RuleBook × Folder))) (j : ι) :
    ∃ handle, ((shared.fleet.resources j).perform services now event shared.fleet.world).2.1 =
      { resources j with handle } := by
  obtain ⟨handle, hmember⟩ := h.members j
  rw [hmember, Resource.perform_eq]
  exact ⟨_, rfl⟩

theorem members_after (j : ι) :
    ∀ k, ∃ handle,
      ((shared.after newId keeping now (.callback j event verdict)).fleet.resources k) =
        { resources k with handle } := by
  intro k
  by_cases hk : k = j
  · subst hk
    obtain ⟨handle, hmember⟩ := h.perform_member now event
      (.overMemory newId (keeping.store verdict)) k
    exact ⟨handle, (resources_after_self ..).trans hmember⟩
  · obtain ⟨handle, hmember⟩ := h.members k
    exact ⟨handle, (resources_after_of_ne _ _ _ _ hk).trans hmember⟩

include hnew hown

/-- A callback of another resource touches nothing of this one. -/
theorem callback_of_ne (hnames : Function.Injective fun i ↦ (resources i).context.physicalName)
    {j : ι} (hj : j ≠ i) :
    Coupled newId ownId resources i names
      (shared.after newId keeping now (.callback j event verdict)) own := by
  obtain ⟨handle, hmember⟩ := h.members j
  have hconfined := Resource.confined newId keeping verdict (shared.fleet.resources j) now event
    h.rule.keyed
  have hfresh := h.alarms.ne_new hnew hown
  have hissued := hconfined.le_issued
  have hself : (shared.after newId keeping now (.callback j event verdict)).fleet.resources i =
    shared.fleet.resources i := resources_after_of_ne _ _ _ _ hj.symm
  refine ⟨h.members_after keeping now event verdict j, h.self, ?_, ?_, ?_, ?_, ?_⟩
  · rw [hself]
    exact h.handle
  · have houtcomes : (shared.after newId keeping now (.callback j event verdict)).outcomes i =
      shared.outcomes i := Function.update_of_ne hj.symm ..
    rw [houtcomes]
    exact h.outcomes
  · refine ⟨h.alarms.oneToOne, fun pair hpair ↦ ?_,
      hconfined.unavailable.trans h.alarms.unavailable, fun pair hpair ↦ ?_⟩
    · obtain ⟨⟨n, hn, hid⟩, hown⟩ := h.alarms.issued pair hpair
      exact ⟨⟨n, Nat.lt_of_lt_of_le hn hissued, hid⟩, hown⟩
    · refine (hconfined.alarms pair.1 (fun hid ↦ ?_) fun _ ↦ (hfresh pair hpair).1).trans
        (h.alarms.alarms pair hpair)
      exact (h.others j hj pair.1 hid).2 pair hpair rfl
  · refine ⟨hconfined.rule.keyed h.rule.keyed, h.rule.keyed', ?_⟩
    have hname : (resources i).context.physicalName ≠
        (shared.fleet.resources j).context.physicalName := by
      rw [hmember]
      exact fun hsame ↦ hj (hnames hsame).symm
    exact (congrArg _ (hconfined.rule.rules _ hname)).trans h.rule.rule
  · intro k hk id hid
    by_cases hkj : k = j
    · subst hkj
      have hafter : ((shared.after newId keeping now (.callback k event verdict)).fleet.resources
        k).handle.alarmId? = _ := congrArg (·.handle.alarmId?) (resources_after_self ..)
      rw [hafter] at hid
      rcases hconfined.alarmId with hkept | ⟨hmore, hadded⟩
      · obtain ⟨⟨n, hn, hnew⟩, hne⟩ := h.others k hk id (hkept.symm.trans hid)
        exact ⟨⟨n, Nat.lt_of_lt_of_le hn hissued, hnew⟩, hne⟩
      · obtain rfl : newId shared.fleet.world.1.issued = id :=
          Option.some.inj (hadded.symm.trans hid)
        exact ⟨⟨_, hmore ▸ Nat.lt_succ_self _, rfl⟩, fun pair hpair ↦ (hfresh pair hpair).1⟩
    · have hafter : (shared.after newId keeping now (.callback j event verdict)).fleet.resources k =
        shared.fleet.resources k := resources_after_of_ne _ _ _ _ hkj
      rw [hafter] at hid
      obtain ⟨⟨n, hn, hnew⟩, hne⟩ := h.others k hk id hid
      exact ⟨⟨n, Nat.lt_of_lt_of_le hn hissued, hnew⟩, hne⟩

omit [DecidableEq ι] in
/-- A callback of the resource agrees on both sides, up to a pair of new ids. -/
theorem perform_agree :
    let left := (shared.fleet.resources i).perform (.overMemory newId (keeping.store verdict)) now
      event shared.fleet.world
    let right := (own.fleet.resources ()).perform (.overMemory ownId (keeping.store verdict)) now'
      event own.fleet.world
    ∃ names', names ⊆ names' ∧
      (∀ pair ∈ names', pair ∈ names ∨ pair.1 = newId shared.fleet.world.1.issued) ∧
      Agree newId ownId (resources i).context.physicalName names'
        (left.1, left.2.1.handle, left.2.2) (right.1, right.2.1.handle, right.2.2) := by
  obtain ⟨handle, hmember⟩ := h.members i
  obtain ⟨handle', hself⟩ := h.self
  have hhandle := h.handle
  rw [hmember, hself] at hhandle ⊢
  rcases LifecycleEvent.agree hnew hown keeping verdict (resources i).context now now' hhandle
      h.alarms h.rule shared.fleet.world.2.2 own.fleet.world.2.2 (resources i).type event with
    hagree | hagree
  · exact ⟨names, List.Subset.refl names, fun pair hpair ↦ Or.inl hpair, hagree⟩
  · refine ⟨_, List.subset_cons_self _ names, ?_, hagree⟩
    rintro pair (_ | ⟨_, hpair⟩)
    · exact Or.inr rfl
    · exact Or.inl hpair

theorem callback_self :
    ∃ names', Coupled newId ownId resources i names'
      (shared.after newId keeping now (.callback i event verdict))
      (own.after ownId keeping now' (.callback () event verdict)) := by
  obtain ⟨names', hsubset, hnames', hagree⟩ :=
    h.perform_agree hnew hown keeping now now' event verdict
  have hconfined := Resource.confined newId keeping verdict (shared.fleet.resources i) now event
    h.rule.keyed
  have hissued := hconfined.le_issued
  have hleft : (shared.after newId keeping now (.callback i event verdict)).fleet.resources i = _ :=
    resources_after_self ..
  have hright :
      (own.after ownId keeping now' (.callback () event verdict)).fleet.resources () = _ :=
    resources_after_self ..
  refine ⟨names', h.members_after keeping now event verdict i, ?_, ?_, ?_, ?_, ?_, ?_⟩
  · obtain ⟨handle, hself⟩ := h.self
    rw [hright, hself, Resource.perform_eq]
    exact ⟨_, rfl⟩
  · rw [hleft, hright]
    exact hagree.handle
  · have houtcomes : (shared.after newId keeping now (.callback i event verdict)).outcomes i = _ :=
      Function.update_self ..
    have houtcomes' : (own.after ownId keeping now' (.callback () event verdict)).outcomes () = _ :=
      Function.update_self () _ own.outcomes
    rw [houtcomes, houtcomes']
    exact .cons hagree.outcome (h.outcomes.imp fun _ _ hsame ↦ hsame.mono hsubset)
  · exact hagree.alarms
  · exact hagree.rule
  · intro k hk id hid
    have hafter : (shared.after newId keeping now (.callback i event verdict)).fleet.resources k =
      shared.fleet.resources k := resources_after_of_ne _ _ _ _ hk
    rw [hafter] at hid
    obtain ⟨⟨n, hn, hid⟩, hne⟩ := h.others k hk id hid
    refine ⟨⟨n, Nat.lt_of_lt_of_le hn hissued, hid⟩, fun pair hpair ↦ ?_⟩
    rcases hnames' pair hpair with hold | hnext
    · exact hne pair hold
    · rw [hnext, ← hid]
      exact fun heq ↦ Nat.ne_of_lt hn (hnew heq).symm

end Coupled

section Run

variable {newId ownId : Nat → String} {resources : ι → Resource}
  (hnew : Function.Injective newId) (hown : Function.Injective ownId)
  (hfresh : ∀ i, (resources i).handle.alarmId? = none)
  (hnames : Function.Injective fun i ↦ (resources i).context.physicalName)
  (keeping : RuleKeeping) (clock clock' : Nat → Timestamp) (folder folder' : Folder) (i : ι)

omit [DecidableEq ι] in
include hfresh in
theorem coupled_start :
    Coupled newId ownId resources i [] (start resources folder)
      (start (fun _ ↦ resources i) folder') := by
  refine ⟨fun j ↦ ⟨_, rfl⟩, ⟨_, rfl⟩, ⟨rfl, Or.inl ⟨hfresh i, hfresh i⟩⟩, .nil, ?_, ?_, ?_⟩
  · exact ⟨nofun, nofun, rfl, nofun⟩
  · exact ⟨nofun, nofun, rfl⟩
  · intro j _ id hid
    cases (hfresh j).symm.trans hid

include hnew hown hfresh hnames in
/-- The run of a resource with others is coupled with its run alone. -/
theorem coupled_run (turns : List (Turn ι)) :
    ∃ names, Coupled newId ownId resources i names
      (run newId keeping clock (start resources folder) turns)
      (run ownId keeping clock' (start (fun _ ↦ resources i) folder')
        (turns.filterMap (Turn.alone i))) := by
  induction turns with
  | nil => exact ⟨[], coupled_start hfresh folder folder' i⟩
  | cons turn earlier ih =>
    obtain ⟨names, hcoupled⟩ := ih
    cases turn with
    | switch available => exact ⟨names, hcoupled.switch keeping _ _ available⟩
    | callback j event verdict =>
      by_cases hj : j = i
      · subst hj
        rw [List.filterMap_cons_some (by rw [Turn.alone, if_pos rfl])]
        exact hcoupled.callback_self hnew hown keeping _ _ event verdict
      · rw [List.filterMap_cons_none (by rw [Turn.alone, if_neg hj])]
        exact ⟨names, hcoupled.callback_of_ne hnew hown keeping _ event verdict hnames hj⟩

include hnew hown hfresh hnames in
/-- Resources with distinct names that share an alarm service in memory and a rule store, both empty
at the start, do not interfere.  Whatever turns they take, and whether the service is switched off
in between, each of them has the outcomes, the state, the alarms and the rule that it has when it
runs alone, up to a one-to-one renaming of ids and the times of the rule.  Each callback changes no
alarm but that of its resource and one that it creates, and no rule but the one under its name. -/
theorem independent (turns : List (Turn ι)) :
    let name := (resources i).context.physicalName
    let shared := run newId keeping clock (start resources folder) turns
    let own := run ownId keeping clock' (start (fun _ ↦ resources i) folder')
      (turns.filterMap (Turn.alone i))
    (∃ names : Renaming, names.IsOneToOne ∧
      List.Forall₂ (SameUpToIds names) (shared.outcomes i) (own.outcomes ()) ∧
      (shared.fleet.resources i).handle.Renamed names (own.fleet.resources ()).handle ∧
      (∀ pair ∈ names,
        shared.fleet.world.1.alarms.get? pair.1 = own.fleet.world.1.alarms.get? pair.2) ∧
      (shared.fleet.world.2.1.get? name).map WatchRule.undated =
        (own.fleet.world.2.1.get? name).map WatchRule.undated) ∧
    ∀ event verdict now,
      let after := (shared.fleet.resources i).perform
        (.overMemory newId (keeping.store verdict)) now event shared.fleet.world
      Confined newId (shared.fleet.resources i) shared.fleet.world after.2.1.handle after.2.2 := by
  intro name shared own
  obtain ⟨names, h⟩ :=
    coupled_run hnew hown hfresh hnames keeping clock clock' folder folder' i turns
  refine ⟨⟨names, h.alarms.oneToOne, h.outcomes, h.handle, h.alarms.alarms, h.rule.rule⟩, ?_⟩
  intro event verdict now
  exact Resource.confined newId keeping verdict _ now event h.rule.keyed

end Run

/-- An alarm on one meter and a combination, created one after the other; alone, the second has the
first id. -/
theorem independent_of_two_kinds :
    let newId (n : Nat) := String.ofList (List.replicate n 'a')
    let sound : Verdict := ⟨true, none, true, true⟩
    let resources (second : Bool) : Resource :=
      if second then ⟨.combination, ⟨"OS::Ceilometer::CombinationAlarm", "second", "stack", .empty,
        .empty⟩, {}⟩
      else ⟨.threshold, ⟨"OS::Ceilometer::Alarm", "first", "stack", .empty, .empty⟩, {}⟩
    let turns : List (Turn Bool) :=
      [.callback false .delete sound, .callback true .create sound, .switch true,
        .callback false .create sound]
    Function.Injective newId ∧ (∀ i, (resources i).handle.alarmId? = none) ∧
    (Function.Injective fun i ↦ (resources i).context.physicalName) ∧
    ∃ shared own,
      shared = run newId .memory (fun n ↦ ⟨n, 0⟩) (start resources .empty) turns ∧
      own = run newId .memory (fun _ ↦ ⟨0, 0⟩) (start (fun _ ↦ resources true) .empty)
        (turns.filterMap (Turn.alone true)) ∧
      (shared.fleet.resources true).handle = .attached "a" ∧
      (own.fleet.resources ()).handle = .attached "" ∧
      ∃ names : Renaming, names.IsOneToOne ∧ ("a", "") ∈ names ∧
        List.Forall₂ (SameUpToIds names) (shared.outcomes true) (own.outcomes ()) := by
  intro newId sound resources turns
  have hnew : Function.Injective newId := injective_ofList_replicate 'a'
  have hfresh (i : Bool) : (resources i).handle.alarmId? = none := by cases i <;> rfl
  have hnames : Function.Injective fun i ↦ (resources i).context.physicalName := by
    intro i j hij
    revert hij
    cases i <;> cases j <;> decide
  obtain ⟨⟨names, honeToOne, houtcomes, hhandle, -⟩, -⟩ :=
    independent hnew hnew hfresh hnames .memory (fun n ↦ ⟨n, 0⟩) (fun _ ↦ ⟨0, 0⟩) .empty .empty true
      turns
  exact ⟨hnew, hfresh, hnames, _, _, rfl, rfl, by decide +kernel, by decide +kernel, names,
    honeToOne, hhandle.mem (by decide +kernel) (by decide +kernel), houtcomes⟩

end Course

end MeteringAlarms.Fleet
