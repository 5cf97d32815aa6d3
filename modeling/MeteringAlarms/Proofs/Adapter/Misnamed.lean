import MeteringAlarms.Proofs.Adapter.Sharing
import MeteringAlarms.Proofs.Rule.Reopening

/-!
# Rules under the names of others

A store keeps the keys that a snapshot gives it, and a snapshot may give a rule a key that is not
its name.  A removal looks for the rule under the name of the resource and then takes the rule of
the name that is written in what it found, so it clears its own key just when that key names its
rule.  Otherwise it reports success all the same: its own key still has a rule, and the rule of
another may be gone.
-/

namespace MeteringAlarms

variable {σ : Type}

/-- The name that is written in the rule under a key; without a rule it is the key itself. -/
def RuleBook.writtenName (rules : RuleBook) (key : String) : String :=
  ((rules.get? key).map (·.name)).getD key

namespace RuleBook

variable {rules : RuleBook} {key : String}

theorem writtenName_of_none (h : rules.get? key = none) : rules.writtenName key = key := by
  rw [writtenName, h]
  rfl

theorem writtenName_of_some {rule : WatchRule} (h : rules.get? key = some rule) :
    rules.writtenName key = rule.name := by
  rw [writtenName, h]
  rfl

end RuleBook

namespace RuleKeeping

variable (keeping : RuleKeeping) (verdict : Verdict) (key : String) (rules : RuleBook)
  (folder : Folder)

/-- A removal that counts as done has taken the rule of the written name, if there is one, and
nothing else. -/
theorem cleared_of_removeRule
    (hdone : ignoreMissing
      ((ThresholdAlarm.removeRule (keeping.store verdict) key).on (rules, folder)).1 = .ok ()) :
    ((ThresholdAlarm.removeRule (keeping.store verdict) key).on (rules, folder)).2 =
      keeping.cleared (rules.writtenName key) rules folder := by
  cases hrule : rules.get? key with
  | none =>
    rw [keeping.removeRule_of_none verdict key folder hrule, RuleBook.writtenName_of_none hrule,
      cleared_of_none keeping folder hrule]
  | some rule =>
    have hstep : (ThresholdAlarm.removeRule (keeping.store verdict) key).on (rules, folder) =
        ((keeping.store verdict).destroy rule.name).on (rules, folder) := by
      rw [ThresholdAlarm.on_removeRule, load_eq, RuleBook.load_of_some hrule]
    rw [hstep] at hdone ⊢
    rw [RuleBook.writtenName_of_some hrule]
    cases htarget : rules.get? rule.name with
    | none =>
      rw [keeping.destroy_of_none verdict rule.name rules folder htarget,
        cleared_of_none keeping folder htarget]
    | some target =>
      rcases keeping.destroy_of_some verdict rule.name rules folder htarget with
        ⟨-, hdestroy⟩ | ⟨-, next, -, hdestroy⟩
      · rw [hdestroy, cleared_of_isSome keeping folder (Option.isSome_of_eq_some htarget)]
      · rw [hdestroy] at hdone
        cases hdone

/-- A key is cleared, and no other, just when it is the name that is written in its rule. -/
theorem clears_iff_writtenName :
    ((keeping.cleared (rules.writtenName key) rules folder).1.get? key = none ∧
        ∀ other, other ≠ key →
          (keeping.cleared (rules.writtenName key) rules folder).1.get? other = rules.get? other) ↔
      rules.writtenName key = key := by
  constructor
  · rintro ⟨hcleared, -⟩
    by_contra hwritten
    have hkept : rules.get? key = none := by
      rw [get?_cleared, if_neg (Ne.symm hwritten)] at hcleared
      exact hcleared
    exact hwritten (RuleBook.writtenName_of_none hkept)
  · intro hwritten
    refine ⟨?_, fun other hother ↦ ?_⟩
    · rw [get?_cleared, if_pos hwritten.symm]
    · rw [get?_cleared, if_neg (by rwa [hwritten])]

end RuleKeeping

/-- The removal of an alarm leaves the rules alone. -/
theorem CombinationAlarm.rules_of_delete {ρ : Type} (alarms : AlarmService (StateM σ))
    (store : RuleStore (StateM ρ)) (handle : Handle) (world : σ) (stored : ρ) :
    ((delete (.join alarms store)).on handle (world, stored)).2.2.2 = stored := by
  rw [on_delete, Callback.on_removeAlarm]
  rcases handle.alarmId? with _ | id
  · rfl
  · dsimp only
    rw [Services.join_delete]
    dsimp only
    cases ignoreMissing ((alarms.delete id).on world).1 <;> rfl

namespace Resource

section Delete

variable (alarms : AlarmService (StateM σ)) (world : σ) (keeping : RuleKeeping) (verdict : Verdict)
  (rules : RuleBook) (folder : Folder) (context : Context) (handle : Handle) (now : Timestamp)

theorem taken_of_delete
    (hdone : ((⟨.threshold, context, handle⟩ : Resource).perform
      (.join alarms (keeping.store verdict)) now .delete (world, rules, folder)).1 = .ok ()) :
    ((⟨.threshold, context, handle⟩ : Resource).perform
      (.join alarms (keeping.store verdict)) now .delete (world, rules, folder)).2.2.2 =
        keeping.cleared (rules.writtenName context.physicalName) rules folder := by
  have hcleared := keeping.cleared_of_removeRule verdict context.physicalName rules folder
  rw [perform_eq] at hdone ⊢
  dsimp only at hdone ⊢
  rw [LifecycleEvent.handle, ThresholdAlarm.on_delete, Services.join_removeRule] at hdone ⊢
  revert hcleared hdone
  rcases (ThresholdAlarm.removeRule (keeping.store verdict) context.physicalName).on
    (rules, folder) with ⟨outcome, stored⟩
  dsimp only
  cases ignoreMissing outcome with
  | error failure =>
    intro hdone
    cases hdone
  | ok =>
    intro _ hcleared
    rw [← hcleared rfl]
    exact CombinationAlarm.rules_of_delete alarms (keeping.store verdict) handle world stored

/-- Whatever the store holds and wherever it keeps it, and whatever the alarm service answers, a
removal that succeeds takes from the store the rule of the name that is written in the rule under
the name of the resource, and nothing else.  So the name of the resource is free afterwards, and all
other rules are there, just when the rule under that name has it. -/
theorem delete_clears_iff
    (hdone : ((⟨.threshold, context, handle⟩ : Resource).perform
      (.join alarms (keeping.store verdict)) now .delete (world, rules, folder)).1 = .ok ()) :
    let name := context.physicalName
    let after := ((⟨.threshold, context, handle⟩ : Resource).perform
      (.join alarms (keeping.store verdict)) now .delete (world, rules, folder)).2.2.2
    after = keeping.cleared (rules.writtenName name) rules folder ∧
    (((∀ later, (((keeping.store later).load name).on after).1 = .error (.ruleMissing name)) ∧
        ∀ other, other ≠ name → after.1.get? other = rules.get? other) ↔
      ∀ rule, rules.get? name = some rule → rule.name = name) := by
  intro name after
  have hafter : after = keeping.cleared (rules.writtenName name) rules folder :=
    taken_of_delete alarms world keeping verdict rules folder context handle now hdone
  have hload (later : Verdict) :
      (((keeping.store later).load name).on after).1 = .error (.ruleMissing name) ↔
        after.1.get? name = none := by
    rw [keeping.load_eq later name after.1 after.2]
    cases hrule : after.1.get? name with
    | none => simp [RuleBook.load_of_none hrule]
    | some rule => simp [RuleBook.load_of_some hrule]
  have hnamed : rules.writtenName name = name ↔
      ∀ rule, rules.get? name = some rule → rule.name = name := by
    cases hrule : rules.get? name with
    | none => simp [RuleBook.writtenName_of_none hrule]
    | some rule => simp [RuleBook.writtenName_of_some hrule]
  refine ⟨hafter, ?_⟩
  rw [← hnamed, ← keeping.clears_iff_writtenName name rules folder, ← hafter]
  exact and_congr_left' ⟨fun h ↦ (hload verdict).1 (h verdict), fun h later ↦ (hload later).2 h⟩

end Delete

/-- A rule stored under its own name is gone, and the one beside it is there. -/
theorem delete_clears_iff_of_own_name :
    let newId (n : Nat) := String.ofList (List.replicate n 'a')
    let keeping : RuleKeeping := .snapshot "rules"
    let sound : Verdict := ⟨true, none, true, true⟩
    let rule (name : String) : WatchRule := .made name .null "stack" .delegated ⟨0, 0⟩
    let rules : RuleBook := .ofList [("own", rule "own"), ("other", rule "other")]
    let context : Context := ⟨"OS::Ceilometer::Alarm", "own", "stack", .empty, .empty⟩
    let step := (⟨.threshold, context, .attached "a"⟩ : Resource).perform
      (.join (AlarmMemory.service newId) (keeping.store sound)) ⟨1, 0⟩ .delete
      ({}, rules, .empty)
    step.1 = .ok () ∧
    (((keeping.store sound).load "own").on step.2.2.2).1 = .error (.ruleMissing "own") ∧
    step.2.2.2.1.get? "other" = some (rule "other") := by
  intro newId keeping sound rule rules context step
  have hdone : step.1 = .ok () := by decide +kernel
  have hown : rules.get? "own" = some (rule "own") := by decide +kernel
  have hother : rules.get? "other" = some (rule "other") := by decide +kernel
  have hnamed : ∀ found, rules.get? "own" = some found → found.name = "own" := by
    intro found hfound
    cases hown.symm.trans hfound
    rfl
  obtain ⟨-, hiff⟩ := delete_clears_iff (AlarmMemory.service newId) {} keeping sound rules .empty
    context (.attached "a") ⟨1, 0⟩ hdone
  obtain ⟨hgone, hkept⟩ := hiff.2 hnamed
  exact ⟨hdone, hgone sound, (hkept "other" (by decide)).trans hother⟩

/-- A snapshot that gives one rule two keys is read.  The removal of the resource whose name is the
wrong one of the two succeeds, but takes the rule under the other key. -/
theorem delete_takes_misnamed_rule :
    let newId (n : Nat) := String.ofList (List.replicate n 'a')
    let keeping : RuleKeeping := .snapshot "rules"
    let sound : Verdict := ⟨true, none, true, true⟩
    let rule : WatchRule := .made "other" (.object []) "stack" .delegated ⟨0, 0⟩
    let rules : RuleBook := .ofList [("own", rule), ("other", rule)]
    let folder : Folder := .ofList [(Snapshot.path "rules", Snapshot.toText rules)]
    let context : Context := ⟨"OS::Ceilometer::Alarm", "own", "stack", .empty, .empty⟩
    let step := (⟨.threshold, context, .attached "a"⟩ : Resource).perform
      (.join (AlarmMemory.service newId) (keeping.store sound)) ⟨1, 0⟩ .delete
      ({}, rules, folder)
    (Snapshot.openAt (Folder.files sound) "rules").on folder = (.ok rules, folder) ∧
    step.1 = .ok () ∧
    (((keeping.store sound).load "own").on step.2.2.2).1 = .ok rule ∧
    rules.get? "other" = some rule ∧ step.2.2.2.1.get? "other" = none := by
  intro newId keeping sound rule rules folder context step
  have hexact : rules.All WatchRule.IsExact := by decide +kernel
  have hshallow : Snapshot.allShallow rules = true := by decide +kernel
  have hopen : (Snapshot.openAt (Folder.files sound) "rules").on folder = (.ok rules, folder) := by
    rw [Snapshot.on_openAt, OrderedMap.get?_ofList_singleton, if_pos rfl,
      Snapshot.openText_toText hexact, if_pos hshallow]
  exact ⟨hopen, by decide +kernel, by decide +kernel, by decide +kernel, by decide +kernel⟩

end Resource

end MeteringAlarms
