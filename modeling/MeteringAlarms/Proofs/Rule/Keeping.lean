import MeteringAlarms.Proofs.Adapter.Runs
import MeteringAlarms.Proofs.Rule.Calls

/-!
# Rules in memory or in a file

The two kinds of store behind one interface: rules in memory alone, whose changes always last, and
rules with a snapshot, whose changes last when the snapshot can be replaced.  A change that does not
last leaves the rules as they were, and of the files it touches at most a new snapshot that could
not be removed.  What is proved over a `RuleKeeping` holds of both kinds of store, and of every way
in which steps on files may end.
-/

namespace MeteringAlarms

/-- Where a store keeps its rules: in memory, or in a file of a directory as well. -/
inductive RuleKeeping where
  | memory
  | snapshot (directory : String)

namespace RuleKeeping

/-- The store, over its rules and the files. -/
def store (verdict : Verdict) : RuleKeeping → RuleStore (StateM (RuleBook × Folder))
  | .memory => RuleBook.store.hoist (StateM.focus Prod.fst fun rules whole ↦ (rules, whole.2))
  | .snapshot directory => Snapshot.storeOver (Folder.files verdict) directory

/-- A change of the rules would last. -/
def lasts (verdict : Verdict) : RuleKeeping → Bool
  | .memory => true
  | .snapshot _ => verdict.written && verdict.renamed

/-- The files after a change that lasts. -/
def keep (rules : RuleBook) (folder : Folder) : RuleKeeping → Folder
  | .memory => folder
  | .snapshot directory =>
    (folder.erase (Snapshot.newPath directory)).insert (Snapshot.path directory)
      (Snapshot.toText rules)

/-- The rules and the files once no rule has a name. -/
def cleared (name : String) (rules : RuleBook) (folder : Folder) (keeping : RuleKeeping) :
    RuleBook × Folder :=
  if (rules.get? name).isSome then
    (rules.erase name, keeping.keep (rules.erase name) folder)
  else (rules, folder)

/-- The same files, apart from a new snapshot that was left behind. -/
def SameFiles (left right : Folder) : RuleKeeping → Prop
  | .memory => left = right
  | .snapshot directory =>
    ∀ path, path ≠ Snapshot.newPath directory → left.get? path = right.get? path

variable (keeping : RuleKeeping) {left middle right : Folder}

theorem SameFiles.refl (folder : Folder) : keeping.SameFiles folder folder := by
  cases keeping with
  | memory => rfl
  | snapshot directory => exact fun _ _ ↦ rfl

variable {keeping}

theorem SameFiles.trans (hleft : keeping.SameFiles left middle)
    (hright : keeping.SameFiles middle right) : keeping.SameFiles left right := by
  cases keeping with
  | memory => exact Eq.trans hleft hright
  | snapshot directory => exact fun path hpath ↦ (hleft path hpath).trans (hright path hpath)

/-- What is left behind is gone after the next change that lasts. -/
theorem SameFiles.keep_eq (h : keeping.SameFiles left right) (rules : RuleBook) :
    keeping.keep rules left = keeping.keep rules right := by
  cases keeping with
  | memory => exact h
  | snapshot directory =>
    apply OrderedMap.ext_get?
    intro path
    simp only [keep, OrderedMap.get?_insert, OrderedMap.get?_erase]
    by_cases hpath : path = Snapshot.newPath directory
    · rw [if_pos hpath, if_pos hpath]
    · rw [if_neg hpath, if_neg hpath, h path hpath]

variable (keeping) (verdict : Verdict) (rule : WatchRule) (name : String) (rules : RuleBook)
  (folder : Folder)

theorem create_cases :
    (rules.get? rule.name).isSome ∧
      ((keeping.store verdict).create rule).on (rules, folder) =
        (.error (.ruleExists rule.name), rules, folder) ∨
    rules.get? rule.name = none ∧ keeping.lasts verdict = true ∧
      ((keeping.store verdict).create rule).on (rules, folder) =
        (.ok (), rules.insert rule.name rule,
          keeping.keep (rules.insert rule.name rule) folder) ∨
    rules.get? rule.name = none ∧ keeping.lasts verdict = false ∧
      ∃ next, keeping.SameFiles next folder ∧
        ((keeping.store verdict).create rule).on (rules, folder) =
          (.error Snapshot.storageFailure, rules, next) := by
  cases keeping with
  | memory =>
    have hstep : ((RuleKeeping.memory.store verdict).create rule).on (rules, folder) =
      ((RuleBook.create rule rules).1, (RuleBook.create rule rules).2, folder) := rfl
    rw [hstep]
    rcases RuleBook.create_cases rule rules with ⟨hfree, hcreate⟩ | ⟨htaken, hcreate⟩
    · rw [hcreate]
      exact Or.inr (Or.inl ⟨hfree, rfl, rfl⟩)
    · rw [hcreate]
      exact Or.inl ⟨htaken, rfl⟩
  | snapshot directory =>
    have hstep := Snapshot.on_create (Folder.files verdict) directory rule rules folder
    rw [store, hstep]
    rcases RuleBook.create_cases rule rules with ⟨hfree, hcreate⟩ | ⟨htaken, hcreate⟩
    · rw [hcreate]
      dsimp only
      refine Or.inr ?_
      cases hlasts : verdict.written && verdict.renamed with
      | true =>
        rw [Snapshot.replace_of_lasting directory verdict _ folder hlasts]
        exact Or.inl ⟨hfree, hlasts, rfl⟩
      | false =>
        obtain ⟨next, hreplace, hsame, -⟩ :=
          Snapshot.replace_of_failing directory verdict (rules.insert rule.name rule) folder hlasts
        rw [hreplace]
        refine Or.inr ⟨hfree, hlasts, next, hsame, ?_⟩
        dsimp only
        rw [OrderedMap.erase_insert_of_get?_eq_none hfree]
    · rw [hcreate]
      exact Or.inl ⟨htaken, rfl⟩

theorem load_eq :
    ((keeping.store verdict).load name).on (rules, folder) =
      ((RuleBook.load name rules).1, rules, folder) := by
  have hrules : (RuleBook.load name rules).2 = rules := by
    rw [RuleBook.load]
    split <;> rfl
  cases keeping with
  | memory =>
    have hstep : ((RuleKeeping.memory.store verdict).load name).on (rules, folder) =
      ((RuleBook.load name rules).1, (RuleBook.load name rules).2, folder) := rfl
    rw [hstep, hrules]
  | snapshot directory => rw [store, Snapshot.on_load, hrules]

theorem destroy_of_some {rule : WatchRule} (h : rules.get? name = some rule) :
    keeping.lasts verdict = true ∧
      ((keeping.store verdict).destroy name).on (rules, folder) =
        (.ok (), rules.erase name, keeping.keep (rules.erase name) folder) ∨
    keeping.lasts verdict = false ∧
      ∃ next, keeping.SameFiles next folder ∧
        ((keeping.store verdict).destroy name).on (rules, folder) =
          (.error Snapshot.storageFailure, rules, next) := by
  cases keeping with
  | memory =>
    have hstep : ((RuleKeeping.memory.store verdict).destroy name).on (rules, folder) =
      ((RuleBook.destroy name rules).1, (RuleBook.destroy name rules).2, folder) := rfl
    rw [hstep, RuleBook.destroy_of_some h]
    exact Or.inl ⟨rfl, rfl⟩
  | snapshot directory =>
    have hstep := Snapshot.on_destroy (Folder.files verdict) directory name rules folder
    rw [store, hstep, h]
    dsimp only
    cases hlasts : verdict.written && verdict.renamed with
    | true =>
      rw [Snapshot.replace_of_lasting directory verdict _ folder hlasts]
      exact Or.inl ⟨hlasts, rfl⟩
    | false =>
      obtain ⟨next, hreplace, hsame, -⟩ :=
        Snapshot.replace_of_failing directory verdict (rules.erase name) folder hlasts
      rw [hreplace]
      refine Or.inr ⟨hlasts, next, hsame, ?_⟩
      dsimp only
      rw [OrderedMap.insert_erase_of_get?_eq_some h]

variable {rules} in
theorem removeRule_of_none (h : rules.get? name = none) :
    (ThresholdAlarm.removeRule (keeping.store verdict) name).on (rules, folder) =
      (.error (.ruleMissing name), rules, folder) := by
  rw [ThresholdAlarm.on_removeRule, load_eq, RuleBook.load_of_none h]

/-- Removing the rule of a name, where every rule is stored under its own. -/
theorem removeRule_cases (hkeyed : rules.IsKeyed) :
    rules.get? name = none ∧
      (ThresholdAlarm.removeRule (keeping.store verdict) name).on (rules, folder) =
        (.error (.ruleMissing name), rules, folder) ∨
    (rules.get? name).isSome ∧ keeping.lasts verdict = true ∧
      (ThresholdAlarm.removeRule (keeping.store verdict) name).on (rules, folder) =
        (.ok (), rules.erase name, keeping.keep (rules.erase name) folder) ∨
    (rules.get? name).isSome ∧ keeping.lasts verdict = false ∧
      ∃ next, keeping.SameFiles next folder ∧
        (ThresholdAlarm.removeRule (keeping.store verdict) name).on (rules, folder) =
          (.error Snapshot.storageFailure, rules, next) := by
  cases hrule : rules.get? name with
  | none => exact Or.inl ⟨rfl, keeping.removeRule_of_none verdict name folder hrule⟩
  | some rule =>
    rw [ThresholdAlarm.on_removeRule, load_eq, RuleBook.load_of_some hrule]
    dsimp only
    rw [hkeyed name rule hrule]
    refine Or.inr ?_
    rcases keeping.destroy_of_some verdict name rules folder hrule with
      ⟨hlasts, hstep⟩ | ⟨hlasts, next, hsame, hstep⟩
    · exact Or.inl ⟨rfl, hlasts, hstep⟩
    · exact Or.inr ⟨rfl, hlasts, next, hsame, hstep⟩

theorem cleared_of_none {name : String} {rules : RuleBook} (h : rules.get? name = none) :
    keeping.cleared name rules folder = (rules, folder) := by
  rw [cleared, h, Option.isSome_none, if_neg Bool.false_ne_true]

theorem cleared_of_isSome {name : String} {rules : RuleBook} (h : (rules.get? name).isSome) :
    keeping.cleared name rules folder =
      (rules.erase name, keeping.keep (rules.erase name) folder) :=
  if_pos h

theorem get?_cleared (other : String) :
    (keeping.cleared name rules folder).1.get? other =
      if other = name then none else rules.get? other := by
  cases h : rules.get? name with
  | none =>
    rw [cleared_of_none keeping folder h]
    split
    · rename_i hother
      rw [hother]
      exact h
    · rfl
  | some rule =>
    rw [cleared_of_isSome keeping folder (Option.isSome_of_eq_some h), OrderedMap.get?_erase]

variable {keeping} in
/-- What is left behind makes no difference to a rule that is there. -/
theorem SameFiles.cleared_eq {name : String} {rules : RuleBook} (h : keeping.SameFiles left right)
    (hstored : (rules.get? name).isSome) :
    keeping.cleared name rules left = keeping.cleared name rules right := by
  rw [cleared_of_isSome keeping left hstored, cleared_of_isSome keeping right hstored, h.keep_eq]

theorem cleared_cleared :
    keeping.cleared name (keeping.cleared name rules folder).1
        (keeping.cleared name rules folder).2 = keeping.cleared name rules folder := by
  apply cleared_of_none
  rw [get?_cleared, if_pos rfl]

variable {rules} in
theorem isKeyed_cleared (hkeyed : rules.IsKeyed) :
    (keeping.cleared name rules folder).1.IsKeyed := by
  intro other rule hrule
  rw [get?_cleared] at hrule
  split at hrule
  · cases hrule
  · exact hkeyed other rule hrule

/-- Removing the rule of a name either fails and leaves the rules as they are, or no rule has the
name afterwards, whether or not one had it before. -/
theorem clearing_cases (hkeyed : rules.IsKeyed) :
    (rules.get? name).isSome ∧ keeping.lasts verdict = false ∧
      (∃ next, keeping.SameFiles next folder ∧
        (ThresholdAlarm.removeRule (keeping.store verdict) name).on (rules, folder) =
          (.error Snapshot.storageFailure, rules, next)) ∨
    (rules.get? name = none ∨ keeping.lasts verdict = true) ∧
      ∃ outcome, ignoreMissing outcome = .ok () ∧
        (ThresholdAlarm.removeRule (keeping.store verdict) name).on (rules, folder) =
          (outcome, keeping.cleared name rules folder) := by
  rcases keeping.removeRule_cases verdict name rules folder hkeyed with
    ⟨hfree, hstep⟩ | ⟨hstored, hlasts, hstep⟩ | ⟨hstored, hfails, hstep⟩
  · rw [cleared_of_none keeping folder hfree]
    exact Or.inr ⟨Or.inl hfree, _, rfl, hstep⟩
  · rw [cleared_of_isSome keeping folder hstored]
    exact Or.inr ⟨Or.inr hlasts, _, rfl, hstep⟩
  · exact Or.inl ⟨hstored, hfails, hstep⟩

end RuleKeeping

end MeteringAlarms
