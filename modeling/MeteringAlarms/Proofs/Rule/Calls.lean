import MeteringAlarms.Proofs.Rule.Book
import MeteringAlarms.Proofs.Storage.Folder

/-!
# Calls to rule stores

A call to the store on a directory is measured against the same call to the store in memory, and has
one of three effects: there is nothing to change, or a change is made in memory and on disk, or it
is made in neither.  To undo a creation the new rule is taken out, to undo a removal the old one is
put back, and both leave the rules as they were.
-/

namespace MeteringAlarms

variable {φ : Type}

/-- A call to a rule store. -/
inductive RuleCall where
  | create (rule : WatchRule)
  | load (name : String)
  | destroy (name : String)

inductive RuleAnswer where
  | done
  | found (rule : WatchRule)

/-- Makes a call to a store. -/
def RuleStore.answer {m : Type → Type} [Monad m] (store : RuleStore m) :
    RuleCall → Attempt m RuleAnswer
  | .create rule => (fun _ ↦ .done) <$> store.create rule
  | .load name => .found <$> store.load name
  | .destroy name => (fun _ ↦ .done) <$> store.destroy name

/-- The outcome is that of a change that was made. -/
def isDone : Except Failure RuleAnswer → Bool
  | .ok .done => true
  | _ => false

/-- The outcome is a failure to make a change last. -/
def isStorageFailure : Except Failure RuleAnswer → Bool
  | .error (.storage _) => true
  | _ => false

/-- The outcomes of calls to the store in memory and its rules after them, the latest call first. -/
def RuleBook.answers : List RuleCall → List (Except Failure RuleAnswer) × RuleBook
  | [] => ([], .empty)
  | call :: earlier =>
    let (outcomes, rules) := answers earlier
    let (outcome, rules) := (RuleBook.store.answer call).on rules
    (outcome :: outcomes, rules)

namespace RuleBook

/-- Every rule is stored under its own name. -/
def IsKeyed (rules : RuleBook) : Prop :=
  ∀ name rule, rules.get? name = some rule → rule.name = name

variable (rule : WatchRule) (name : String) (call : RuleCall) (rules : RuleBook)

theorem on_create :
    (RuleBook.store.answer (.create rule)).on rules =
      ((RuleBook.create rule rules).1.map fun _ ↦ .done, (RuleBook.create rule rules).2) :=
  Attempt.on_map _ _ _

theorem on_load :
    (RuleBook.store.answer (.load name)).on rules =
      ((RuleBook.load name rules).1.map .found, (RuleBook.load name rules).2) :=
  Attempt.on_map _ _ _

theorem on_destroy :
    (RuleBook.store.answer (.destroy name)).on rules =
      ((RuleBook.destroy name rules).1.map fun _ ↦ .done, (RuleBook.destroy name rules).2) :=
  Attempt.on_map _ _ _

variable {call rules} in
/-- What holds of every rule under its name, and of a rule that a call creates, holds after it. -/
theorem forall_on_answer (holds : String → WatchRule → Prop)
    (h : ∀ name rule, rules.get? name = some rule → holds name rule)
    (hcreate : ∀ rule, call = .create rule → holds rule.name rule) :
    ∀ name rule, ((RuleBook.store.answer call).on rules).2.get? name = some rule →
      holds name rule := by
  cases call with
  | create rule =>
    rw [on_create]
    rcases create_cases rule rules with ⟨_, hstep⟩ | ⟨_, hstep⟩
    · rw [hstep]
      intro name found hfound
      rw [OrderedMap.get?_insert] at hfound
      split at hfound
      · rename_i hname
        cases hfound
        rw [hname]
        exact hcreate _ rfl
      · exact h name found hfound
    · rw [hstep]
      exact h
  | load name =>
    rw [on_load, RuleBook.load]
    split <;> exact h
  | destroy name =>
    rw [on_destroy]
    rcases destroy_cases name rules with ⟨_, hstep⟩ | ⟨_, hstep⟩
    · rw [hstep]
      exact h
    · rw [hstep]
      intro other found hfound
      rw [OrderedMap.get?_erase] at hfound
      split at hfound
      · cases hfound
      · exact h other found hfound

theorem IsKeyed.on_answer {rules : RuleBook} (h : IsKeyed rules) :
    IsKeyed ((RuleBook.store.answer call).on rules).2 :=
  forall_on_answer (fun name rule ↦ rule.name = name) h fun _ _ ↦ rfl

end RuleBook

namespace Snapshot

/-- The store on a directory, over the pair of its rules and the files. -/
def storeOver (files : FileSystem (StateM φ)) (directory : String) :
    RuleStore (StateM (RuleBook × φ)) :=
  (store files directory).hoist fun step world ↦
    let ((value, rules), files) := (step.run world.1).run world.2
    (value, rules, files)

variable (files : FileSystem (StateM φ)) (directory name : String) (rule : WatchRule)
  (rules : RuleBook) (folder : φ)

theorem run_settle (undo : RuleBook → RuleBook) (changed : RuleBook) :
    (settle files directory undo changed).run folder =
      match (replace files directory changed).run folder with
      | (true, folder) => ((.ok (), changed), folder)
      | (false, folder) => ((.error storageFailure, undo changed), folder) := by
  rw [settle, StateT.run_bind]
  rcases (replace files directory changed).run folder with ⟨_ | _, _⟩ <;> rfl

theorem on_create :
    ((storeOver files directory).create rule).on (rules, folder) =
      match RuleBook.create rule rules with
      | (.error failure, rules) => (.error failure, rules, folder)
      | (.ok (), rules) =>
        match (replace files directory rules).run folder with
        | (true, folder) => (.ok (), rules, folder)
        | (false, folder) => (.error storageFailure, rules.erase rule.name, folder) := by
  have hrun : (create files directory rule).run.run rules =
      match RuleBook.create rule rules with
      | (.error failure, rules) => pure (.error failure, rules)
      | (.ok (), rules) => settle files directory (·.erase rule.name) rules := rfl
  change (let ((value, rules), files) := ((create files directory rule).run.run rules).run folder;
    (value, rules, files)) = _
  rw [hrun]
  rcases RuleBook.create rule rules with ⟨failure | _, next⟩
  · rfl
  · dsimp only
    rw [run_settle]
    rcases (replace files directory next).run folder with ⟨_ | _, _⟩ <;> rfl

theorem on_load :
    ((storeOver files directory).load name).on (rules, folder) =
      ((RuleBook.load name rules).1, (RuleBook.load name rules).2, folder) := rfl

theorem on_destroy :
    ((storeOver files directory).destroy name).on (rules, folder) =
      match rules.get? name with
      | none => (.error (.ruleMissing name), rules, folder)
      | some removed =>
        match (replace files directory (rules.erase name)).run folder with
        | (true, folder) => (.ok (), rules.erase name, folder)
        | (false, folder) =>
          (.error storageFailure, (rules.erase name).insert name removed, folder) := by
  have hrun : (destroy files directory name).run.run rules =
      match rules.get? name with
      | none => pure (.error (.ruleMissing name), rules)
      | some removed => settle files directory (·.insert name removed) (rules.erase name) := rfl
  change (let ((value, rules), files) := ((destroy files directory name).run.run rules).run folder;
    (value, rules, files)) = _
  rw [hrun]
  rcases rules.get? name with _ | removed
  · rfl
  · dsimp only
    rw [run_settle]
    rcases (replace files directory (rules.erase name)).run folder with ⟨_ | _, _⟩ <;> rfl

/-- What a call to the store on a directory comes to, measured against the store in memory. -/
inductive Effect (directory : String) (call : RuleCall) (verdict : Verdict) (rules : RuleBook)
    (folder : Folder) : Except Failure RuleAnswer × RuleBook × Folder → Prop
  /-- There is nothing to change. -/
  | answered {outcome : Except Failure RuleAnswer}
      (memory : (RuleBook.store.answer call).on rules = (outcome, rules))
      (notDone : isDone outcome = false) (notStorage : isStorageFailure outcome = false) :
      Effect directory call verdict rules folder (outcome, rules, folder)
  /-- A change is made and lasts. -/
  | changed {after : RuleBook} {next : Folder}
      (memory : (RuleBook.store.answer call).on rules = (.ok .done, after))
      (lasting : (verdict.written && verdict.renamed) = true)
      (snapshot : next.get? (path directory) = some (toText after))
      (clean : next.get? (newPath directory) = none) :
      Effect directory call verdict rules folder (.ok .done, after, next)
  /-- A change is made and undone. -/
  | undone {after : RuleBook} {next : Folder}
      (memory : (RuleBook.store.answer call).on rules = (.ok .done, after))
      (failing : (verdict.written && verdict.renamed) = false)
      (snapshot : next.get? (path directory) = folder.get? (path directory))
      (clean : verdict.removed = true → next.get? (newPath directory) = none) :
      Effect directory call verdict rules folder (.error storageFailure, rules, next)

/-- A change that the store in memory makes lasts or is undone, as the files have it. -/
theorem Effect.of_replace {call : RuleCall} (verdict : Verdict) {rules after : RuleBook}
    (folder : Folder)
    (hmemory : (RuleBook.store.answer call).on rules = (.ok .done, after)) :
    Effect directory call verdict rules folder
      (match (replace (Folder.files verdict) directory after).run folder with
      | (true, folder) => (.ok .done, after, folder)
      | (false, folder) => (.error storageFailure, rules, folder)) := by
  rcases replace_cases directory verdict after folder with
    ⟨hlasting, next, hreplace, hsnapshot, hclean⟩ | ⟨hfailing, next, hreplace, hsnapshot, hclean⟩
  · rw [hreplace]
    exact .changed hmemory hlasting hsnapshot hclean
  · rw [hreplace]
    exact .undone hmemory hfailing hsnapshot hclean

theorem effect (call : RuleCall) (verdict : Verdict) (rules : RuleBook) (folder : Folder) :
    Effect directory call verdict rules folder
      (((storeOver (Folder.files verdict) directory).answer call).on (rules, folder)) := by
  cases call with
  | create rule =>
    have hmemory := RuleBook.on_create rule rules
    have hstep := on_create (Folder.files verdict) directory rule rules folder
    rw [RuleStore.answer, Attempt.on_map, hstep]
    rcases RuleBook.create_cases rule rules with ⟨hfree, hcreate⟩ | ⟨_, hcreate⟩
    · rw [hcreate] at hmemory ⊢
      have heffect := Effect.of_replace directory verdict folder hmemory
      dsimp only at heffect ⊢
      rw [OrderedMap.erase_insert_of_get?_eq_none hfree]
      revert heffect
      rcases (replace (Folder.files verdict) directory (rules.insert rule.name rule)).run folder
        with ⟨_ | _, _⟩ <;> exact id
    · rw [hcreate] at hmemory ⊢
      exact .answered hmemory rfl rfl
  | load name =>
    have hmemory := RuleBook.on_load name rules
    rw [RuleStore.answer, Attempt.on_map, on_load]
    rw [RuleBook.load] at hmemory ⊢
    cases hrule : rules.get? name with
    | none =>
      rw [hrule] at hmemory
      exact .answered hmemory rfl rfl
    | some rule =>
      rw [hrule] at hmemory
      exact .answered hmemory rfl rfl
  | destroy name =>
    have hmemory := RuleBook.on_destroy name rules
    have hstep := on_destroy (Folder.files verdict) directory name rules folder
    rw [RuleStore.answer, Attempt.on_map, hstep]
    cases hrule : rules.get? name with
    | none =>
      rcases RuleBook.destroy_cases name rules with ⟨_, hdestroy⟩ | ⟨htaken, _⟩
      · rw [hdestroy] at hmemory
        exact .answered hmemory rfl rfl
      · rw [hrule] at htaken
        cases htaken
    | some removed =>
      rw [RuleBook.destroy_of_some hrule] at hmemory
      have heffect := Effect.of_replace directory verdict folder hmemory
      dsimp only at heffect ⊢
      rw [OrderedMap.insert_erase_of_get?_eq_some hrule]
      revert heffect
      rcases (replace (Folder.files verdict) directory (rules.erase name)).run folder
        with ⟨_ | _, _⟩ <;> exact id

end Snapshot

end MeteringAlarms
