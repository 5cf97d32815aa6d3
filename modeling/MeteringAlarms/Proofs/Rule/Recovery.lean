import MeteringAlarms.Proofs.Rule.Outage
import MeteringAlarms.Proofs.Rule.Text

/-!
# Recovery from power cuts

A store is opened, called for a while, and loses power at some step on its files, or does not.
Opened again, it has the rules from before the call that was cut off or those from after it; a store
that lost no power has the rules that it had.  What new snapshot was left behind, by that life of
the store or by an earlier one, makes no difference to any of this, nor to what later calls answer.
-/

namespace MeteringAlarms

open Machine Snapshot

variable {directory : String} {fates : Nat → Fate} {rules : RuleBook}

/-- The outcome of a call, the rules and the machine after it, or the files where it was cut off. -/
abbrev CallResult := Except Folder (Except Failure RuleAnswer × RuleBook × Machine)

/-- Makes a call to the store on a directory of a machine. -/
def Machine.call (fates : Nat → Fate) (directory : String) (call : RuleCall) (rules : RuleBook)
    (machine : Machine) : CallResult :=
  ((((Snapshot.store (files fates) directory).answer call).run.run rules).run machine).map
    fun ((outcome, rules), machine) ↦ (outcome, rules, machine)

/-- The result of a change that comes to the given end. -/
def settled (undone changed : RuleBook) : Except Folder (Bool × Machine) → CallResult
  | .error folder => .error folder
  | .ok (true, machine) => .ok (.ok .done, changed, machine)
  | .ok (false, machine) => .ok (.error storageFailure, undone, machine)

theorem run_map {α : Type} (f : α → RuleAnswer) (attempt : Attempt (StateT RuleBook Run) α)
    (machine : Machine) :
    (((f <$> attempt).run.run rules).run machine).map
        (fun ((outcome, rules), machine) ↦ (outcome, rules, machine)) =
      ((attempt.run.run rules).run machine).map
        fun ((outcome, rules), machine) ↦ (outcome.map f, rules, machine) := by
  rw [ExceptT.run_map, StateT.run_map, StateT.run_map]
  rcases (attempt.run.run rules).run machine with folder | ⟨⟨outcome, rules⟩, machine⟩ <;> rfl

theorem run_settle_map (undo : RuleBook → RuleBook) (changed : RuleBook)
    (machine : Machine) :
    ((settle (files fates) directory undo changed).run machine).map
        (fun ((outcome, rules), machine) ↦
          (outcome.map fun (_ : Unit) ↦ RuleAnswer.done, rules, machine)) =
      settled (undo changed) changed ((replace (files fates) directory changed).run machine) := by
  rw [settle, StateT.run_bind]
  rcases (replace (files fates) directory changed).run machine with folder | ⟨_ | _, machine⟩ <;>
    rfl

theorem call_create (rule : WatchRule) (machine : Machine) :
    machine.call fates directory (.create rule) rules =
      match RuleBook.create rule rules with
      | (.error failure, rules) => .ok (.error failure, rules, machine)
      | (.ok (), changed) => settled (changed.erase rule.name) changed
        ((replace (files fates) directory changed).run machine) := by
  have hrun : (Snapshot.create (files fates) directory rule).run.run rules =
      match RuleBook.create rule rules with
      | (.error failure, rules) => pure (.error failure, rules)
      | (.ok (), rules) => settle (files fates) directory (·.erase rule.name) rules := rfl
  refine (run_map _ (Snapshot.create (files fates) directory rule) machine).trans ?_
  rw [hrun]
  rcases RuleBook.create rule rules with ⟨failure | _, changed⟩
  · rfl
  · exact run_settle_map _ changed machine

theorem call_load (name : String) (machine : Machine) :
    machine.call fates directory (.load name) rules =
      .ok ((RuleBook.load name rules).1.map .found, (RuleBook.load name rules).2, machine) :=
  run_map _ _ machine

theorem call_destroy (name : String) (machine : Machine) :
    machine.call fates directory (.destroy name) rules =
      match rules.get? name with
      | none => .ok (.error (.ruleMissing name), rules, machine)
      | some removed => settled ((rules.erase name).insert name removed) (rules.erase name)
        ((replace (files fates) directory (rules.erase name)).run machine) := by
  have hrun : (Snapshot.destroy (files fates) directory name).run.run rules =
      match rules.get? name with
      | none => pure (.error (.ruleMissing name), rules)
      | some removed => settle (files fates) directory (·.insert name removed)
        (rules.erase name) := rfl
  refine (run_map _ (Snapshot.destroy (files fates) directory name) machine).trans ?_
  rw [hrun]
  rcases rules.get? name with _ | removed
  · rfl
  · exact run_settle_map _ (rules.erase name) machine

variable (directory) in
/-- What a call comes to on two machines whose files are the same but for a new snapshot that was
left behind; `before` are the files of the first. -/
inductive Called (call : RuleCall) (rules : RuleBook) (before : Folder) :
    CallResult → CallResult → Prop
  /-- The power goes before the snapshot is replaced or after it. -/
  | cut {left right : Folder} (same : SameButNew directory left right)
      (snapshot : left.get? (path directory) = before.get? (path directory) ∨
        left.get? (path directory) = some (toText ((RuleBook.store.answer call).on rules).2)) :
      Called call rules before (.error left) (.error right)
  | kept {left right : Folder} (outcome : Except Failure RuleAnswer) (steps : Nat)
      (same : SameButNew directory left right)
      (snapshot : left.get? (path directory) = before.get? (path directory)) :
      Called call rules before (.ok (outcome, rules, ⟨left, steps⟩))
        (.ok (outcome, rules, ⟨right, steps⟩))
  | changed {left right : Folder} (steps : Nat) (same : SameButNew directory left right)
      (snapshot : left.get? (path directory) =
        some (toText ((RuleBook.store.answer call).on rules).2)) :
      Called call rules before
        (.ok (.ok .done, ((RuleBook.store.answer call).on rules).2, ⟨left, steps⟩))
        (.ok (.ok .done, ((RuleBook.store.answer call).on rules).2, ⟨right, steps⟩))

variable (fates) in
/-- A call goes alike whatever new snapshot was left behind. -/
theorem called (call : RuleCall) (rules : RuleBook) {left right : Folder}
    (hsame : SameButNew directory left right) (steps : Nat) :
    Called directory call rules left
      (Machine.call fates directory call rules ⟨left, steps⟩)
      (Machine.call fates directory call rules ⟨right, steps⟩) := by
  have hsettled (changed : RuleBook)
      (hchanged : ((RuleBook.store.answer call).on rules).2 = changed) :
      Called directory call rules left
        (settled rules changed ((replace (files fates) directory changed).run ⟨left, steps⟩))
        (settled rules changed ((replace (files fates) directory changed).run ⟨right, steps⟩)) := by
    have hreplaced := replaced_replace fates steps changed hsame
    revert hreplaced
    generalize (replace (files fates) directory changed).run ⟨left, steps⟩ = onLeft
    generalize (replace (files fates) directory changed).run ⟨right, steps⟩ = onRight
    subst hchanged
    intro hreplaced
    cases hreplaced with
    | cut same snapshot => exact .cut same snapshot
    | failed steps same snapshot => exact .kept _ steps same snapshot
    | lasting steps same snapshot => exact .changed steps same snapshot
  cases call with
  | create rule =>
    have hmemory := congrArg Prod.snd (RuleBook.on_create rule rules)
    rw [call_create, call_create]
    rcases RuleBook.create_cases rule rules with ⟨hfree, hcreate⟩ | ⟨_, hcreate⟩
    · rw [hcreate] at hmemory ⊢
      dsimp only
      rw [OrderedMap.erase_insert_of_get?_eq_none hfree]
      exact hsettled _ hmemory
    · rw [hcreate]
      exact .kept _ steps hsame rfl
  | load name =>
    have hrules : (RuleBook.load name rules).2 = rules := by
      rw [RuleBook.load]
      split <;> rfl
    rw [call_load, call_load, hrules]
    exact .kept _ steps hsame rfl
  | destroy name =>
    have hmemory := congrArg Prod.snd (RuleBook.on_destroy name rules)
    rw [call_destroy, call_destroy]
    cases hrule : rules.get? name with
    | none => exact .kept _ steps hsame rfl
    | some removed =>
      rw [RuleBook.destroy_of_some hrule] at hmemory
      dsimp only
      rw [OrderedMap.insert_erase_of_get?_eq_some hrule]
      exact hsettled _ hmemory

/-! ## Runs -/

/-- How a life of a store ends. -/
inductive Ending where
  /-- All calls were made. -/
  | running (rules : RuleBook) (machine : Machine)
  /-- The power went in the course of a call, made with the given rules in memory. -/
  | cutOff (call : RuleCall) (before : RuleBook) (folder : Folder)

namespace Ending

def folder : Ending → Folder
  | running _ machine => machine.folder
  | cutOff _ _ folder => folder

/-- The rules that may be found when the store is opened again: those of the store, or those from
before and after the call that was cut off. -/
def candidates : Ending → List RuleBook
  | running rules _ => [rules]
  | cutOff call before _ => [before, ((RuleBook.store.answer call).on before).2]

end Ending

/-- Makes calls, the first one first, until the power goes; the answers and the ending. -/
def Machine.life (fates : Nat → Fate) (directory : String) :
    List RuleCall → RuleBook → Machine → List (Except Failure RuleAnswer) × Ending
  | [], rules, machine => ([], .running rules machine)
  | call :: calls, rules, machine =>
    match machine.call fates directory call rules with
    | .error folder => ([], .cutOff call rules folder)
    | .ok (outcome, rules, machine) =>
      let (outcomes, ending) := life fates directory calls rules machine
      (outcome :: outcomes, ending)

/-- A call brings in no rule that is not `Sound`. -/
def RuleCall.Brings (Sound : WatchRule → Prop) : RuleCall → Prop
  | .create rule => Sound rule
  | _ => True

/-- A store has just been opened on a directory, for the first time or after earlier lives.  Between
lives a new snapshot that was left behind may become anything. -/
inductive Opened (Sound : WatchRule → Prop) (directory : String) : RuleBook → Folder → Prop
  | first {folder : Folder} (snapshot : folder.get? (path directory) = none) :
      Opened Sound directory .empty folder
  | again {rules recovered : RuleBook} {folder : Folder}
      (earlier : Opened Sound directory rules folder) (fates : Nat → Fate) {calls : List RuleCall}
      (brings : ∀ call ∈ calls, call.Brings Sound)
      (opening : openText
        ((Machine.life fates directory calls rules ⟨folder, 0⟩).2.folder.get? (path directory)) =
          .ok recovered) :
      Opened Sound directory recovered
        (Machine.life fates directory calls rules ⟨folder, 0⟩).2.folder
  | disturbed {rules : RuleBook} {folder other : Folder}
      (earlier : Opened Sound directory rules folder) (same : SameButNew directory folder other) :
      Opened Sound directory rules other

variable {Sound : WatchRule → Prop}

theorem RuleBook.All.on_answer (h : rules.All Sound) {call : RuleCall}
    (hbrings : call.Brings Sound) : ((RuleBook.store.answer call).on rules).2.All Sound := by
  rw [RuleBook.all_iff] at h ⊢
  refine RuleBook.forall_on_answer (fun _ rule ↦ Sound rule) h ?_
  rintro rule rfl
  exact hbrings

/-- The same ending, apart from a new snapshot that was left behind. -/
inductive Ending.Same (directory : String) : Ending → Ending → Prop
  | running (rules : RuleBook) {left right : Folder} (steps : Nat)
      (same : SameButNew directory left right) :
      Same directory (.running rules ⟨left, steps⟩) (.running rules ⟨right, steps⟩)
  | cutOff (call : RuleCall) (before : RuleBook) {left right : Folder}
      (same : SameButNew directory left right) :
      Same directory (.cutOff call before left) (.cutOff call before right)

theorem Ending.Same.folder {left right : Ending} (h : left.Same directory right) :
    SameButNew directory left.folder right.folder := by
  cases h with
  | running _ _ same => exact same
  | cutOff _ _ same => exact same

/-- The snapshot gives rules that are among the candidates of the ending. -/
def Ending.Recovers (Sound : WatchRule → Prop) (directory : String) (ending : Ending) : Prop :=
  ∃ recovered ∈ ending.candidates,
    openText (ending.folder.get? (path directory)) = .ok recovered ∧ recovered.All Sound

section Reading

variable (hread : ∀ rules : RuleBook, rules.All Sound → ofText? (toText rules) = some rules)
include hread

theorem openText_of_all (h : rules.All Sound) : openText (some (toText rules)) = .ok rules := by
  rw [openText, hread rules h]

variable (fates) in
/-- As long as the power is on, the snapshot gives the rules in memory. -/
theorem life_recovers {calls : List RuleCall} (hbrings : ∀ call ∈ calls, call.Brings Sound)
    (hrules : rules.All Sound) {left right : Folder} (hsame : SameButNew directory left right)
    (hopen : openText (left.get? (path directory)) = .ok rules) (steps : Nat) :
    let onLeft := Machine.life fates directory calls rules ⟨left, steps⟩
    let onRight := Machine.life fates directory calls rules ⟨right, steps⟩
    onRight.1 = onLeft.1 ∧ onLeft.2.Same directory onRight.2 ∧
      onLeft.2.Recovers Sound directory := by
  induction calls generalizing rules left right steps with
  | nil =>
    refine ⟨rfl, .running rules steps hsame, rules, ?_, hopen, hrules⟩
    exact List.mem_singleton_self rules
  | cons call calls ih =>
    obtain ⟨hcall, hbrings⟩ := List.forall_mem_cons.1 hbrings
    have hafter : ((RuleBook.store.answer call).on rules).2.All Sound := hrules.on_answer hcall
    have hcalled := called fates call rules hsame steps
    unfold Machine.life
    revert hcalled
    generalize Machine.call fates directory call rules ⟨left, steps⟩ = onLeft
    generalize Machine.call fates directory call rules ⟨right, steps⟩ = onRight
    intro hcalled
    cases hcalled with
    | cut same snapshot =>
      refine ⟨rfl, .cutOff call rules same, ?_⟩
      rcases snapshot with hbefore | hreplaced
      · exact ⟨rules, List.mem_cons_self, (congrArg openText hbefore).trans hopen, hrules⟩
      · refine ⟨_, List.mem_cons_of_mem _ (List.mem_singleton_self _), ?_, hafter⟩
        exact (congrArg openText hreplaced).trans (openText_of_all hread hafter)
    | kept outcome steps same snapshot =>
      obtain ⟨houtcomes, hending, hrecovers⟩ :=
        ih hbrings hrules same ((congrArg openText snapshot).trans hopen) steps
      exact ⟨congrArg (outcome :: ·) houtcomes, hending, hrecovers⟩
    | changed steps same snapshot =>
      obtain ⟨houtcomes, hending, hrecovers⟩ := ih hbrings hafter same
        ((congrArg openText snapshot).trans (openText_of_all hread hafter)) steps
      exact ⟨congrArg (.ok .done :: ·) houtcomes, hending, hrecovers⟩

theorem Opened.openText_eq {folder : Folder} (h : Opened Sound directory rules folder) :
    openText (folder.get? (path directory)) = .ok rules ∧ rules.All Sound := by
  induction h with
  | first snapshot =>
    exact ⟨congrArg openText snapshot, List.forall_mem_nil _⟩
  | again earlier fates brings opening ih =>
    refine ⟨opening, ?_⟩
    obtain ⟨-, -, recovered, -, hrecovered, hsound⟩ :=
      life_recovers fates hread brings ih.2 (RuleKeeping.SameFiles.refl _ _) ih.1 0
    rw [opening] at hrecovered
    cases hrecovered
    exact hsound
  | disturbed earlier same ih => exact ⟨(congrArg openText same.get?_path).symm.trans ih.1, ih.2⟩

end Reading

/-- However a life of a store ends, the directory can be opened again, and the rules that are then
found are the ones that the store had or, where the power went in the course of a call, the ones
from before that call or the ones from after it; none without a snapshot.  This goes on for as many
lives as there are.  A new snapshot that was left behind, whatever it holds, changes neither the
answers of the calls nor the rules that are found. -/
theorem Opened.reopens
    (hread : ∀ rules : RuleBook, rules.All Sound → ofText? (toText rules) = some rules)
    {folder : Folder} (h : Opened Sound directory rules folder) {calls : List RuleCall}
    (hbrings : ∀ call ∈ calls, call.Brings Sound) (fates : Nat → Fate) :
    let life := Machine.life fates directory calls rules ⟨folder, 0⟩
    ∃ recovered ∈ life.2.candidates,
      (∀ opening, (openAt (Folder.files opening) directory).on life.2.folder =
        (.ok recovered, life.2.folder)) ∧
      (life.2.folder.get? (path directory) = none → recovered = .empty) ∧
      Opened Sound directory recovered life.2.folder ∧
      ∀ other, SameButNew directory folder other →
        let twin := Machine.life fates directory calls rules ⟨other, 0⟩
        twin.1 = life.1 ∧ life.2.Same directory twin.2 ∧
        ∀ opening, (openAt (Folder.files opening) directory).on twin.2.folder =
          (.ok recovered, twin.2.folder) := by
  intro life
  obtain ⟨hopen, hrules⟩ := h.openText_eq hread
  obtain ⟨-, -, recovered, hmem, hrecovered, -⟩ :=
    life_recovers fates hread hbrings hrules (RuleKeeping.SameFiles.refl _ _) hopen 0
  refine ⟨recovered, hmem, fun opening ↦ ?_, fun hnone ↦ ?_, .again h fates hbrings hrecovered,
    fun other hother ↦ ?_⟩
  · rw [on_openAt, hrecovered]
  · rw [hnone] at hrecovered
    cases hrecovered
    rfl
  · obtain ⟨houtcomes, hending, -⟩ :=
      life_recovers fates hread hbrings hrules hother hopen 0
    refine ⟨houtcomes, hending, fun opening ↦ ?_⟩
    rw [on_openAt, ← hending.folder.get?_path, hrecovered]

/-- In a first life the power goes while the snapshot is written, and part of it is left behind.  In
a second life the same rule is created, and the power goes with the renaming. -/
theorem Opened.reopens_of_torn_write :
    let rule : WatchRule := .made "own" (.object []) "stack" .delegated ⟨0, 0⟩
    let torn (_ : Nat) : Fate := ⟨⟨false, some "torn", true, true⟩, true⟩
    let renamed (n : Nat) : Fate := ⟨⟨true, none, true, true⟩, n == 1⟩
    let Sound (rule : WatchRule) := rule.IsExact ∧ rule.rule.depth ≤ bodyDepth
    let first := Machine.life torn "rules" [.create rule] .empty ⟨.empty, 0⟩
    let second := Machine.life renamed "rules" [.create rule] .empty ⟨first.2.folder, 0⟩
    (∀ rules : RuleBook, rules.All Sound → ofText? (toText rules) = some rules) ∧
    Opened Sound "rules" .empty first.2.folder ∧
    first.2.folder.get? (newPath "rules") = some "torn" ∧
    (∀ call ∈ [RuleCall.create rule], call.Brings Sound) ∧
    ∃ recovered ∈ second.2.candidates,
      ∀ opening, (openAt (Folder.files opening) "rules").on second.2.folder =
        (.ok recovered, second.2.folder) := by
  intro rule torn renamed Sound first second
  have hread (rules : RuleBook) (h : rules.All Sound) : ofText? (toText rules) = some rules :=
    ofText?_toText_of_readable h
  have hbrings : ∀ call ∈ [RuleCall.create rule], call.Brings Sound := by
    rw [List.forall_mem_singleton]
    exact ⟨by decide +kernel, by decide +kernel⟩
  have hopened : Opened Sound "rules" .empty first.2.folder :=
    .again (.first rfl) torn hbrings rfl
  obtain ⟨recovered, hmem, hopen, -⟩ := Opened.reopens hread hopened hbrings renamed
  exact ⟨hread, hopened, rfl, hbrings, recovered, hmem, hopen⟩

end MeteringAlarms
