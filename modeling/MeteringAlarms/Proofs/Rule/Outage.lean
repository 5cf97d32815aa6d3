import MeteringAlarms.Proofs.Rule.Keeping

/-!
# Files of a machine that may lose power

Steps on the files of a machine end as their `Fate` has it: each may fail, and with each the power
may go.  A computation that loses power ends with the files as they are then.  A write may come
apart and leave any part of its text, but a file is renamed in one step, so a snapshot is replaced
as a whole or not at all.  A new snapshot that an earlier run has left behind is written over.
-/

namespace MeteringAlarms

/-- How a step on files ends, and whether it is the last one before the power goes. -/
structure Fate where
  verdict : Verdict
  cut : Bool

structure Machine where
  folder : Folder
  /-- How many steps on files were taken. -/
  steps : Nat := 0

namespace Machine

/-- Computations on the files of a machine; one that loses power leaves a folder and no result. -/
abbrev Run := StateT Machine (Except Folder)

variable (fates : Nat → Fate)

/-- A step on files. -/
def step (act : Verdict → Folder → Bool × Folder) : Run Bool := fun machine ↦
  let fate := fates machine.steps
  let (done, folder) := act fate.verdict machine.folder
  if fate.cut then .error folder else .ok (done, ⟨folder, machine.steps + 1⟩)

/-- The files of a machine, in directories that are there. -/
def files : FileSystem Run where
  makeDirectory _ := pure true
  isPresent path := fun machine ↦ .ok (machine.folder.contains path, machine)
  read path := fun machine ↦
    .ok (match machine.folder.get? path with
      | some text => .ok text
      | none => .error .missing, machine)
  write path text := step fates fun verdict folder ↦ folder.write verdict path text
  rename old new := step fates fun verdict folder ↦ folder.rename verdict old new
  remove path := step fates fun verdict folder ↦ folder.remove verdict path

end Machine

namespace Snapshot

open Machine

/-- The same files, apart from a new snapshot that was left behind. -/
abbrev SameButNew (directory : String) (left right : Folder) : Prop :=
  (RuleKeeping.snapshot directory).SameFiles left right

variable {directory : String} {left right before twin : Folder} {fates : Nat → Fate} {steps : Nat}

theorem SameButNew.get?_path (h : SameButNew directory left right) :
    left.get? (path directory) = right.get? (path directory) :=
  h _ (newPath_ne_path directory).symm

theorem SameButNew.insert (h : SameButNew directory left right) (other text : String) :
    SameButNew directory (left.insert other text) (right.insert other text) := by
  intro file hfile
  rw [OrderedMap.get?_insert, OrderedMap.get?_insert, h file hfile]

theorem SameButNew.erase (h : SameButNew directory left right) (other : String) :
    SameButNew directory (left.erase other) (right.erase other) := by
  intro file hfile
  rw [OrderedMap.get?_erase, OrderedMap.get?_erase, h file hfile]

variable (directory) in
/-- What replacing a snapshot comes to on two machines whose files are the same but for a new
snapshot that was left behind; `before` are the files of the first. -/
inductive Replaced (text : String) (before : Folder) :
    Except Folder (Bool × Machine) → Except Folder (Bool × Machine) → Prop
  /-- The power goes before the snapshot is replaced or after it. -/
  | cut {left right : Folder} (same : SameButNew directory left right)
      (snapshot : left.get? (path directory) = before.get? (path directory) ∨
        left.get? (path directory) = some text) :
      Replaced text before (.error left) (.error right)
  | failed {left right : Folder} (steps : Nat) (same : SameButNew directory left right)
      (snapshot : left.get? (path directory) = before.get? (path directory)) :
      Replaced text before (.ok (false, ⟨left, steps⟩)) (.ok (false, ⟨right, steps⟩))
  | lasting {left right : Folder} (steps : Nat) (same : SameButNew directory left right)
      (snapshot : left.get? (path directory) = some text) :
      Replaced text before (.ok (true, ⟨left, steps⟩)) (.ok (true, ⟨right, steps⟩))

variable (fates steps) in
theorem run_step_bind {β : Type} (act : Verdict → Folder → Bool × Folder) (next : Bool → Run β)
    (folder : Folder) :
    (step fates act >>= next).run ⟨folder, steps⟩ =
      if (fates steps).cut then .error (act (fates steps).verdict folder).2
      else (next (act (fates steps).verdict folder).1).run
        ⟨(act (fates steps).verdict folder).2, steps + 1⟩ := by
  have hstep : (step fates act).run ⟨folder, steps⟩ =
      if (fates steps).cut then .error (act (fates steps).verdict folder).2
      else .ok ((act (fates steps).verdict folder).1,
        ⟨(act (fates steps).verdict folder).2, steps + 1⟩) := rfl
  rw [StateT.run_bind, hstep]
  split <;> rfl

/-- What is left to do when a snapshot could not be replaced. -/
def cleanUp (fates : Nat → Fate) (directory : String) : Run Bool := do
  let _ ← (files fates).remove (newPath directory)
  pure false

/-- The steps of replacing a snapshot. -/
theorem replace_eq (rules : RuleBook) :
    replace (files fates) directory rules = (do
      let written ← (files fates).write (newPath directory) (toText rules)
      if written then
        let renamed ← (files fates).rename (newPath directory) (path directory)
        if renamed then pure true else cleanUp fates directory
      else cleanUp fates directory) := by
  have hlast : (fun renamed ↦ do
      if !renamed then discard <| (files fates).remove (newPath directory)
      pure renamed : Bool → Run Bool) =
      fun renamed ↦ if renamed then pure true else cleanUp fates directory := by
    funext renamed
    cases renamed with
    | true => rfl
    | false => exact bind_map_left _ _ _
  unfold replace
  refine bind_congr fun written ↦ ?_
  cases written with
  | true => exact congrArg ((files fates).rename (newPath directory) (path directory) >>= ·) hlast
  | false => exact (pure_bind _ _).trans (congrFun hlast false)

/-- Cleaning up touches no file but a new snapshot, and may be cut off, too. -/
theorem replaced_cleanUp (text : String) (hsame : SameButNew directory left right)
    (hsnapshot : left.get? (path directory) = before.get? (path directory)) :
    Replaced directory text before ((cleanUp fates directory).run ⟨left, steps⟩)
      ((cleanUp fates directory).run ⟨right, steps⟩) := by
  have hremoved : SameButNew directory
      (left.remove (fates steps).verdict (newPath directory)).2
      (right.remove (fates steps).verdict (newPath directory)).2 := by
    intro other hother
    rw [get?_remove, get?_remove, if_neg fun h ↦ hother h.2, if_neg fun h ↦ hother h.2]
    exact hsame other hother
  have hkept : (left.remove (fates steps).verdict (newPath directory)).2.get? (path directory) =
      before.get? (path directory) := by
    rw [get?_remove, if_neg fun h ↦ newPath_ne_path directory h.2.symm, hsnapshot]
  have hrun (folder : Folder) : (cleanUp fates directory).run ⟨folder, steps⟩ =
      if (fates steps).cut then
        .error (folder.remove (fates steps).verdict (newPath directory)).2
      else .ok (false, ⟨(folder.remove (fates steps).verdict (newPath directory)).2, steps + 1⟩) :=
    run_step_bind fates steps (fun verdict folder ↦ folder.remove verdict (newPath directory)) _
      folder
  rw [hrun, hrun]
  split
  · exact .cut hremoved (.inl hkept)
  · exact .failed _ hremoved hkept

theorem replaced_rename (text : String) (hsame : SameButNew directory left right)
    (hleft : left.get? (newPath directory) = some text)
    (hright : right.get? (newPath directory) = some text)
    (hsnapshot : left.get? (path directory) = before.get? (path directory)) :
    let rename : Run Bool := do
      let renamed ← (files fates).rename (newPath directory) (path directory)
      if renamed then pure true else cleanUp fates directory
    Replaced directory text before (rename.run ⟨left, steps⟩) (rename.run ⟨right, steps⟩) := by
  intro rename
  have hrun (folder : Folder) (hnew : folder.get? (newPath directory) = some text) :
      rename.run ⟨folder, steps⟩ =
        let renamed := (folder.erase (newPath directory)).insert (path directory) text
        if (fates steps).verdict.renamed then
          if (fates steps).cut then .error renamed else .ok (true, ⟨renamed, steps + 1⟩)
        else if (fates steps).cut then .error folder
        else (cleanUp fates directory).run ⟨folder, steps + 1⟩ := by
    have hstep := run_step_bind fates steps
      (fun verdict folder ↦ folder.rename verdict (newPath directory) (path directory))
      (fun renamed ↦ if renamed then pure true else cleanUp fates directory) folder
    refine hstep.trans ?_
    rw [Folder.rename, hnew]
    dsimp only
    cases (fates steps).verdict.renamed <;> rfl
  rw [hrun left hleft, hrun right hright]
  dsimp only
  split
  · have hrenamed := (hsame.erase (newPath directory)).insert (path directory) text
    have hreplaced : ((left.erase (newPath directory)).insert (path directory) text).get?
        (path directory) = some text := by
      rw [OrderedMap.get?_insert, if_pos rfl]
    split
    · exact .cut hrenamed (.inr hreplaced)
    · exact .lasting _ hrenamed hreplaced
  · split
    · exact .cut hsame (.inl hsnapshot)
    · exact replaced_cleanUp text hsame hsnapshot

variable (fates steps) in
/-- Replacing a snapshot goes alike whatever new snapshot was left behind. -/
theorem replaced_replace (rules : RuleBook) (hsame : SameButNew directory left right) :
    Replaced directory (toText rules) left
      ((replace (files fates) directory rules).run ⟨left, steps⟩)
      ((replace (files fates) directory rules).run ⟨right, steps⟩) := by
  let next (written : Bool) : Run Bool :=
    if written then do
      let renamed ← (files fates).rename (newPath directory) (path directory)
      if renamed then pure true else cleanUp fates directory
    else cleanUp fates directory
  have hrun (folder : Folder) : (replace (files fates) directory rules).run ⟨folder, steps⟩ =
      let after := folder.write (fates steps).verdict (newPath directory) (toText rules)
      if (fates steps).cut then .error after.2
      else (next after.1).run ⟨after.2, steps + 1⟩ := by
    rw [replace_eq]
    exact run_step_bind fates steps
      (fun verdict folder ↦ folder.write verdict (newPath directory) (toText rules)) next folder
  have hinsert (text : String) : SameButNew directory (left.insert (newPath directory) text)
      (right.insert (newPath directory) text) := hsame.insert (newPath directory) text
  have hkept (text : String) : (left.insert (newPath directory) text).get? (path directory) =
      left.get? (path directory) := by
    rw [OrderedMap.get?_insert, if_neg (newPath_ne_path directory).symm]
  rw [hrun left, hrun right]
  dsimp only
  rw [Folder.write, Folder.write]
  cases (fates steps).verdict.written with
  | true =>
    simp only [if_true]
    split
    · exact .cut (hinsert _) (.inl (hkept _))
    · exact replaced_rename _ (hinsert _) (by simp) (by simp) (hkept _)
  | false =>
    simp only [Bool.false_eq_true, if_false]
    cases (fates steps).verdict.leftover? with
    | none =>
      simp only [Option.map_none, Option.getD_none]
      split
      · exact .cut hsame (.inl rfl)
      · exact replaced_cleanUp _ hsame rfl
    | some text =>
      simp only [Option.map_some, Option.getD_some]
      split
      · exact .cut (hinsert _) (.inl (hkept _))
      · exact replaced_cleanUp _ (hinsert _) (hkept _)

end Snapshot

end MeteringAlarms
