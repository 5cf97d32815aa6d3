import MeteringAlarms.Proofs.Adapter.Callbacks
import MeteringAlarms.Proofs.Data.OrderedMap
import MeteringAlarms.Rule.Snapshot

/-!
# Files whose steps may fail

A folder holds the text of each file under its path.  Whether a step on it succeeds is up to a
`Verdict`, which may differ from one operation of a store to the next: nothing is assumed of a step
that fails but that a file that could not be renamed over stays as it was, as does a file that could
not be removed, and that a write that fails leaves at most its own file behind.
-/

namespace MeteringAlarms

/-- The text of each file, by path. -/
abbrev Folder := OrderedMap String

/-- How the steps on files end in the course of an operation. -/
structure Verdict where
  written : Bool
  /-- What a write that fails leaves of its text, if it gets as far as that. -/
  leftover? : Option String := none
  renamed : Bool
  removed : Bool
  deriving DecidableEq

namespace Folder

def write (verdict : Verdict) (path text : String) (folder : Folder) : Bool × Folder :=
  if verdict.written then (true, folder.insert path text)
  else (false, (verdict.leftover?.map (folder.insert path)).getD folder)

def rename (verdict : Verdict) (old new : String) (folder : Folder) : Bool × Folder :=
  match folder.get? old with
  | some text =>
    if verdict.renamed then (true, (folder.erase old).insert new text) else (false, folder)
  | none => (false, folder)

def remove (verdict : Verdict) (path : String) (folder : Folder) : Bool × Folder :=
  if verdict.removed then (folder.contains path, folder.erase path) else (false, folder)

/-- The folder as a file system, in a directory that is there. -/
def files (verdict : Verdict) : FileSystem (StateM Folder) where
  makeDirectory _ := pure true
  isPresent path := fun folder ↦ (folder.contains path, folder)
  read path := fun folder ↦
    (match folder.get? path with
      | some text => .ok text
      | none => .error .missing, folder)
  write path text := fun folder ↦ folder.write verdict path text
  rename old new := fun folder ↦ folder.rename verdict old new
  remove path := fun folder ↦ folder.remove verdict path

end Folder

theorem FileSystem.join_injective (directory : String) :
    Function.Injective (FileSystem.join directory) := by
  intro left right h
  unfold FileSystem.join at h
  split at h
  · exact h
  · split at h
    · exact (String.append_right_inj _).1 h
    · exact (String.append_right_inj _).1 h

namespace Snapshot

variable (directory : String) (verdict : Verdict) (rules : RuleBook) (folder : Folder)

/-- The path of the snapshot. -/
abbrev path : String := FileSystem.join directory fileName

/-- The path of a new snapshot that is not renamed yet. -/
abbrev newPath : String := FileSystem.join directory newFileName

theorem newPath_ne_path : newPath directory ≠ path directory := by
  intro h
  exact absurd (FileSystem.join_injective directory h) (by decide)

/-- The rules that a snapshot gives; without a snapshot there are none. -/
def openText (text? : Option String) : Except Failure RuleBook :=
  match text? with
  | none => .ok .empty
  | some text =>
    match ofText? text with
    | some rules => .ok rules
    | none => .error (.document "not a snapshot of watch rules")

/-- Opening looks at the snapshot and at nothing else, and changes no file. -/
theorem on_openAt :
    (openAt (Folder.files verdict) directory).on folder =
      (openText (folder.get? (path directory)), folder) := by
  have hmade : Attempt.on (liftM ((Folder.files verdict).makeDirectory directory)) folder =
      (.ok true, folder) := rfl
  have hpresent : Attempt.on (liftM ((Folder.files verdict).isPresent (path directory))) folder =
      (.ok (folder.get? (path directory)).isSome, folder) := by
    rw [← OrderedMap.contains_eq_isSome]
    rfl
  rw [openAt, Attempt.on_bind, hmade]
  dsimp only
  rw [if_neg (by decide), Attempt.on_bind, hpresent]
  cases htext : folder.get? (path directory) with
  | none => rfl
  | some text =>
    have hread : Attempt.on (liftM ((Folder.files verdict).read (path directory))) folder =
        (.ok (.ok text), folder) := by
      change (Except.ok (match folder.get? (path directory) with
        | some text => Except.ok text
        | none => Except.error ReadFault.missing), folder) = _
      rw [htext]
    change (liftM ((Folder.files verdict).read (path directory)) >>= _ : Attempt _ _).on folder = _
    rw [Attempt.on_bind, hread]
    dsimp only
    rw [openText]
    cases ofText? text <;> rfl

theorem openAt_of_get?_eq_none (h : folder.get? (path directory) = none) :
    (openAt (Folder.files verdict) directory).on folder = (.ok .empty, folder) := by
  rw [on_openAt, h]
  rfl

theorem run_replace :
    (replace (Folder.files verdict) directory rules).run folder =
      match folder.write verdict (newPath directory) (toText rules) with
      | (false, folder) => (false, (folder.remove verdict (newPath directory)).2)
      | (true, folder) =>
        match folder.rename verdict (newPath directory) (path directory) with
        | (false, folder) => (false, (folder.remove verdict (newPath directory)).2)
        | (true, folder) => (true, folder) := by
  have hwrite : ((Folder.files verdict).write (newPath directory) (toText rules)).run folder =
    folder.write verdict (newPath directory) (toText rules) := rfl
  rw [replace, StateT.run_bind, hwrite]
  rcases folder.write verdict (newPath directory) (toText rules) with ⟨_ | _, next⟩
  · rfl
  · have hrename : ((Folder.files verdict).rename (newPath directory) (path directory)).run next =
      next.rename verdict (newPath directory) (path directory) := rfl
    change (((Folder.files verdict).rename (newPath directory) (path directory)) >>= _).run next = _
    rw [StateT.run_bind, hrename]
    dsimp only
    rcases next.rename verdict (newPath directory) (path directory) with ⟨_ | _, last⟩ <;> rfl

/-- Cleaning up takes the new snapshot away if it can, and touches no other file. -/
theorem get?_remove (other : String) :
    ((folder.remove verdict (newPath directory)).2.get? other) =
      if verdict.removed ∧ other = newPath directory then none else folder.get? other := by
  unfold Folder.remove
  cases verdict.removed with
  | true => simp
  | false => simp

/-- A snapshot that can be written and renamed takes the place of the old one. -/
theorem replace_of_lasting (h : (verdict.written && verdict.renamed) = true) :
    (replace (Folder.files verdict) directory rules).run folder =
      (true, (folder.erase (newPath directory)).insert (path directory) (toText rules)) := by
  obtain ⟨hwritten, hrenamed⟩ := Bool.and_eq_true_iff.1 h
  have hnew : (folder.insert (newPath directory) (toText rules)).get? (newPath directory) =
      some (toText rules) := by
    rw [OrderedMap.get?_insert, if_pos rfl]
  have herase : (folder.insert (newPath directory) (toText rules)).erase (newPath directory) =
      folder.erase (newPath directory) := by
    apply OrderedMap.ext_get?
    intro other
    by_cases hother : other = newPath directory <;> simp [hother]
  rw [run_replace, Folder.write, if_pos hwritten]
  dsimp only
  rw [Folder.rename, hnew]
  dsimp only
  rw [if_pos hrenamed, herase]

/-- A snapshot that cannot be written or renamed touches no file but its own new one. -/
theorem replace_of_failing (h : (verdict.written && verdict.renamed) = false) :
    ∃ next, (replace (Folder.files verdict) directory rules).run folder = (false, next) ∧
      (∀ other, other ≠ newPath directory → next.get? other = folder.get? other) ∧
      (verdict.removed = true → next.get? (newPath directory) = none) := by
  -- Whatever the write has left, cleaning up comes last.
  have hcleaned (before : Folder)
      (hbefore : ∀ other, other ≠ newPath directory → before.get? other = folder.get? other) :
      (∀ other, other ≠ newPath directory →
        (before.remove verdict (newPath directory)).2.get? other = folder.get? other) ∧
      (verdict.removed = true →
        (before.remove verdict (newPath directory)).2.get? (newPath directory) = none) := by
    refine ⟨fun other hother ↦ ?_, fun hremoved ↦ ?_⟩
    · rw [get?_remove, if_neg fun h ↦ hother h.2, hbefore other hother]
    · rw [get?_remove, if_pos ⟨hremoved, rfl⟩]
  have hinsert (text : String) (other : String) (hother : other ≠ newPath directory) :
      (folder.insert (newPath directory) text).get? other = folder.get? other := by
    rw [OrderedMap.get?_insert, if_neg hother]
  rw [run_replace, Folder.write]
  cases hwritten : verdict.written with
  | false =>
    refine ⟨_, rfl, hcleaned _ fun other hother ↦ ?_⟩
    cases verdict.leftover? with
    | none => rfl
    | some text => exact hinsert text other hother
  | true =>
    have hrenamed : verdict.renamed = false := by simpa [hwritten] using h
    have hnew : (folder.insert (newPath directory) (toText rules)).get? (newPath directory) =
        some (toText rules) := by
      rw [OrderedMap.get?_insert, if_pos rfl]
    rw [if_pos rfl]
    dsimp only
    rw [Folder.rename, hnew]
    dsimp only
    rw [if_neg (by simp [hrenamed])]
    exact ⟨_, rfl, hcleaned _ (hinsert _)⟩

/-- What replacing the snapshot does to the files, and when it succeeds. -/
theorem replace_cases :
    ((verdict.written && verdict.renamed) = true ∧ ∃ next,
      (replace (Folder.files verdict) directory rules).run folder = (true, next) ∧
      next.get? (path directory) = some (toText rules) ∧ next.get? (newPath directory) = none) ∨
    ((verdict.written && verdict.renamed) = false ∧ ∃ next,
      (replace (Folder.files verdict) directory rules).run folder = (false, next) ∧
      next.get? (path directory) = folder.get? (path directory) ∧
      (verdict.removed = true → next.get? (newPath directory) = none)) := by
  have hne := newPath_ne_path directory
  cases h : verdict.written && verdict.renamed with
  | true =>
    refine Or.inl ⟨rfl, _, replace_of_lasting directory verdict rules folder h, ?_, ?_⟩
    · rw [OrderedMap.get?_insert, if_pos rfl]
    · rw [OrderedMap.get?_insert, if_neg hne, OrderedMap.get?_erase, if_pos rfl]
  | false =>
    obtain ⟨next, hrun, hsame, hclean⟩ := replace_of_failing directory verdict rules folder h
    exact Or.inr ⟨rfl, next, hrun, hsame _ hne.symm, hclean⟩

end Snapshot

end MeteringAlarms
