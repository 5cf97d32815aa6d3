import MeteringAlarms.Proofs.Rule.Calls

/-!
# The store in a file against the store in memory

A session is a sequence of calls to the store on a directory, each with a verdict on the steps that
it takes on files.  Leave out the calls that failed for want of storage, and the store in memory
gives the same answers and ends with the same rules; so a call that fails is one that never
happened.  The snapshot is that of the current rules throughout.
-/

namespace MeteringAlarms

/-- A call with the verdict on its steps and its outcome. -/
structure RuleCall.Entry where
  call : RuleCall
  verdict : Verdict
  outcome : Except Failure RuleAnswer

structure Session where
  /-- The calls so far, the latest first. -/
  log : List RuleCall.Entry := []
  rules : RuleBook
  folder : Folder

namespace Session

/-- The session after one more call. -/
def after (directory : String) (session : Session) (call : RuleCall) (verdict : Verdict) :
    Session :=
  let (outcome, rules, folder) :=
    ((Snapshot.storeOver (Folder.files verdict) directory).answer call).on
      (session.rules, session.folder)
  ⟨⟨call, verdict, outcome⟩ :: session.log, rules, folder⟩

/-- The session after some calls, the latest first. -/
def run (directory : String) (start : Session) : List (RuleCall × Verdict) → Session
  | [] => start
  | (call, verdict) :: earlier => (run directory start earlier).after directory call verdict

/-- The calls that did not fail for want of storage. -/
def lasting (log : List RuleCall.Entry) : List RuleCall.Entry :=
  log.filter fun entry ↦ !isStorageFailure entry.outcome

/-- The latest call that took steps on files could not clean up after itself. -/
def cleanupFailed : List RuleCall.Entry → Bool
  | [] => false
  | entry :: earlier =>
    if isDone entry.outcome then false
    else if isStorageFailure entry.outcome then !entry.verdict.removed
    else cleanupFailed earlier

/-- The rules are those of the store in memory without the calls that failed for want of storage,
and the files are those of the rules. -/
structure IsFaithful (directory : String) (session : Session) : Prop where
  memory : RuleBook.answers ((lasting session.log).map (·.call)) =
    ((lasting session.log).map (·.outcome), session.rules)
  keyed : session.rules.IsKeyed
  snapshot : session.folder.get? (Snapshot.path directory) =
    if session.log.any (isDone ·.outcome) then some (Snapshot.toText session.rules) else none
  clean : (session.folder.get? (Snapshot.newPath directory)).isSome →
    cleanupFailed session.log = true

variable {directory : String} {session : Session}

/-- A call that does not fail for want of storage is one to the store in memory. -/
theorem IsFaithful.answers_cons (h : IsFaithful directory session) {call : RuleCall}
    {verdict : Verdict} {outcome : Except Failure RuleAnswer} {rules : RuleBook}
    (hcall : (RuleBook.store.answer call).on session.rules = (outcome, rules))
    (houtcome : isStorageFailure outcome = false) :
    RuleBook.answers ((lasting (⟨call, verdict, outcome⟩ :: session.log)).map (·.call)) =
      ((lasting (⟨call, verdict, outcome⟩ :: session.log)).map (·.outcome), rules) := by
  have hlasting : lasting (⟨call, verdict, outcome⟩ :: session.log) =
      ⟨call, verdict, outcome⟩ :: lasting session.log :=
    List.filter_cons_of_pos (by rw [houtcome, Bool.not_false])
  rw [hlasting, List.map_cons, RuleBook.answers, h.memory]
  dsimp only
  rw [hcall, List.map_cons]

theorem IsFaithful.after (h : IsFaithful directory session) (call : RuleCall)
    (verdict : Verdict) : IsFaithful directory (session.after directory call verdict) := by
  have heffect := Snapshot.effect directory call verdict session.rules session.folder
  have hkeyed := h.keyed.on_answer call
  unfold Session.after
  revert heffect
  generalize ((Snapshot.storeOver (Folder.files verdict) directory).answer call).on
    (session.rules, session.folder) = step
  intro heffect
  cases heffect with
  | answered memory notDone notStorage =>
    refine ⟨h.answers_cons memory notStorage, h.keyed, ?_, ?_⟩
    · rw [h.snapshot, List.any_cons, notDone, Bool.false_or]
    · intro hleft
      rw [cleanupFailed, notDone, notStorage]
      exact h.clean hleft
  | changed memory lasts snapshot clean =>
    refine ⟨h.answers_cons memory rfl, ?_, snapshot, ?_⟩
    · rw [memory] at hkeyed
      exact hkeyed
    · intro hleft
      rw [clean] at hleft
      cases hleft
  | undone memory failing snapshot clean =>
    refine ⟨h.memory, h.keyed, snapshot.trans h.snapshot, ?_⟩
    intro hleft
    change (!verdict.removed) = true
    cases hremoved : verdict.removed with
    | false => rfl
    | true =>
      rw [clean hremoved] at hleft
      cases hleft

theorem IsFaithful.run (h : IsFaithful directory session) (calls : List (RuleCall × Verdict)) :
    IsFaithful directory (session.run directory calls) := by
  induction calls with
  | nil => exact h
  | cons call earlier ih => exact ih.after call.1 call.2

/-- Opened where there is no snapshot, the store on a directory is the store in memory without the
calls that failed for want of storage, whatever steps on files fail: it gives the same answers, has
the same rules and keeps each under its own name, and the snapshot is that of the rules from the
first change on.  A new snapshot is left behind only when it could not be removed.  And a call fails
for want of storage when the store in memory would make a change but the snapshot cannot be
written or renamed, and only then. -/
theorem agrees_with_memory (directory : String) {folder : Folder}
    (hsnapshot : folder.get? (Snapshot.path directory) = none)
    (hnew : folder.get? (Snapshot.newPath directory) = none) (opening : Verdict)
    (calls : List (RuleCall × Verdict)) :
    ∃ rules, (Snapshot.openAt (Folder.files opening) directory).on folder = (.ok rules, folder) ∧
      let session := run directory ⟨[], rules, folder⟩ calls
      let memory := RuleBook.answers ((lasting session.log).map (·.call))
      (lasting session.log).map (·.outcome) = memory.1 ∧
      (∀ name verdict,
        ((Snapshot.storeOver (Folder.files verdict) directory).load name).on
            (session.rules, session.folder) =
          ((RuleBook.load name memory.2).1, session.rules, session.folder)) ∧
      (∀ name rule, session.rules.get? name = some rule → rule.name = name) ∧
      session.folder.get? (Snapshot.path directory) =
        (if session.log.any (isDone ·.outcome) then some (Snapshot.toText session.rules)
          else none) ∧
      ((session.folder.get? (Snapshot.newPath directory)).isSome →
        cleanupFailed session.log = true) ∧
      ∀ call verdict,
        (((Snapshot.storeOver (Folder.files verdict) directory).answer call).on
            (session.rules, session.folder)).1 = .error Snapshot.storageFailure ↔
          ((RuleBook.store.answer call).on memory.2).1 = .ok .done ∧
            (verdict.written && verdict.renamed) = false := by
  refine ⟨.empty, Snapshot.openAt_of_get?_eq_none directory opening folder hsnapshot, ?_⟩
  intro session memory
  have hstart : IsFaithful directory ⟨[], .empty, folder⟩ := by
    refine ⟨rfl, ?_, hsnapshot, ?_⟩
    · intro name rule hrule
      cases hrule
    · intro hleft
      rw [hnew] at hleft
      cases hleft
  have h : IsFaithful directory session := hstart.run calls
  have hmemory : memory = ((lasting session.log).map (·.outcome), session.rules) := h.memory
  rw [hmemory]
  refine ⟨rfl, ?_, h.keyed, h.snapshot, h.clean, ?_⟩
  · intro name verdict
    rw [Snapshot.on_load, RuleBook.load]
    split <;> rfl
  · intro call verdict
    have heffect := Snapshot.effect directory call verdict session.rules session.folder
    revert heffect
    generalize ((Snapshot.storeOver (Folder.files verdict) directory).answer call).on
      (session.rules, session.folder) = step
    intro heffect
    cases heffect with
    | answered memory notDone notStorage =>
      rw [memory]
      constructor
      · rintro rfl
        cases notStorage
      · rintro ⟨rfl, _⟩
        cases notDone
    | changed memory lasts snapshot clean =>
      rw [memory, lasts]
      constructor
      · intro hstorage
        cases hstorage
      · rintro ⟨_, hfailed⟩
        cases hfailed
    | undone memory failing snapshot clean =>
      rw [memory]
      exact ⟨fun _ ↦ ⟨rfl, failing⟩, fun _ ↦ rfl⟩

/-- A rule that is created, a removal of it that fails, and one that succeeds. -/
theorem agrees_with_memory_of_failed_rename :
    let rule : WatchRule := .made "own" .null "stack" .delegated ⟨0, 0⟩
    let calls : List (RuleCall × Verdict) :=
      [(.destroy "own", ⟨true, none, true, true⟩), (.destroy "own", ⟨true, none, false, false⟩),
        (.create rule, ⟨true, none, true, true⟩)]
    (OrderedMap.empty : Folder).get? (Snapshot.path "rules") = none ∧
    (OrderedMap.empty : Folder).get? (Snapshot.newPath "rules") = none ∧
    ∃ rules,
      (Snapshot.openAt (Folder.files ⟨true, none, true, true⟩) "rules").on .empty =
        (.ok rules, .empty) ∧
      let session := run "rules" ⟨[], rules, .empty⟩ calls
      (lasting session.log).map (·.outcome) =
        (RuleBook.answers ((lasting session.log).map (·.call))).1 := by
  intro rule calls
  have hsnapshot : (OrderedMap.empty : Folder).get? (Snapshot.path "rules") = none := rfl
  have hnew : (OrderedMap.empty : Folder).get? (Snapshot.newPath "rules") = none := rfl
  obtain ⟨rules, hopen, hanswers, -⟩ :=
    agrees_with_memory "rules" hsnapshot hnew ⟨true, none, true, true⟩ calls
  exact ⟨hsnapshot, hnew, rules, hopen, hanswers⟩

end Session

end MeteringAlarms
