import MeteringAlarms.Proofs.Adapter.Creation
import MeteringAlarms.Proofs.Rule.Sessions
import MeteringAlarms.Proofs.Rule.Text

/-!
# Opening a store again

The store on a directory writes a snapshot at every change, whatever the rules hold, and reads it
when it is opened.  Reading has a bound on nesting that writing does not have, so not every rule
that was accepted can be read: a store is opened again with the rules that it had exactly when no
body among them is nested deeper than `Snapshot.bodyDepth`.
-/

namespace MeteringAlarms

namespace Session

variable (directory : String) (start : RuleBook) (folder : Folder)

/-- The snapshot is that of the rules, or neither has changed. -/
def IsKept (session : Session) : Prop :=
  session.folder.get? (Snapshot.path directory) = some (Snapshot.toText session.rules) ∨
    session.folder.get? (Snapshot.path directory) = folder.get? (Snapshot.path directory) ∧
      session.rules = start

variable {directory start folder}

theorem IsKept.after {session : Session} (h : IsKept directory start folder session)
    (call : RuleCall) (verdict : Verdict) :
    IsKept directory start folder (session.after directory call verdict) := by
  have heffect := Snapshot.effect directory call verdict session.rules session.folder
  unfold Session.after
  revert heffect
  generalize ((Snapshot.storeOver (Folder.files verdict) directory).answer call).on
    (session.rules, session.folder) = step
  intro heffect
  cases heffect with
  | answered _ _ _ => exact h
  | changed _ _ snapshot _ => exact Or.inl snapshot
  | undone _ _ snapshot _ =>
    rcases h with hkept | ⟨hsame, hrules⟩
    · exact Or.inl (snapshot.trans hkept)
    · exact Or.inr ⟨snapshot.trans hsame, hrules⟩

variable (directory start folder) in
theorem isKept_run (calls : List (RuleCall × Verdict)) :
    IsKept directory start folder (run directory ⟨[], start, folder⟩ calls) := by
  induction calls with
  | nil => exact Or.inr ⟨rfl, rfl⟩
  | cons call earlier ih => exact ih.after call.1 call.2

end Session

namespace Snapshot

theorem openText_toText {rules : RuleBook} (hexact : rules.All WatchRule.IsExact) :
    openText (some (toText rules)) =
      if allShallow rules then .ok rules
      else .error (.document "not a snapshot of watch rules") := by
  rw [openText, ofText?_toText hexact]
  cases allShallow rules <;> rfl

theorem allShallow_of_openText {text? : Option String} {rules : RuleBook}
    (h : openText text? = .ok rules) : allShallow rules = true := by
  unfold openText at h
  split at h
  · cases h
    rfl
  · split at h
    · cases h
      exact allShallow_of_ofText? ‹_›
    · cases h

end Snapshot

namespace Session

/-- After any calls to a store, whatever steps on files fail, the directory can be opened again just
when no rule has a body that is nested too deep, and then the rules are those that the store had, so
that each name is answered alike. -/
theorem reopen_eq {directory : String} {start : RuleBook} {folder : Folder} {opening : Verdict}
    (hopen : (Snapshot.openAt (Folder.files opening) directory).on folder = (.ok start, folder))
    {calls : List (RuleCall × Verdict)}
    (hexact : (run directory ⟨[], start, folder⟩ calls).rules.All WatchRule.IsExact)
    (reopening : Verdict) :
    let session := run directory ⟨[], start, folder⟩ calls
    (Snapshot.openAt (Folder.files reopening) directory).on session.folder =
      (if Snapshot.allShallow session.rules then .ok session.rules
        else .error (.document "not a snapshot of watch rules"), session.folder) := by
  intro session
  rw [Snapshot.on_openAt] at hopen ⊢
  have hstart : Snapshot.openText (folder.get? (Snapshot.path directory)) = .ok start :=
    congrArg Prod.fst hopen
  rcases isKept_run directory start folder calls with hkept | ⟨hsame, hrules⟩
  · rw [hkept, Snapshot.openText_toText hexact]
  · have hshallow : Snapshot.allShallow session.rules = true := by
      rw [hrules]
      exact Snapshot.allShallow_of_openText hstart
    rw [hsame, hstart, if_pos hshallow, hrules]

/-- Two rules are created where there was no snapshot, and the first is removed. -/
theorem reopen_eq_of_removed_rule :
    let rule (name : String) : WatchRule := .made name (.object []) "stack" .delegated ⟨0, 0⟩
    let sound : Verdict := ⟨true, none, true, true⟩
    let calls : List (RuleCall × Verdict) :=
      [(.destroy "own", sound), (.create (rule "other"), sound), (.create (rule "own"), sound)]
    let session := run "rules" ⟨[], .empty, .empty⟩ calls
    (Snapshot.openAt (Folder.files sound) "rules").on .empty = (.ok .empty, .empty) ∧
    session.rules.All WatchRule.IsExact ∧
    (Snapshot.openAt (Folder.files sound) "rules").on session.folder =
      (.ok (.ofList [("other", rule "other")]), session.folder) := by
  intro rule sound calls session
  have hopen : (Snapshot.openAt (Folder.files sound) "rules").on .empty = (.ok .empty, .empty) :=
    rfl
  have hrules : session.rules = .ofList [("other", rule "other")] := by decide +kernel
  have hexact : session.rules.All WatchRule.IsExact := by decide +kernel
  have hshallow : Snapshot.allShallow session.rules = true := by decide +kernel
  refine ⟨hopen, hexact, ?_⟩
  rw [reopen_eq hopen hexact sound, if_pos hshallow, hrules]

end Session

namespace ThresholdAlarm

variable (newId : Nat → String) (context : Context) (now : Timestamp) (handle : Handle)
  (directory : String) (memory : AlarmMemory) {rules : RuleBook} (folder : Folder)

/-- The creation of an alarm succeeds whatever its properties hold, and the rule that it registers
may keep the store from being opened again. -/
theorem reopen_after_create (verdict : Verdict) (hup : memory.unavailable = false)
    (hfree : rules.get? context.physicalName = none)
    (hlasts : (verdict.written && verdict.renamed) = true)
    (hexact : RuleBook.All WatchRule.IsExact
      (rules.insert context.physicalName (watchRule context now)))
    (reopening : Verdict) :
    let after := (create (.overMemory newId ((RuleKeeping.snapshot directory).store verdict))
      context now).on handle (memory, rules, folder)
    let stored := rules.insert context.physicalName (watchRule context now)
    after.1 = .ok () ∧
      (Snapshot.openAt (Folder.files reopening) directory).on after.2.2.2.2 =
        (if Snapshot.allShallow stored then .ok stored
          else .error (.document "not a snapshot of watch rules"), after.2.2.2.2) := by
  intro after stored
  rcases creation_cases newId (.snapshot directory) verdict context now handle memory rules folder
    with ⟨hdown, -⟩ | ⟨-, htaken, -⟩ | ⟨-, -, hfails, -⟩ | ⟨-, -, -, hstep⟩
  · rw [hup] at hdown
    cases hdown
  · rw [hfree] at htaken
    cases htaken
  · rw [RuleKeeping.lasts, hlasts] at hfails
    cases hfails
  · have hafter : after = _ := hstep
    rw [hafter]
    refine ⟨rfl, ?_⟩
    rw [Snapshot.on_openAt]
    dsimp only
    rw [RuleKeeping.keep, OrderedMap.get?_insert, if_pos rfl, Snapshot.openText_toText hexact]

end ThresholdAlarm

theorem Definition.ofText?_indented {value : Json} (hexact : value.NumbersExact) :
    Definition.ofText? value.indented =
      Definition.ofDocument? Document.maxDepth (.ofJson value) := by
  rw [Definition.ofText?, Document.ofText?_indented hexact]
  rfl

/-- Arrays inside one another. -/
def Json.tower : Nat → Json
  | 0 => .null
  | height + 1 => .array [tower height]

/-- A definition file is read with metadata nested `124` deep, the resource is valid and its
creation succeeds, but the snapshot holds the metadata one level deeper than the file and is not
read. -/
theorem ThresholdAlarm.reopen_fails_of_deep_metadata :
    let properties : List (String × Json) :=
      [("meter_name", .string "cpu"), ("threshold", .number (.int 1)),
        ("matching_metadata", .ofEntries [("k", .tower 124)])]
    let text := Json.indented <| .ofEntries
      [("type", .string "OS::Ceilometer::Alarm"), ("name", .string "deep"),
        ("physical_name", .string "deep"), ("properties", .ofEntries properties)]
    let context : Context :=
      ⟨"OS::Ceilometer::Alarm", "deep", "stack", .ofList properties, .empty⟩
    let newId (n : Nat) := String.ofList (List.replicate n 'a')
    let sound : Verdict := ⟨true, none, true, true⟩
    let after :=
      (create (.overMemory newId ((RuleKeeping.snapshot "rules").store sound)) context ⟨0, 0⟩).on
        {} ({}, .empty, .empty)
    (Definition.ofText? text).map (Context.ofDefinition · "x" "stack") = some context ∧
    context.validate = .ok () ∧ after.1 = .ok () ∧
    (Snapshot.openAt (Folder.files sound) "rules").on after.2.2.2.2 =
      (.error (.document "not a snapshot of watch rules"), after.2.2.2.2) := by
  intro properties text context newId sound after
  let value : Json := .ofEntries
    [("type", .string "OS::Ceilometer::Alarm"), ("name", .string "deep"),
      ("physical_name", .string "deep"), ("properties", .ofEntries properties)]
  have hnumbers : value.NumbersExact := by decide +kernel
  have hread : (Definition.ofDocument? Document.maxDepth (.ofJson value)).map
      (Context.ofDefinition · "x" "stack") = some context := by
    decide +kernel
  have hstored : RuleBook.All WatchRule.IsExact
      (OrderedMap.empty.insert context.physicalName (watchRule context ⟨0, 0⟩)) := by
    decide +kernel
  have hdeep : Snapshot.allShallow
      (OrderedMap.empty.insert context.physicalName (watchRule context ⟨0, 0⟩)) = false := by
    decide +kernel
  obtain ⟨hcreated, hopen⟩ := reopen_after_create newId context ⟨0, 0⟩ {} "rules" {}
    .empty sound rfl rfl rfl hstored sound
  refine ⟨?_, by decide +kernel, hcreated, ?_⟩
  · rw [Definition.ofText?_indented hnumbers]
    exact hread
  · rw [hopen, hdeep, if_neg Bool.false_ne_true]

end MeteringAlarms
