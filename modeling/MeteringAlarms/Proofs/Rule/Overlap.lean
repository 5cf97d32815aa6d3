import Mathlib.Logic.Function.Basic
import MeteringAlarms.Proofs.Rule.Calls
import MeteringAlarms.Proofs.Rule.Text

/-!
# Stores that share a directory

Nothing keeps two stores from being open on one directory.  Each has the rules in memory that it
read when it was opened, and with every change it replaces the whole snapshot.  So what is found on
disk are the rules of the store that made the latest change.

A rule is there for every store that is opened later, as long as changes are only made by the store
that created it and by stores that have been opened since.  A store that was opened before takes it
away with its next change, and it accepts the name of the rule once more.
-/

namespace MeteringAlarms

/-! ## Turns -/

inductive StoreAction where
  | opening
  | call (call : RuleCall)

/-- What one of several stores does next, with the verdict on the steps on files that it takes. -/
structure StoreTurn (ι : Type) where
  store : ι
  action : StoreAction
  verdict : Verdict

/-- A turn that was taken. -/
structure StoreTurn.Taken (ι : Type) extends StoreTurn ι where
  outcome : Except Failure RuleAnswer

namespace StoreTurn.Taken

variable {ι : Type}

/-- The store was opened. -/
def opens (taken : Taken ι) : Bool :=
  match taken.action with
  | .opening => isDone taken.outcome
  | .call _ => false

/-- The store made a change of its rules. -/
def changes (taken : Taken ι) : Bool :=
  match taken.action with
  | .opening => false
  | .call _ => isDone taken.outcome

/-- The store accepted a rule of the name. -/
def creates (name : String) (taken : Taken ι) : Bool :=
  match taken.action with
  | .call (.create rule) => rule.name = name && isDone taken.outcome
  | _ => false

/-- The store removed the rule of the name. -/
def destroys (name : String) (taken : Taken ι) : Bool :=
  match taken.action with
  | .call (.destroy other) => other = name && isDone taken.outcome
  | _ => false

/-- A store has the rule of the creator in memory: it is the creator, or it was opened since. -/
def IsCurrent (creator : ι) (since : List (Taken ι)) (store : ι) : Prop :=
  store = creator ∨ ∃ taken ∈ since, taken.store = store ∧ taken.opens = true

/-- All changes were made by stores that were current at the time; the latest turn is first. -/
inductive ByCurrent (creator : ι) : List (Taken ι) → Prop
  | start : ByCurrent creator []
  | next {taken : Taken ι} {earlier : List (Taken ι)}
      (current : taken.changes = true → IsCurrent creator earlier taken.store)
      (before : ByCurrent creator earlier) : ByCurrent creator (taken :: earlier)

end StoreTurn.Taken

/-- Stores on one directory: the rules that each has in memory, and the files. -/
structure SharedStores (ι : Type) where
  rules : ι → RuleBook
  folder : Folder

namespace SharedStores

open StoreTurn Taken

variable {ι : Type} [DecidableEq ι] (directory : String)

/-- The outcome of a turn and the stores after it; if a store does not open, it stays as it was. -/
def take (stores : SharedStores ι) (turn : StoreTurn ι) :
    Except Failure RuleAnswer × SharedStores ι :=
  match turn.action with
  | .opening =>
    match (Snapshot.openAt (Folder.files turn.verdict) directory).on stores.folder with
    | (.ok rules, folder) =>
      (.ok .done, ⟨Function.update stores.rules turn.store rules, folder⟩)
    | (.error failure, folder) => (.error failure, ⟨stores.rules, folder⟩)
  | .call call =>
    let (outcome, rules, folder) :=
      ((Snapshot.storeOver (Folder.files turn.verdict) directory).answer call).on
        (stores.rules turn.store, stores.folder)
    (outcome, ⟨Function.update stores.rules turn.store rules, folder⟩)

/-- The turns that were taken and the stores after them; both lists have the latest turn first. -/
def after (start : SharedStores ι) : List (StoreTurn ι) → List (Taken ι) × SharedStores ι
  | [] => ([], start)
  | turn :: earlier =>
    let (taken, stores) := after start earlier
    let (outcome, stores) := stores.take directory turn
    (⟨turn, outcome⟩ :: taken, stores)

theorem after_nil (start : SharedStores ι) :
    after directory start [] = ([], start) := rfl

theorem after_cons (start : SharedStores ι) (turn : StoreTurn ι) (earlier : List (StoreTurn ι)) :
    after directory start (turn :: earlier) =
      (⟨turn, ((after directory start earlier).2.take directory turn).1⟩ ::
          (after directory start earlier).1,
        ((after directory start earlier).2.take directory turn).2) := rfl

end SharedStores

/-! ## Rules that are there -/

/-- A rule is what another one has come to by being written and read, if it ever was. -/
structure WatchRule.IsReread (rule found : WatchRule) : Prop where
  name : found.name = rule.name
  stackId : found.stackId = rule.stackId
  state : found.state = rule.state
  eq_of_isExact : rule.IsExact → found = rule

theorem WatchRule.IsReread.reread {rule found again : WatchRule} (h : rule.IsReread found)
    (hread : found.reread? = some again) : rule.IsReread again := by
  obtain ⟨hname, hstackId, hstate⟩ := WatchRule.reread?_eq_some hread
  refine ⟨hname.trans h.name, hstackId.trans h.stackId, hstate.trans h.state, fun hexact ↦ ?_⟩
  rw [h.eq_of_isExact hexact, hexact.reread?] at hread
  split at hread
  · exact (Option.some.inj hread).symm
  · cases hread

/-- A snapshot with nothing in it that cannot be read gives the rules that it was written from. -/
theorem Snapshot.openAt_of_readable {directory : String} {rules : RuleBook} {folder : Folder}
    (hsnapshot : folder.get? (path directory) = some (toText rules))
    (hreadable : rules.All fun rule ↦ rule.IsExact ∧ rule.rule.depth ≤ bodyDepth)
    (opening : Verdict) :
    (openAt (Folder.files opening) directory).on folder = (.ok rules, folder) := by
  rw [on_openAt, hsnapshot, openText, ofText?_toText_of_readable hreadable]

namespace RuleBook

/-- The rule is there under its name, as it was or as it has been read since. -/
def Has (rules : RuleBook) (rule : WatchRule) : Prop :=
  ∃ found, rules.get? rule.name = some found ∧ rule.IsReread found

variable {rule : WatchRule} {rules opened after : RuleBook}

theorem has_insert (rule : WatchRule) (rules : RuleBook) :
    RuleBook.Has (rules.insert rule.name rule) rule :=
  ⟨rule, by rw [OrderedMap.get?_insert, if_pos rfl], rfl, rfl, rfl, fun _ ↦ rfl⟩

theorem Has.of_ofText? (h : rules.Has rule)
    (hopen : Snapshot.ofText? (Snapshot.toText rules) = some opened) : opened.Has rule := by
  obtain ⟨found, hfound, hrule⟩ := h
  have hread := Snapshot.map_reread?_get? hopen rule.name
  rw [hfound] at hread
  obtain ⟨again, hagain, hread⟩ := Option.map_eq_some_iff.1 hread.symm
  exact ⟨again, hagain, hrule.reread hread.symm⟩

/-- A change leaves a rule there unless it removes it, and it creates no other under its name. -/
theorem Has.of_change (h : rules.Has rule) {call : RuleCall}
    (hchange : (RuleBook.store.answer call).on rules = (.ok .done, after))
    (hkept : call ≠ .destroy rule.name) :
    after.Has rule ∧ ∀ other, call = .create other → other.name ≠ rule.name := by
  obtain ⟨found, hfound, hrule⟩ := h
  cases call with
  | create other =>
    rw [on_create] at hchange
    rcases create_cases other rules with ⟨hfree, hstep⟩ | ⟨_, hstep⟩
    · rw [hstep] at hchange
      cases hchange
      refine ⟨⟨found, OrderedMap.get?_insert_of_get?_eq_none hfree hfound other, hrule⟩, ?_⟩
      rintro _ ⟨⟩ hname
      rw [hname, hfound] at hfree
      cases hfree
    · rw [hstep] at hchange
      cases hchange
  | load name =>
    rw [on_load, RuleBook.load] at hchange
    split at hchange <;> cases hchange
  | destroy name =>
    rw [on_destroy] at hchange
    rcases destroy_cases name rules with ⟨_, hstep⟩ | ⟨_, hstep⟩
    · rw [hstep] at hchange
      cases hchange
    · rw [hstep] at hchange
      cases hchange
      have hne : rule.name ≠ name := fun heq ↦ hkept (congrArg RuleCall.destroy heq.symm)
      have hget : (rules.erase name).get? rule.name = some found := by
        rw [OrderedMap.get?_erase, if_neg hne, hfound]
      refine ⟨⟨found, hget, hrule⟩, fun other hcall ↦ ?_⟩
      cases hcall

end RuleBook

namespace SharedStores

open StoreTurn Taken

variable {ι : Type} {directory : String} {rule : WatchRule} {creator : ι}
  {since : List (Taken ι)} {stores : SharedStores ι}

/-- The snapshot and the stores that are current have the rule, and no store has accepted its name
since. -/
structure Keeps (directory : String) (rule : WatchRule) (creator : ι) (since : List (Taken ι))
    (stores : SharedStores ι) : Prop where
  snapshot : ∃ rules : RuleBook, rules.Has rule ∧
    stores.folder.get? (Snapshot.path directory) = some (Snapshot.toText rules)
  current : ∀ store, IsCurrent creator since store → (stores.rules store).Has rule
  refused : ∀ taken ∈ since, taken.creates rule.name = false

/-- Whoever opens the directory finds the rule. -/
theorem Keeps.openText (h : Keeps directory rule creator since stores) {opened : RuleBook}
    (hopen : Snapshot.openText (stores.folder.get? (Snapshot.path directory)) = .ok opened) :
    opened.Has rule := by
  obtain ⟨rules, hrules, hsnapshot⟩ := h.snapshot
  rw [hsnapshot, Snapshot.openText] at hopen
  split at hopen
  · rename_i hread
    cases hopen
    exact hrules.of_ofText? hread
  · cases hopen

theorem isCurrent_cons {taken : Taken ι} {store : ι}
    (h : IsCurrent creator (taken :: since) store) :
    IsCurrent creator since store ∨ taken.store = store ∧ taken.opens = true := by
  rcases h with rfl | ⟨other, hother, hopens⟩
  · exact Or.inl (Or.inl rfl)
  · rcases List.mem_cons.1 hother with rfl | hother
    · exact Or.inr hopens
    · exact Or.inl (Or.inr ⟨other, hother, hopens⟩)

theorem creates_of_not_done (name : String) {turn : StoreTurn ι}
    {outcome : Except Failure RuleAnswer} (h : isDone outcome = false) :
    creates name ⟨turn, outcome⟩ = false := by
  unfold creates
  split
  · rw [h, Bool.and_false]
  · rfl

variable [DecidableEq ι]

/-- What one turn has to see to: the snapshot, and the rules of the store whose turn it is. -/
theorem Keeps.cons (h : Keeps directory rule creator since stores) {taken : Taken ι}
    {rules : RuleBook} {folder : Folder}
    (hsnapshot : ∃ rules : RuleBook, rules.Has rule ∧
      folder.get? (Snapshot.path directory) = some (Snapshot.toText rules))
    (hrules : IsCurrent creator since taken.store ∨ taken.opens = true → rules.Has rule)
    (hrefused : taken.creates rule.name = false) :
    Keeps directory rule creator (taken :: since)
      ⟨Function.update stores.rules taken.store rules, folder⟩ := by
  refine ⟨hsnapshot, fun store hstore ↦ ?_, List.forall_mem_cons.2 ⟨hrefused, h.refused⟩⟩
  dsimp only
  by_cases hown : store = taken.store
  · rw [hown, Function.update_self]
    rw [hown] at hstore
    exact hrules ((isCurrent_cons hstore).imp_right And.right)
  · rw [Function.update_of_ne hown]
    rcases isCurrent_cons hstore with hearlier | ⟨heq, -⟩
    · exact h.current store hearlier
    · exact absurd heq.symm hown

theorem take_opening (store : ι) (verdict : Verdict) :
    stores.take directory ⟨store, .opening, verdict⟩ =
      match Snapshot.openText (stores.folder.get? (Snapshot.path directory)) with
      | .ok rules => (.ok .done, ⟨Function.update stores.rules store rules, stores.folder⟩)
      | .error failure => (.error failure, stores) := by
  rw [take]
  dsimp only
  rw [Snapshot.on_openAt]
  cases Snapshot.openText (stores.folder.get? (Snapshot.path directory)) <;> rfl

theorem Keeps.take (h : Keeps directory rule creator since stores) (turn : StoreTurn ι)
    (hcurrent : (changes ⟨turn, (stores.take directory turn).1⟩) = true →
      IsCurrent creator since turn.store)
    (hkept : destroys rule.name ⟨turn, (stores.take directory turn).1⟩ = false) :
    Keeps directory rule creator (⟨turn, (stores.take directory turn).1⟩ :: since)
      (stores.take directory turn).2 := by
  obtain ⟨store, action, verdict⟩ := turn
  -- A store that is left as it was has the rule if it is current.
  have hsame {folder : Folder} {taken : Taken ι} (htaken : taken.store = store)
      (hsnapshot : folder.get? (Snapshot.path directory) =
        stores.folder.get? (Snapshot.path directory))
      (hopens : taken.opens = false) (hrefused : taken.creates rule.name = false) :
      Keeps directory rule creator (taken :: since)
        ⟨Function.update stores.rules store (stores.rules store), folder⟩ := by
    subst htaken
    refine h.cons ?_ (fun hstore ↦ ?_) hrefused
    · rw [hsnapshot]
      exact h.snapshot
    · rw [hopens, or_iff_left Bool.false_ne_true] at hstore
      exact h.current _ hstore
  cases action with
  | opening =>
    rw [take_opening]
    cases hopen : Snapshot.openText (stores.folder.get? (Snapshot.path directory)) with
    | ok opened => exact h.cons h.snapshot (fun _ ↦ h.openText hopen) rfl
    | error failure =>
      have hkeeps : Keeps directory rule creator
          (⟨⟨store, .opening, verdict⟩, .error failure⟩ :: since)
          ⟨Function.update stores.rules store (stores.rules store), stores.folder⟩ :=
        hsame rfl rfl rfl rfl
      rw [Function.update_eq_self] at hkeeps
      exact hkeeps
  | call call =>
    have heffect := Snapshot.effect directory call verdict (stores.rules store) stores.folder
    rw [SharedStores.take] at hcurrent hkept ⊢
    dsimp only at hcurrent hkept ⊢
    revert heffect hcurrent hkept
    generalize ((Snapshot.storeOver (Folder.files verdict) directory).answer call).on
      (stores.rules store, stores.folder) = step
    intro hcurrent hkept heffect
    cases heffect with
    | answered memory notDone notStorage =>
      exact hsame rfl rfl rfl (creates_of_not_done _ notDone)
    | changed memory lasting snapshot clean =>
      have hcall : call ≠ .destroy rule.name := by
        rintro rfl
        simp [destroys, isDone] at hkept
      obtain ⟨hafter, hother⟩ := (h.current store (hcurrent rfl)).of_change memory hcall
      refine h.cons ⟨_, hafter, snapshot⟩ (fun _ ↦ hafter) ?_
      unfold creates
      split
      · rename_i other haction
        cases haction
        rw [decide_eq_false (hother other rfl), Bool.false_and]
      · rfl
    | undone memory failing snapshot clean =>
      exact hsame rfl snapshot rfl (creates_of_not_done _ rfl)

/-- A store that has created a rule has added it to the rules in memory and on disk. -/
theorem take_create_of_done {store : ι} {verdict : Verdict}
    (h : (stores.take directory ⟨store, .call (.create rule), verdict⟩).1 = .ok .done) :
    let rules := (stores.rules store).insert rule.name rule
    let created := (stores.take directory ⟨store, .call (.create rule), verdict⟩).2
    created.rules = Function.update stores.rules store rules ∧
      created.folder.get? (Snapshot.path directory) = some (Snapshot.toText rules) := by
  have heffect :=
    Snapshot.effect directory (.create rule) verdict (stores.rules store) stores.folder
  rw [take] at h ⊢
  dsimp only at h ⊢
  revert h heffect
  generalize ((Snapshot.storeOver (Folder.files verdict) directory).answer (.create rule)).on
    (stores.rules store, stores.folder) = step
  intro h heffect
  cases heffect with
  | answered memory notDone notStorage =>
    obtain rfl : _ = _ := h
    cases notDone
  | changed memory lasting snapshot clean =>
    rw [RuleBook.on_create] at memory
    rcases RuleBook.create_cases rule (stores.rules store) with ⟨_, hstep⟩ | ⟨_, hstep⟩
    · rw [hstep] at memory
      cases memory
      exact ⟨rfl, snapshot⟩
    · rw [hstep] at memory
      cases memory
  | undone memory failing snapshot clean => cases h

theorem keeps_of_create {creator : ι} {verdict : Verdict}
    (h : (stores.take directory ⟨creator, .call (.create rule), verdict⟩).1 = .ok .done) :
    Keeps directory rule creator []
      (stores.take directory ⟨creator, .call (.create rule), verdict⟩).2 := by
  obtain ⟨hrules, hsnapshot⟩ := take_create_of_done h
  refine ⟨⟨_, RuleBook.has_insert rule _, hsnapshot⟩, fun store hstore ↦ ?_,
    List.forall_mem_nil _⟩
  rcases hstore with rfl | ⟨taken, htaken, -⟩
  · rw [hrules, Function.update_self]
    exact RuleBook.has_insert rule _
  · cases htaken

theorem Keeps.after {created : SharedStores ι} (h : Keeps directory rule creator [] created)
    (turns : List (StoreTurn ι))
    (hcurrent : ByCurrent creator (SharedStores.after directory created turns).1)
    (hkept : ∀ taken ∈ (SharedStores.after directory created turns).1,
      taken.destroys rule.name = false) :
    Keeps directory rule creator (SharedStores.after directory created turns).1
      (SharedStores.after directory created turns).2 := by
  induction turns with
  | nil => exact h
  | cons turn earlier ih =>
    obtain ⟨hlast, hkept⟩ := List.forall_mem_cons.1 hkept
    cases hcurrent with
    | next current before => exact (ih before hkept).take turn current hlast

theorem take_opening_of_readable {rules : RuleBook}
    (hsnapshot : stores.folder.get? (Snapshot.path directory) = some (Snapshot.toText rules))
    (hreadable : rules.All fun rule ↦ rule.IsExact ∧ rule.rule.depth ≤ Snapshot.bodyDepth)
    (store : ι) (verdict : Verdict) :
    stores.take directory ⟨store, .opening, verdict⟩ =
      (.ok .done, ⟨Function.update stores.rules store rules, stores.folder⟩) := by
  rw [take_opening, hsnapshot, Snapshot.openText, Snapshot.ofText?_toText_of_readable hreadable]

/-- Once a rule was created, the snapshot has it, every store that is opened finds it there, and no
store accepts its name, as long as it is not removed and all changes are made by the store that
created it or by stores that have been opened since. -/
theorem created_rule_kept {created later : SharedStores ι} {verdict : Verdict}
    {turns : List (StoreTurn ι)}
    (hcreate : stores.take directory ⟨creator, .call (.create rule), verdict⟩ =
      (.ok .done, created))
    (hlater : SharedStores.after directory created turns = (since, later))
    (hcurrent : ByCurrent creator since)
    (hkept : ∀ taken ∈ since, taken.destroys rule.name = false) :
    (∃ rules : RuleBook, rules.Has rule ∧
      later.folder.get? (Snapshot.path directory) = some (Snapshot.toText rules) ∧
      ((rules.All fun rule ↦ rule.IsExact ∧ rule.rule.depth ≤ Snapshot.bodyDepth) →
        ∀ opening, (Snapshot.openAt (Folder.files opening) directory).on later.folder =
          (.ok rules, later.folder))) ∧
    (∀ opening opened,
      (Snapshot.openAt (Folder.files opening) directory).on later.folder =
          (.ok opened, later.folder) →
        opened.Has rule) ∧
    ∀ taken ∈ since, taken.creates rule.name = false := by
  have hcreated := keeps_of_create (congrArg Prod.fst hcreate)
  rw [hcreate] at hcreated
  have hkeeps : Keeps directory rule creator since later := by
    have hafter := hcreated.after turns
    rw [hlater] at hafter
    exact hafter hcurrent hkept
  obtain ⟨rules, hrules, hsnapshot⟩ := hkeeps.snapshot
  refine ⟨⟨rules, hrules, hsnapshot, Snapshot.openAt_of_readable hsnapshot⟩,
    fun opening opened hopen ↦ ?_, hkeeps.refused⟩
  rw [Snapshot.on_openAt] at hopen
  exact hkeeps.openText (congrArg Prod.fst hopen)

/-- The second store is opened once the first one has created a rule, and creates another. -/
theorem created_rule_kept_of_later_opening :
    let rule (name : String) : WatchRule := .made name (.object []) "stack" .delegated ⟨0, 0⟩
    let sound : Verdict := ⟨true, none, true, true⟩
    let turns : List (StoreTurn Bool) :=
      [⟨false, .call (.create (rule "other")), sound⟩, ⟨false, .opening, sound⟩]
    ∃ created later : SharedStores Bool,
      take "rules" ⟨fun _ ↦ .empty, .empty⟩ ⟨true, .call (.create (rule "own")), sound⟩ =
        (.ok .done, created) ∧
      SharedStores.after "rules" created turns =
        (turns.map fun turn ↦ ⟨turn, .ok .done⟩, later) ∧
      ByCurrent true (turns.map fun turn ↦ ⟨turn, .ok .done⟩) ∧
      (∀ taken ∈ turns.map fun turn ↦ (⟨turn, .ok .done⟩ : Taken Bool),
        taken.destroys "own" = false) ∧
      ∃ opened, (Snapshot.openAt (Folder.files sound) "rules").on later.folder =
          (.ok opened, later.folder) ∧
        opened.Has (rule "own") := by
  intro rule sound turns
  let created := (take "rules" ⟨fun _ ↦ .empty, .empty⟩
    ⟨true, .call (.create (rule "own")), sound⟩).2
  have hcreate : take "rules" ⟨fun _ ↦ .empty, .empty⟩
      ⟨true, .call (.create (rule "own")), sound⟩ = (.ok .done, created) := rfl
  have hown : created.folder.get? (Snapshot.path "rules") =
      some (Snapshot.toText (.ofList [("own", rule "own")])) := rfl
  have hopening := take_opening_of_readable hown (by decide +kernel) false sound
  let opened : SharedStores Bool :=
    ⟨Function.update created.rules false (.ofList [("own", rule "own")]), created.folder⟩
  let later := (take "rules" opened ⟨false, .call (.create (rule "other")), sound⟩).2
  have hlater : SharedStores.after "rules" created turns =
      (turns.map fun turn ↦ ⟨turn, .ok .done⟩, later) := by
    rw [after_cons, after_cons, after_nil, hopening]
    rfl
  have hcurrent : ByCurrent true (turns.map fun turn ↦ ⟨turn, .ok .done⟩) :=
    .next (fun _ ↦ Or.inr ⟨_, List.mem_singleton_self _, rfl, rfl⟩) (.next nofun .start)
  have hkept : ∀ taken ∈ turns.map fun turn ↦ (⟨turn, .ok .done⟩ : Taken Bool),
      taken.destroys "own" = false := by decide
  have hboth : later.folder.get? (Snapshot.path "rules") =
      some (Snapshot.toText ((opened.rules false).insert "other" (rule "other"))) := rfl
  have hreopened := Snapshot.openAt_of_readable hboth (by decide +kernel) sound
  obtain ⟨-, hfound, -⟩ := created_rule_kept hcreate hlater hcurrent hkept
  exact ⟨created, later, hcreate, hlater, hcurrent, hkept, _, hreopened, hfound sound _ hreopened⟩

/-- Two stores are opened on an empty directory and each creates a rule.  The rule that was created
first is not there when the directory is opened again, and its name could have been accepted
twice. -/
theorem created_rule_lost_of_overlap :
    let rule (name : String) : WatchRule := .made name (.object []) "stack" .delegated ⟨0, 0⟩
    let sound : Verdict := ⟨true, none, true, true⟩
    let opened := SharedStores.after "rules" ⟨fun _ ↦ .empty, .empty⟩
      [⟨false, .opening, sound⟩, ⟨true, .opening, sound⟩]
    let created (name : String) := SharedStores.after "rules" opened.2
      [⟨false, .call (.create (rule name)), sound⟩, ⟨true, .call (.create (rule "own")), sound⟩]
    opened.1.map (·.opens) = [true, true] ∧
    (created "other").1.map (isDone ·.outcome) = [true, true] ∧
    (created "other").1.map (·.creates "own") = [false, true] ∧
    (Snapshot.openAt (Folder.files sound) "rules").on (created "other").2.folder =
      (.ok (.ofList [("other", rule "other")]), (created "other").2.folder) ∧
    (created "own").1.map (·.creates "own") = [true, true] := by
  intro rule sound opened created
  exact ⟨rfl, rfl, rfl, Snapshot.openAt_of_readable rfl (by decide +kernel) sound, rfl⟩

end SharedStores

end MeteringAlarms
