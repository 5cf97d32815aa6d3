import MeteringAlarms.Proofs.Json.Depth
import MeteringAlarms.Proofs.Rule.Book
import MeteringAlarms.Rule.Snapshot

/-!
# The text of a snapshot

A snapshot puts a rule under its name and the body of the rule under a field of it, so a body stands
two levels down.  It is read rule by rule.  A rule keeps its name, its stack and its state; it is
read as the very rule that was written where its numbers and timestamps are exact.  If one of the
rules cannot be read, as when its body is nested too deep for what room is left, none of them is.
-/

namespace MeteringAlarms

/-! ## Records -/

namespace Document

/-- The fields of a record that is written out with no others, as they are read. -/
def writtenRecord (entries : List (String × Json)) : Record :=
  entries.map fun entry ↦ (entry.1, written entry.2)

theorem knownMembers?_writtenEntries {names : List String} {entries : List (String × Json)}
    (hnames : ∀ entry ∈ entries, entry.1 ∈ names) :
    knownMembers? names (writtenEntries entries) = some (writtenRecord entries) := by
  induction entries with
  | nil => rfl
  | cons entry entries ih =>
    obtain ⟨name, value⟩ := entry
    have hname : names.contains name = true :=
      List.contains_iff_mem.2 (hnames _ List.mem_cons_self)
    rw [writtenEntries, knownMembers?,
      ih fun entry hentry ↦ hnames entry (List.mem_cons_of_mem _ hentry)]
    change some (if names.contains name then _ else _) = _
    rw [if_pos hname]
    rfl

theorem record?_written {names : List String} {entries : List (String × Json)}
    (hnames : ∀ entry ∈ entries, entry.1 ∈ names) (hnodup : (entries.map Prod.fst).Nodup) :
    (written (.object entries)).record? names = some (writtenRecord entries) := by
  have hnodup : ((writtenRecord entries).map Prod.fst).Nodup := by
    rw [writtenRecord, List.map_map]
    exact hnodup
  rw [written, record?, knownMembers?_writtenEntries hnames]
  change (if ((writtenRecord entries).map Prod.fst).Nodup then _ else _) = _
  rw [if_pos hnodup]

theorem required_writtenRecord {α : Type} {entries : List (String × Json)} {name : String}
    {value : Json} (hvalue : Entries.find? name entries = some value)
    (read : Document → Option α) :
    Record.required (writtenRecord entries) name read = read (written value) := by
  have hfield : Record.field? (writtenRecord entries) name = some (written value) := by
    rw [Record.field?, writtenRecord, Entries.find?_map fun _ ↦ written, hvalue]
    rfl
  rw [Record.required, hfield]
  rfl

end Document

/-! ## Rules -/

/-- How deep the body of a rule may be nested in a snapshot. -/
def Snapshot.bodyDepth : Nat := Document.maxDepth - 2

theorem RuleState.ofName?_name (state : RuleState) : ofName? state.name = some state := by
  cases state <;> rfl

namespace WatchRule

/-- The numbers and timestamps of a rule are written so that they are read as themselves, and the
body of the rule is one that can be read at all. -/
structure IsExact (rule : WatchRule) : Prop where
  canonical : rule.rule.Canonical
  numbers : rule.rule.NumbersExact
  createdAt : Timestamp.ofText? rule.createdAt.toText = some rule.createdAt
  updatedAt : Timestamp.ofText? rule.updatedAt.toText = some rule.updatedAt

instance : DecidablePred IsExact := fun rule ↦
  decidable_of_iff
    (rule.rule.Canonical ∧ rule.rule.NumbersExact ∧
      Timestamp.ofText? rule.createdAt.toText = some rule.createdAt ∧
      Timestamp.ofText? rule.updatedAt.toText = some rule.updatedAt)
    ⟨fun ⟨canonical, numbers, createdAt, updatedAt⟩ ↦ ⟨canonical, numbers, createdAt, updatedAt⟩,
      fun h ↦ ⟨h.canonical, h.numbers, h.createdAt, h.updatedAt⟩⟩

theorem timestamp?_written (text : String) :
    timestamp? (Document.written (.string text)) = Timestamp.ofText? text := rfl

/-- Of a rule that is written and read again, the body and the times may change or may turn out
not to be readable; the name, the stack and the state stay. -/
theorem ofDocument?_written (rule : WatchRule) (room : Nat) :
    ofDocument? (room + 1) (Document.written rule.toJson) =
      (do
        let body ← Document.toJson? room (Document.written rule.rule)
        let createdAt ← Timestamp.ofText? rule.createdAt.toText
        let updatedAt ← Timestamp.ofText? rule.updatedAt.toText
        some { rule with rule := body, createdAt, updatedAt }) := by
  have hrecord : (Document.written rule.toJson).record? fieldNames =
      some (Document.writtenRecord rule.members) :=
    Document.record?_written (fun _ hentry ↦ List.mem_map_of_mem (f := Prod.fst) hentry)
      (by decide : fieldNames.Nodup)
  have hname : Entries.find? "name" rule.members = some (.string rule.name) := rfl
  have hrule : Entries.find? "rule" rule.members = some rule.rule := rfl
  have hstackId : Entries.find? "stack_id" rule.members = some (.string rule.stackId) := rfl
  have hstate : Entries.find? "state" rule.members = some (.string rule.state.name) := rfl
  have hcreatedAt :
      Entries.find? "created_at" rule.members = some (.string rule.createdAt.toText) := rfl
  have hupdatedAt :
      Entries.find? "updated_at" rule.members = some (.string rule.updatedAt.toText) := rfl
  have hconstant : ((Document.written (.string rule.state.name)).constantName?.bind fun name ↦
      RuleState.ofName? name) = some rule.state := RuleState.ofName?_name rule.state
  have hstring (text : String) : (Document.written (.string text)).string? = some text := rfl
  rw [ofDocument?, if_neg (Nat.succ_ne_zero room), hrecord]
  simp only [Option.bind_eq_bind, Option.bind_some, Document.required_writtenRecord hname,
    Document.required_writtenRecord hrule, Document.required_writtenRecord hstackId,
    Document.required_writtenRecord hstate, Document.required_writtenRecord hcreatedAt,
    Document.required_writtenRecord hupdatedAt, Nat.add_sub_cancel, hstring, hconstant,
    timestamp?_written]

theorem depth_le_of_ofDocument? {room : Nat} {document : Document} {rule : WatchRule}
    (h : ofDocument? (room + 1) document = some rule) : rule.rule.depth ≤ room := by
  rw [ofDocument?, if_neg (Nat.succ_ne_zero room), Nat.add_sub_cancel] at h
  obtain ⟨record, -, h⟩ := Option.bind_eq_some_iff.1 h
  obtain ⟨name, -, h⟩ := Option.bind_eq_some_iff.1 h
  obtain ⟨body, hbody, h⟩ := Option.bind_eq_some_iff.1 h
  obtain ⟨stackId, -, h⟩ := Option.bind_eq_some_iff.1 h
  obtain ⟨state, -, h⟩ := Option.bind_eq_some_iff.1 h
  obtain ⟨createdAt, -, h⟩ := Option.bind_eq_some_iff.1 h
  obtain ⟨updatedAt, -, h⟩ := Option.bind_eq_some_iff.1 h
  cases h
  obtain ⟨field, -, hfield⟩ := Option.bind_eq_some_iff.1 hbody
  exact Document.depth_le_of_toJson? field hfield

/-- What a rule is read as once it has been written to a snapshot, if it can be read. -/
def reread? (rule : WatchRule) : Option WatchRule :=
  ofDocument? (Document.maxDepth - 1) (Document.written rule.toJson)

theorem reread?_eq_some {rule again : WatchRule} (h : rule.reread? = some again) :
    again.name = rule.name ∧ again.stackId = rule.stackId ∧ again.state = rule.state := by
  have hread := (ofDocument?_written rule Snapshot.bodyDepth).symm.trans h
  obtain ⟨body, -, hread⟩ := Option.bind_eq_some_iff.1 hread
  obtain ⟨createdAt, -, hread⟩ := Option.bind_eq_some_iff.1 hread
  obtain ⟨updatedAt, -, hread⟩ := Option.bind_eq_some_iff.1 hread
  cases hread
  exact ⟨rfl, rfl, rfl⟩

/-- An exact rule is read as itself, if it can be read. -/
theorem IsExact.reread? {rule : WatchRule} (hexact : rule.IsExact) :
    rule.reread? = if rule.rule.depth ≤ Snapshot.bodyDepth then some rule else none := by
  have hread := ofDocument?_written rule Snapshot.bodyDepth
  rw [Document.written_of_numbersExact rule.rule hexact.numbers,
    Document.toJson?_ofJson_of_canonical hexact.canonical, hexact.createdAt,
    hexact.updatedAt] at hread
  refine hread.trans ?_
  split <;> rfl

end WatchRule

/-! ## Snapshots -/

namespace Snapshot

/-- No rule has a body that is nested too deep for a snapshot. -/
def allShallow (rules : RuleBook) : Bool :=
  rules.entries.all fun entry ↦ entry.2.rule.depth ≤ bodyDepth

/-- Reads a member of a snapshot. -/
def readMember (member : Option String × Document) : Option (String × WatchRule) := do
  let name ← member.1
  let rule ← WatchRule.ofDocument? (Document.maxDepth - 1) member.2
  some (name, rule)

theorem depth_le_of_mapM_readMember {members : List (Option String × Document)}
    {entries : List (String × WatchRule)} (h : members.mapM readMember = some entries) :
    ∀ entry ∈ entries, entry.2.rule.depth ≤ bodyDepth := by
  induction members generalizing entries with
  | nil =>
    cases h
    exact List.forall_mem_nil _
  | cons member members ih =>
    rw [List.mapM_cons] at h
    obtain ⟨entry, hentry, h⟩ := Option.bind_eq_some_iff.1 h
    obtain ⟨entries, hentries, h⟩ := Option.bind_eq_some_iff.1 h
    cases h
    obtain ⟨name, -, hentry⟩ := Option.bind_eq_some_iff.1 hentry
    obtain ⟨rule, hrule, hentry⟩ := Option.bind_eq_some_iff.1 hentry
    cases hentry
    exact List.forall_mem_cons.2 ⟨WatchRule.depth_le_of_ofDocument? hrule, ih hentries⟩

/-- Rules that are read from a snapshot can be written to one that is read again. -/
theorem allShallow_of_ofText? {text : String} {rules : RuleBook}
    (h : ofText? text = some rules) : allShallow rules = true := by
  unfold ofText? at h
  split at h
  · obtain ⟨entries, hentries, h⟩ := Option.bind_eq_some_iff.1 h
    cases h
    rw [allShallow, List.all_eq_true]
    intro entry hentry
    exact decide_eq_true
      (depth_le_of_mapM_readMember hentries entry (OrderedMap.mem_of_mem_ofList hentry))
  · cases h

/-- A rule with its name, as they are read once they have been written to a snapshot. -/
def rereadMember? (entry : String × WatchRule) : Option (String × WatchRule) :=
  entry.2.reread?.map (entry.1, ·)

theorem mapM_readMember (entries : List (String × WatchRule)) :
    (Document.writtenEntries (entries.map fun entry ↦ (entry.1, entry.2.toJson))).mapM readMember =
      entries.mapM rereadMember? := by
  induction entries with
  | nil => rfl
  | cons entry entries ih =>
    have hentry : readMember (some entry.1, Document.written entry.2.toJson) =
        rereadMember? entry := by
      rw [rereadMember?, WatchRule.reread?, readMember]
      cases WatchRule.ofDocument? (Document.maxDepth - 1) (Document.written entry.2.toJson) <;> rfl
    rw [List.map_cons, Document.writtenEntries, List.mapM_cons, List.mapM_cons, hentry, ih]

/-- A snapshot is read rule by rule, and one rule that cannot be read keeps all of them from being
read. -/
theorem ofText?_toText_eq_mapM (rules : RuleBook) :
    ofText? (toText rules) = (rules.entries.mapM rereadMember?).map .ofList := by
  have hread : ofText? (toText rules) =
      ((Document.writtenEntries (rules.entries.map fun entry ↦ (entry.1, entry.2.toJson))).mapM
        readMember).bind fun entries ↦ some (.ofList entries) := by
    rw [ofText?, toText, Document.ofText?_indented_eq_written]
    rfl
  rw [hread, mapM_readMember, Option.map_eq_bind]
  rfl

theorem find?_of_mapM_rereadMember? {entries read : List (String × WatchRule)}
    (h : entries.mapM rereadMember? = some read) (name : String) :
    read.map Prod.fst = entries.map Prod.fst ∧
      (Entries.find? name entries).map WatchRule.reread? =
        (Entries.find? name read).map some := by
  induction entries generalizing read with
  | nil =>
    cases h
    exact ⟨rfl, rfl⟩
  | cons entry entries ih =>
    rw [List.mapM_cons] at h
    obtain ⟨first, hfirst, h⟩ := Option.bind_eq_some_iff.1 h
    obtain ⟨others, hothers, h⟩ := Option.bind_eq_some_iff.1 h
    cases h
    obtain ⟨hnames, hfind⟩ := ih hothers
    obtain ⟨rule, hrule, rfl⟩ := Option.map_eq_some_iff.1 hfirst
    refine ⟨congrArg (entry.1 :: ·) hnames, ?_⟩
    rw [Entries.find?, Entries.find?]
    split
    · exact congrArg some hrule
    · exact hfind

/-- If a snapshot is read, each of its rules is, under the name that it had. -/
theorem map_reread?_get? {rules opened : RuleBook} (h : ofText? (toText rules) = some opened)
    (name : String) :
    (rules.get? name).map WatchRule.reread? = (opened.get? name).map some := by
  rw [ofText?_toText_eq_mapM] at h
  obtain ⟨read, hread, rfl⟩ := Option.map_eq_some_iff.1 h
  obtain ⟨hnames, hfind⟩ := find?_of_mapM_rereadMember? hread name
  have hnodup : (read.map Prod.fst).Nodup := by
    rw [hnames]
    exact rules.ascending.nodup_keys
  rw [OrderedMap.get?_ofList, Entries.find?_reverse_of_nodup name hnodup]
  exact hfind

/-- One body that is nested too deep keeps all rules from being read. -/
theorem mapM_rereadMember? {entries : List (String × WatchRule)}
    (hexact : ∀ entry ∈ entries, entry.2.IsExact) :
    entries.mapM rereadMember? =
      if entries.all fun entry ↦ entry.2.rule.depth ≤ bodyDepth then some entries else none := by
  induction entries with
  | nil => rfl
  | cons entry entries ih =>
    rw [List.mapM_cons, rereadMember?, (hexact _ List.mem_cons_self).reread?,
      ih fun entry hentry ↦ hexact entry (List.mem_cons_of_mem _ hentry), List.all_cons]
    by_cases hdepth : entry.2.rule.depth ≤ bodyDepth
    · rw [if_pos hdepth, decide_eq_true hdepth, Bool.true_and]
      split <;> rfl
    · rw [if_neg hdepth, decide_eq_false hdepth, Bool.false_and]
      rfl

/-- A snapshot is read as the rules that it was written from, unless a body is nested too deep. -/
theorem ofText?_toText {rules : RuleBook} (hexact : rules.All WatchRule.IsExact) :
    ofText? (toText rules) = if allShallow rules then some rules else none := by
  rw [ofText?_toText_eq_mapM, mapM_rereadMember? hexact, allShallow]
  split
  · rw [Option.map_some, OrderedMap.ofList_entries]
  · rfl

/-- Exact rules whose bodies are not nested too deep are read as they were written. -/
theorem ofText?_toText_of_readable {rules : RuleBook}
    (h : rules.All fun rule ↦ rule.IsExact ∧ rule.rule.depth ≤ bodyDepth) :
    ofText? (toText rules) = some rules := by
  have hshallow : allShallow rules = true := by
    rw [allShallow, List.all_eq_true]
    exact fun entry hentry ↦ decide_eq_true (h entry hentry).2
  rw [ofText?_toText fun entry hentry ↦ (h entry hentry).1, if_pos hshallow]

end Snapshot

end MeteringAlarms
