import MeteringAlarms.Proofs.Data.OrderedMap
import MeteringAlarms.Proofs.Json.Printing

/-!
# Texts nested too deep

A canonical value is read back from its indented text as long as it is not nested more than
`Document.maxDepth` deep, and a value that is nested deeper is refused.  Writing knows no such
bound.
-/

namespace MeteringAlarms

namespace Json

mutual

def decidableCanonical : (value : Json) → Decidable value.Canonical
  | .null | .bool _ | .string _ | .number (.float _) => .isTrue trivial
  | .number (.int _) => inferInstanceAs (Decidable (_ ∧ _))
  | .array items => decidableCanonicalItems items
  | .object entries =>
    have := decidableCanonicalEntries entries
    inferInstanceAs (Decidable (Entries.Ascending entries ∧ _))

def decidableCanonicalItems : (items : List Json) → Decidable (CanonicalItems items)
  | [] => .isTrue trivial
  | item :: items =>
    have := decidableCanonical item
    have := decidableCanonicalItems items
    inferInstanceAs (Decidable (_ ∧ _))

def decidableCanonicalEntries :
    (entries : List (String × Json)) → Decidable (CanonicalEntries entries)
  | [] => .isTrue trivial
  | (_, value) :: entries =>
    have := decidableCanonical value
    have := decidableCanonicalEntries entries
    inferInstanceAs (Decidable (_ ∧ _))

end

instance : DecidablePred Canonical := decidableCanonical

end Json

theorem Json.ofEntries_of_ascending {entries : List (String × Json)}
    (h : Entries.Ascending entries) : Json.ofEntries entries = .object entries := by
  rw [Json.ofEntries, OrderedMap.ofList_entries ⟨entries, h⟩]
  rfl

namespace Json

mutual

/-- The value as reading gives it back: the keys of an object are in order, and of a repeated one
the last counts. -/
def normal : Json → Json
  | .null => .null
  | .bool value => .bool value
  | .number value => .number value
  | .string value => .string value
  | .array items => .array (normalItems items)
  | .object entries => .ofEntries (normalEntries entries)

def normalItems : List Json → List Json
  | [] => []
  | item :: items => normal item :: normalItems items

def normalEntries : List (String × Json) → List (String × Json)
  | [] => []
  | (name, value) :: entries => (name, normal value) :: normalEntries entries

end

mutual

theorem normal_of_canonical (value : Json) (h : value.Canonical) : value.normal = value := by
  match value with
  | .null | .bool _ | .number _ | .string _ => rfl
  | .array items => rw [normal, normalItems_of_canonical items h]
  | .object entries =>
    rw [normal, normalEntries_of_canonical entries h.2, ofEntries_of_ascending h.1]

theorem normalItems_of_canonical (items : List Json) (h : CanonicalItems items) :
    normalItems items = items := by
  match items with
  | [] => rfl
  | item :: items =>
    rw [normalItems, normal_of_canonical item h.1, normalItems_of_canonical items h.2]

theorem normalEntries_of_canonical (entries : List (String × Json)) (h : CanonicalEntries entries) :
    normalEntries entries = entries := by
  match entries with
  | [] => rfl
  | (name, value) :: entries =>
    rw [normalEntries, normal_of_canonical value h.1, normalEntries_of_canonical entries h.2]

end

theorem filter_normalEntries (name : String) (entries : List (String × Json)) :
    (normalEntries entries).filter (·.1 = name) = normalEntries (entries.filter (·.1 = name)) := by
  induction entries with
  | nil => rfl
  | cons entry entries ih =>
    obtain ⟨key, value⟩ := entry
    rw [normalEntries, List.filter_cons, List.filter_cons, ih]
    split <;> rfl

end Json

namespace Document

mutual

/-- A value comes back from its document, if there is room for it. -/
theorem toJson?_ofJson (value : Json) (room : Nat) :
    toJson? room (ofJson value) = if value.depth ≤ room then some value.normal else none := by
  match value with
  | .null | .bool _ | .number _ | .string _ => rfl
  | .array items =>
    cases room with
    | zero => rfl
    | succ room =>
      have hitems := itemsToJson?_ofItems items room
      rw [ofJson, toJson?, if_neg (Nat.succ_ne_zero room), Nat.add_sub_cancel, hitems, Json.depth]
      by_cases hdepth : Json.depthItems items ≤ room
      · rw [if_pos hdepth, if_pos (Nat.succ_le_succ hdepth)]
        rfl
      · rw [if_neg hdepth, if_neg fun h ↦ hdepth (Nat.le_of_succ_le_succ h)]
        rfl
  | .object entries =>
    cases room with
    | zero => rfl
    | succ room =>
      have hentries := membersToJson?_ofEntries entries room
      rw [ofJson, toJson?, if_neg (Nat.succ_ne_zero room), Nat.add_sub_cancel, hentries, Json.depth]
      by_cases hdepth : Json.depthEntries entries ≤ room
      · rw [if_pos hdepth, if_pos (Nat.succ_le_succ hdepth)]
        rfl
      · rw [if_neg hdepth, if_neg fun h ↦ hdepth (Nat.le_of_succ_le_succ h)]
        rfl

theorem itemsToJson?_ofItems (items : List Json) (room : Nat) :
    itemsToJson? room (ofItems items) =
      if Json.depthItems items ≤ room then some (Json.normalItems items) else none := by
  match items with
  | [] => rfl
  | item :: items =>
    rw [ofItems, itemsToJson?, toJson?_ofJson item room, itemsToJson?_ofItems items room,
      Json.depthItems]
    by_cases hitem : item.depth ≤ room
    · by_cases hitems : Json.depthItems items ≤ room
      · rw [if_pos hitem, if_pos hitems, if_pos (max_le hitem hitems)]
        rfl
      · rw [if_pos hitem, if_neg hitems, if_neg fun h ↦ hitems (le_of_max_le_right h)]
        rfl
    · rw [if_neg hitem, if_neg fun h ↦ hitem (le_of_max_le_left h)]
      rfl

theorem membersToJson?_ofEntries (entries : List (String × Json)) (room : Nat) :
    membersToJson? room (ofEntries entries) =
      if Json.depthEntries entries ≤ room then some (Json.normalEntries entries) else none := by
  match entries with
  | [] => rfl
  | (name, value) :: entries =>
    rw [ofEntries, membersToJson?, toJson?_ofJson value room,
      membersToJson?_ofEntries entries room, Json.depthEntries]
    by_cases hvalue : value.depth ≤ room
    · by_cases hentries : Json.depthEntries entries ≤ room
      · rw [if_pos hvalue, if_pos hentries, if_pos (max_le hvalue hentries)]
        rfl
      · rw [if_pos hvalue, if_neg hentries, if_neg fun h ↦ hentries (le_of_max_le_right h)]
        rfl
    · rw [if_neg hvalue, if_neg fun h ↦ hvalue (le_of_max_le_left h)]
      rfl

end

/-- A canonical value comes back as it is. -/
theorem toJson?_ofJson_of_canonical {value : Json} (hcanonical : value.Canonical) (room : Nat) :
    toJson? room (ofJson value) = if value.depth ≤ room then some value else none := by
  rw [toJson?_ofJson, Json.normal_of_canonical value hcanonical]

end Document

namespace Json

theorem depthEntries_le_iff {entries : List (String × Json)} {bound : Nat} :
    depthEntries entries ≤ bound ↔ ∀ entry ∈ entries, entry.2.depth ≤ bound := by
  induction entries with
  | nil => simp [depthEntries]
  | cons entry entries ih => rw [depthEntries, max_le_iff, List.forall_mem_cons, ih]

/-- Dropping repeated names makes an object no deeper. -/
theorem depth_ofEntries_le {entries : List (String × Json)} {bound : Nat}
    (h : depthEntries entries ≤ bound) : (ofEntries entries).depth ≤ bound + 1 := by
  refine Nat.succ_le_succ (depthEntries_le_iff.2 fun entry hentry ↦ ?_)
  exact depthEntries_le_iff.1 h entry (OrderedMap.mem_of_mem_ofList hentry)

end Json

namespace Document

mutual

/-- What is read is within the room that was left for it. -/
theorem depth_le_of_toJson? (document : Document) {room : Nat} {value : Json}
    (h : toJson? room document = some value) : value.depth ≤ room := by
  match document with
  | .null | .bool _ =>
    cases h
    exact Nat.zero_le room
  | .number value? | .string value? =>
    obtain ⟨_, -, rfl⟩ := Option.map_eq_some_iff.1 h
    exact Nat.zero_le room
  | .array items =>
    cases room with
    | zero => cases h
    | succ room =>
      obtain ⟨values, hvalues, rfl⟩ := Option.map_eq_some_iff.1 h
      exact Nat.succ_le_succ (depthItems_le_of_itemsToJson? items hvalues)
  | .object members =>
    cases room with
    | zero => cases h
    | succ room =>
      obtain ⟨entries, hentries, rfl⟩ := Option.map_eq_some_iff.1 h
      exact Json.depth_ofEntries_le (depthEntries_le_of_membersToJson? members hentries)

theorem depthItems_le_of_itemsToJson? (items : List Document) {room : Nat} {values : List Json}
    (h : itemsToJson? room items = some values) : Json.depthItems values ≤ room := by
  match items with
  | [] =>
    cases h
    exact Nat.zero_le room
  | item :: items =>
    obtain ⟨value, hvalue, h⟩ := Option.bind_eq_some_iff.1 h
    obtain ⟨values, hvalues, h⟩ := Option.bind_eq_some_iff.1 h
    cases h
    exact max_le (depth_le_of_toJson? item hvalue) (depthItems_le_of_itemsToJson? items hvalues)

theorem depthEntries_le_of_membersToJson? (members : List (Option String × Document)) {room : Nat}
    {entries : List (String × Json)} (h : membersToJson? room members = some entries) :
    Json.depthEntries entries ≤ room := by
  match members with
  | [] =>
    cases h
    exact Nat.zero_le room
  | (name?, item) :: members =>
    obtain ⟨name, -, h⟩ := Option.bind_eq_some_iff.1 h
    obtain ⟨value, hvalue, h⟩ := Option.bind_eq_some_iff.1 h
    obtain ⟨entries, hentries, h⟩ := Option.bind_eq_some_iff.1 h
    cases h
    exact max_le (depth_le_of_toJson? item hvalue)
      (depthEntries_le_of_membersToJson? members hentries)

end

end Document

/-- A value is read back from its indented text exactly when it is not nested too deep. -/
theorem Json.ofText?_indented {value : Json} (hcanonical : value.Canonical)
    (hexact : value.NumbersExact) :
    Json.ofText? value.indented =
      if value.depth ≤ Document.maxDepth then some value else none := by
  rw [Json.ofText?, Document.ofText?_indented hexact]
  exact Document.toJson?_ofJson_of_canonical hcanonical Document.maxDepth

end MeteringAlarms
