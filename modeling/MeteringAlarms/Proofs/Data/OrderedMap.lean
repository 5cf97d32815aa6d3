import Mathlib.Data.List.Nodup
import MeteringAlarms.Data.OrderedMap

/-!
# Look-ups in composed maps

What `OrderedMap.get?` finds in a map that is written from a list, laid over another, cut down or
mapped.  Together with `OrderedMap.ext_get?` these rules settle equations between maps one key at a
time, so no proof about payloads or documents has to look at lists of entries.
-/

namespace MeteringAlarms

universe u v w

variable {α : Type u} {β : Type v} {ι : Type w}

namespace Entries

theorem find?_append (key : String) (left right : List (String × α)) :
    find? key (left ++ right) = (find? key left).or (find? key right) := by
  induction left with
  | nil => rfl
  | cons entry left ih =>
    obtain ⟨k, value⟩ := entry
    by_cases hkey : key = k
    · simp [find?, hkey]
    · simpa [find?, hkey] using ih

theorem find?_eq_some_iff_of_nodup {key : String} {value : α} {entries : List (String × α)}
    (hnodup : (entries.map Prod.fst).Nodup) :
    find? key entries = some value ↔ (key, value) ∈ entries := by
  constructor
  · exact mem_of_find?_eq_some
  · intro hmem
    induction entries with
    | nil => cases hmem
    | cons entry entries ih =>
      obtain ⟨k, old⟩ := entry
      rw [List.map_cons, List.nodup_cons] at hnodup
      rcases List.mem_cons.1 hmem with heq | hrest
      · cases heq
        simp [find?]
      · have hne : key ≠ k := by
          rintro rfl
          exact hnodup.1 (List.mem_map.2 ⟨(key, value), hrest, rfl⟩)
        rw [find?, if_neg hne]
        exact ih hnodup.2 hrest

theorem Ascending.nodup_keys {entries : List (String × α)} (h : Ascending entries) :
    (entries.map Prod.fst).Nodup := by
  rw [List.Nodup, List.pairwise_map]
  refine List.Pairwise.imp ?_ h
  intro left right hlt heq
  rw [heq] at hlt
  exact String.lt_irrefl _ hlt

/-- In ascending order a key stands once. -/
theorem filter_eq_of_find?_eq_some {entries : List (String × α)} (h : Ascending entries)
    {key : String} {value : α} (hvalue : find? key entries = some value) :
    entries.filter (·.1 = key) = [(key, value)] := by
  induction entries with
  | nil => cases hvalue
  | cons entry entries ih =>
    obtain ⟨k, old⟩ := entry
    have hrest := (List.pairwise_cons.1 h).1
    by_cases hkey : key = k
    · have hnone : entries.filter (·.1 = key) = [] := by
        rw [List.filter_eq_nil_iff]
        intro entry hentry heq
        have hlt : k < entry.1 := hrest entry hentry
        rw [of_decide_eq_true heq, hkey] at hlt
        exact String.lt_irrefl k hlt
      rw [find?, if_pos hkey] at hvalue
      rw [List.filter_cons, if_pos (decide_eq_true hkey.symm), hnone, hkey, Option.some.inj hvalue]
    · rw [find?, if_neg hkey] at hvalue
      rw [List.filter_cons, if_neg (by simpa using Ne.symm hkey)]
      exact ih (List.pairwise_cons.1 h).2 hvalue

/-- Entries with keys of their own are found alike in any order. -/
theorem find?_eq_of_perm (key : String) {left right : List (String × α)} (h : left.Perm right)
    (hnodup : (right.map Prod.fst).Nodup) : find? key left = find? key right := by
  have hleft : (left.map Prod.fst).Nodup := (h.map Prod.fst).nodup_iff.2 hnodup
  apply Option.ext
  intro value
  rw [find?_eq_some_iff_of_nodup hleft, find?_eq_some_iff_of_nodup hnodup, h.mem_iff]

theorem find?_reverse_of_nodup (key : String) {entries : List (String × α)}
    (hnodup : (entries.map Prod.fst).Nodup) :
    find? key entries.reverse = find? key entries :=
  find?_eq_of_perm key (List.reverse_perm entries) hnodup

theorem find?_map (f : String → α → β) (key : String) (entries : List (String × α)) :
    find? key (entries.map fun entry ↦ (entry.1, f entry.1 entry.2)) =
      (find? key entries).map (f key) := by
  induction entries with
  | nil => rfl
  | cons entry entries ih =>
    obtain ⟨k, value⟩ := entry
    by_cases hkey : key = k
    · simp [find?, hkey]
    · simpa [find?, hkey] using ih

theorem find?_filter (p : String × α → Bool) (key : String) {entries : List (String × α)}
    (hnodup : (entries.map Prod.fst).Nodup) :
    find? key (entries.filter p) = (find? key entries).filter fun value ↦ p (key, value) := by
  induction entries with
  | nil => rfl
  | cons entry entries ih =>
    obtain ⟨k, value⟩ := entry
    rw [List.map_cons, List.nodup_cons] at hnodup
    have ih := ih hnodup.2
    by_cases hkey : key = k
    · subst hkey
      have hrest : find? key entries = none := by
        apply find?_eq_none_of_forall_ne
        intro entry hentry heq
        exact hnodup.1 (List.mem_map.2 ⟨entry, hentry, heq.symm⟩)
      rw [hrest] at ih
      cases hvalue : p (key, value) with
      | true => simp [hvalue, find?, Option.filter]
      | false => simpa [hvalue, find?, Option.filter] using ih
    · cases hvalue : p (k, value) with
      | true => simpa [hvalue, hkey, find?] using ih
      | false => simpa [hvalue, hkey, find?] using ih

/-- Whatever is found under a key is in an entry with that key. -/
theorem find?_filter_key (key : String) (entries : List (String × α)) :
    find? key (entries.filter (·.1 = key)) = find? key entries := by
  induction entries with
  | nil => rfl
  | cons entry entries ih =>
    obtain ⟨name, value⟩ := entry
    rw [List.filter_cons]
    by_cases hname : name = key
    · rw [if_pos (decide_eq_true hname), find?, find?, if_pos hname.symm, if_pos hname.symm]
    · rw [if_neg (by rwa [decide_eq_true_eq]), ih, find?, if_neg (Ne.symm hname)]

/-- Entries that are chosen by an index with a name of its own are found through the index. -/
theorem find?_filterMap (name : ι → String) (value? : ι → Option α) (key : String)
    {indices : List ι} (hnodup : (indices.map name).Nodup) :
    find? key (indices.filterMap fun i ↦ (value? i).map (name i, ·)) =
      (indices.find? (name · = key)).bind value? := by
  induction indices with
  | nil => rfl
  | cons i indices ih =>
    rw [List.map_cons, List.nodup_cons] at hnodup
    have ih := ih hnodup.2
    by_cases hkey : name i = key
    · have hrest : indices.find? (name · = key) = none := by
        rw [List.find?_eq_none]
        intro j hj heq
        exact hnodup.1 (List.mem_map.2 ⟨j, hj, (of_decide_eq_true heq).trans hkey.symm⟩)
      rw [hrest] at ih
      cases hvalue : value? i with
      | none => simpa [hvalue, hkey] using ih
      | some value => simp [hvalue, hkey, find?]
    · cases hvalue : value? i with
      | none => simpa [hvalue, hkey] using ih
      | some value => simpa [hvalue, hkey, find?, Ne.symm hkey] using ih

end Entries

namespace OrderedMap

theorem get?_eq_some_iff {map : OrderedMap α} {key : String} {value : α} :
    map.get? key = some value ↔ (key, value) ∈ map.entries :=
  Entries.find?_eq_some_iff_of_nodup map.ascending.nodup_keys

theorem get?_insertAll (map : OrderedMap α) (entries : List (String × α)) (key : String) :
    (map.insertAll entries).get? key =
      (Entries.find? key entries.reverse).or (map.get? key) := by
  induction entries generalizing map with
  | nil => rfl
  | cons entry entries ih =>
    obtain ⟨k, value⟩ := entry
    have hstep : map.insertAll ((k, value) :: entries) = (map.insert k value).insertAll entries :=
      rfl
    rw [hstep, ih, List.reverse_cons, Entries.find?_append, get?_insert, Option.or_assoc]
    by_cases hkey : key = k <;> simp [Entries.find?, hkey]

theorem get?_ofList (entries : List (String × α)) (key : String) :
    (ofList entries).get? key = Entries.find? key entries.reverse := by
  rw [ofList, get?_insertAll, get?_empty, Option.or_none]

theorem get?_ofList_singleton (key : String) (value : α) (other : String) :
    (ofList [(key, value)]).get? other = if other = key then some value else none :=
  get?_insert empty key value other

theorem mem_of_mem_ofList {entries : List (String × α)} {entry : String × α}
    (h : entry ∈ (ofList entries).entries) : entry ∈ entries := by
  have hvalue : (ofList entries).get? entry.1 = some entry.2 := get?_eq_some_iff.2 h
  rw [get?_ofList] at hvalue
  exact List.mem_reverse.1 (Entries.mem_of_find?_eq_some hvalue)

theorem get?_ofList_filterMap (name : ι → String) (value? : ι → Option α) (key : String)
    {indices : List ι} (hnodup : (indices.map name).Nodup) :
    (ofList (indices.filterMap fun i ↦ (value? i).map (name i, ·))).get? key =
      (indices.find? (name · = key)).bind value? := by
  have hkeys : ((indices.filterMap fun i ↦ (value? i).map (name i, ·)).map Prod.fst).Nodup := by
    refine List.Sublist.nodup ?_ hnodup
    induction indices with
    | nil => exact List.Sublist.refl _
    | cons i indices ih =>
      have ih := ih (List.nodup_cons.1 hnodup).2
      cases hvalue : value? i with
      | none => simpa [hvalue] using ih.cons (name i)
      | some value => simpa [hvalue] using ih
  rw [get?_ofList, Entries.find?_reverse_of_nodup key hkeys,
    Entries.find?_filterMap name value? key hnodup]

/-- The part of a map under some names. -/
theorem get?_ofList_names (names : List String) (value? : String → Option α) (key : String)
    (hnodup : names.Nodup) :
    (ofList (names.filterMap fun name ↦ (value? name).map (name, ·))).get? key =
      if key ∈ names then value? key else none := by
  rw [get?_ofList_filterMap (fun name ↦ name) value? key (by simpa using hnodup)]
  by_cases hkey : key ∈ names
  · have hfind : (names.find? (· = key)).isSome := by
      rw [List.find?_isSome]
      exact ⟨key, hkey, decide_eq_true rfl⟩
    obtain ⟨name, hname⟩ := Option.isSome_iff_exists.1 hfind
    have heq : name = key := by simpa using List.find?_some hname
    rw [hname, if_pos hkey, Option.bind_some, heq]
  · have hfind : names.find? (· = key) = none := by
      rw [List.find?_eq_none]
      intro name hname heq
      exact hkey (of_decide_eq_true heq ▸ hname)
    rw [hfind, if_neg hkey, Option.bind_none]

theorem ofList_eq_of_perm {entries : List (String × α)} {map : OrderedMap α}
    (h : entries.Perm map.entries) : ofList entries = map := by
  apply ext_get?
  intro key
  have hreverse : entries.reverse.Perm map.entries := (List.reverse_perm entries).trans h
  rw [get?_ofList, Entries.find?_eq_of_perm key hreverse map.ascending.nodup_keys]
  rfl

theorem ofList_entries (map : OrderedMap α) : ofList map.entries = map :=
  ofList_eq_of_perm (List.Perm.refl map.entries)

theorem get?_ofList_filter (p : String × α → Bool) (map : OrderedMap α) (key : String) :
    (ofList (map.entries.filter p)).get? key =
      (map.get? key).filter fun value ↦ p (key, value) := by
  have hnodup := map.ascending.nodup_keys
  have hfiltered : ((map.entries.filter p).map Prod.fst).Nodup :=
    List.Sublist.nodup (List.filter_sublist.map Prod.fst) hnodup
  rw [get?_ofList, Entries.find?_reverse_of_nodup key hfiltered, Entries.find?_filter p key hnodup]
  rfl

@[simp] theorem get?_overlay (map changes : OrderedMap α) (key : String) :
    (map.overlay changes).get? key = (changes.get? key).or (map.get? key) := by
  rw [overlay, get?_insertAll,
    Entries.find?_reverse_of_nodup key changes.ascending.nodup_keys]
  rfl

@[simp] theorem get?_mapValues (map : OrderedMap α) (f : String → α → β) (key : String) :
    (map.mapValues f).get? key = (map.get? key).map (f key) :=
  Entries.find?_map f key map.entries

theorem get?_foldl_erase (names : List String) (map : OrderedMap α) (key : String) :
    (names.foldl erase map).get? key = if key ∈ names then none else map.get? key := by
  induction names generalizing map with
  | nil => simp
  | cons name names ih =>
    rw [List.foldl_cons, ih, get?_erase]
    by_cases hkey : key = name <;> simp [hkey]

theorem erase_insert_of_get?_eq_none {map : OrderedMap α} {key : String}
    (h : map.get? key = none) (value : α) : (map.insert key value).erase key = map := by
  apply ext_get?
  intro other
  by_cases hother : other = key <;> simp [hother, h]

theorem insert_erase_of_get?_eq_some {map : OrderedMap α} {key : String} {value : α}
    (h : map.get? key = some value) : (map.erase key).insert key value = map := by
  apply ext_get?
  intro other
  by_cases hother : other = key <;> simp [hother, h]

theorem erase_of_get?_eq_none {map : OrderedMap α} {key : String} (h : map.get? key = none) :
    map.erase key = map := by
  apply ext_get?
  intro other
  by_cases hother : other = key <;> simp [hother, h]

/-- A new entry leaves the other entries as they are. -/
theorem get?_insert_of_get?_eq_none {map : OrderedMap α} {key other : String} {found : α}
    (hkey : map.get? key = none) (hother : map.get? other = some found) (value : α) :
    (map.insert key value).get? other = some found := by
  have hne : other ≠ key := by
    rintro rfl
    rw [hkey] at hother
    cases hother
  rw [get?_insert, if_neg hne, hother]

theorem insert_insert (map : OrderedMap α) (key : String) (old value : α) :
    (map.insert key old).insert key value = map.insert key value := by
  apply ext_get?
  intro other
  by_cases hother : other = key <;> simp [hother]

theorem insert_eq_self_iff {map : OrderedMap α} {key : String} {value : α} :
    map.insert key value = map ↔ map.get? key = some value := by
  refine ⟨fun h ↦ ?_, fun h ↦ ?_⟩
  · rw [← h, get?_insert, if_pos rfl]
  · apply ext_get?
    intro other
    by_cases hother : other = key <;> simp [hother, h]

/-- The entries with a key, of which there is at most one. -/
theorem filter_entries (map : OrderedMap α) (key : String) :
    map.entries.filter (·.1 = key) = (map.get? key).toList.map (key, ·) := by
  cases hvalue : map.get? key with
  | some value => exact Entries.filter_eq_of_find?_eq_some map.ascending hvalue
  | none =>
    refine List.filter_eq_nil_iff.2 fun entry hentry hkey ↦ ?_
    have hsome : map.get? entry.1 = some entry.2 := get?_eq_some_iff.2 hentry
    rw [of_decide_eq_true hkey, hvalue] at hsome
    cases hsome

theorem filter_entries_ne (map : OrderedMap α) (key : String) :
    map.entries.filter (·.1 ≠ key) = (map.erase key).entries := by
  refine List.filter_congr fun entry _ ↦ ?_
  rw [bne, decide_not, beq_eq_decide]

theorem contains_eq_isSome (map : OrderedMap α) (key : String) :
    map.contains key = (map.get? key).isSome := rfl

theorem isEmpty_iff {map : OrderedMap α} : map.isEmpty = true ↔ ∀ key, map.get? key = none := by
  constructor
  · intro h key
    have hnil : map.entries = [] := List.isEmpty_iff.1 h
    rw [get?, hnil]
    rfl
  · intro h
    have hempty : map = empty := ext_get? h
    rw [hempty]
    rfl

theorem eq_empty_of_isEmpty {map : OrderedMap α} (h : map.isEmpty = true) : map = empty :=
  ext_get? (isEmpty_iff.1 h)

theorem empty_overlay (changes : OrderedMap α) : (empty : OrderedMap α).overlay changes = changes :=
  ofList_entries changes

theorem overlay_ofList_singleton (map : OrderedMap α) (key : String) (value : α) :
    map.overlay (ofList [(key, value)]) = map.insert key value := by
  apply ext_get?
  intro other
  rw [get?_overlay, get?_ofList_singleton, get?_insert]
  split <;> rfl

theorem overlay_self (map : OrderedMap α) : map.overlay map = map := by
  apply ext_get?
  intro key
  rw [get?_overlay, Option.or_self]

theorem overlay_overlay (map changes : OrderedMap α) :
    (map.overlay changes).overlay changes = map.overlay changes := by
  apply ext_get?
  intro key
  rw [get?_overlay, get?_overlay, ← Option.or_assoc, Option.or_self]

theorem isEmpty_overlay (map changes : OrderedMap α) :
    (map.overlay changes).isEmpty = (map.isEmpty && changes.isEmpty) := by
  rw [Bool.eq_iff_iff, Bool.and_eq_true, isEmpty_iff, isEmpty_iff, isEmpty_iff, ← forall_and]
  apply forall_congr'
  intro key
  rw [get?_overlay, Option.or_eq_none_iff, and_comm]

theorem overlay_of_isEmpty (map : OrderedMap α) {changes : OrderedMap α}
    (h : changes.isEmpty = true) : map.overlay changes = map := by
  apply ext_get?
  intro key
  rw [get?_overlay, isEmpty_iff.1 h, Option.none_or]

end OrderedMap

end MeteringAlarms
