/-!
# Maps from strings in ascending key order

Entries are kept in the strictly ascending order of their keys, which for strings is the order of
code points and so also of their UTF-8 bytes. A map therefore has one representation, and `ext_get?`
turns equal look-ups into equal maps. Writing a list of entries one after the other lets the last
entry of a repeated key win.
-/

namespace MeteringAlarms

universe u v

namespace Entries

variable {α : Type u} {β : Type v}

/-- The order between neighbours that makes a list of entries a map. -/
def Ascending (entries : List (String × α)) : Prop :=
  entries.Pairwise fun a b ↦ a.1 < b.1

instance (entries : List (String × α)) : Decidable (Ascending entries) :=
  inferInstanceAs (Decidable (entries.Pairwise fun a b ↦ a.1 < b.1))

def find? (key : String) : List (String × α) → Option α
  | [] => none
  | (k, value) :: rest => if key = k then some value else find? key rest

def insert (key : String) (value : α) : List (String × α) → List (String × α)
  | [] => [(key, value)]
  | (k, old) :: rest =>
    if key < k then (key, value) :: (k, old) :: rest
    else if key = k then (key, value) :: rest
    else (k, old) :: insert key value rest

def erase (key : String) (entries : List (String × α)) : List (String × α) :=
  entries.filter fun entry ↦ entry.1 != key

theorem mem_insert {key : String} {value : α} {entry : String × α} :
    ∀ {entries : List (String × α)}, entry ∈ insert key value entries →
      entry = (key, value) ∨ entry ∈ entries
  | [], h => by simpa [insert] using h
  | (k, old) :: rest, h => by
    unfold insert at h
    split at h
    · simpa using h
    · split at h
      · rcases List.mem_cons.1 h with h | h
        · exact Or.inl h
        · exact Or.inr (List.mem_cons_of_mem _ h)
      · rcases List.mem_cons.1 h with h | h
        · exact Or.inr (h ▸ List.mem_cons_self)
        · exact (mem_insert h).imp id (List.mem_cons_of_mem _)

theorem lt_of_not_lt_of_ne {a b : String} (h : ¬a < b) (hne : a ≠ b) : b < a :=
  Classical.byContradiction fun hba ↦
    hne (String.le_antisymm (String.not_lt.1 hba) (String.not_lt.1 h))

theorem ascending_insert (key : String) (value : α) :
    ∀ {entries : List (String × α)}, Ascending entries → Ascending (insert key value entries)
  | [], _ => by simp [insert, Ascending]
  | (k, old) :: rest, h => by
    have hrest : Ascending rest := (List.pairwise_cons.1 h).2
    have hk := (List.pairwise_cons.1 h).1
    unfold insert
    split
    · rename_i hlt
      refine List.pairwise_cons.2 ⟨fun entry hentry ↦ ?_, h⟩
      rcases List.mem_cons.1 hentry with rfl | hentry
      · exact hlt
      · exact String.lt_trans hlt (hk entry hentry)
    · split
      · rename_i heq
        subst heq
        exact List.pairwise_cons.2 ⟨hk, hrest⟩
      · rename_i hlt hne
        refine List.pairwise_cons.2 ⟨fun entry hentry ↦ ?_, ascending_insert key value hrest⟩
        rcases mem_insert hentry with rfl | hentry
        · exact lt_of_not_lt_of_ne hlt hne
        · exact hk entry hentry

theorem ascending_erase (key : String) {entries : List (String × α)} (h : Ascending entries) :
    Ascending (erase key entries) :=
  List.Pairwise.filter _ h

theorem find?_insert (key : String) (value : α) (other : String) :
    ∀ entries : List (String × α),
      find? other (insert key value entries) =
        if other = key then some value else find? other entries
  | [] => by simp [insert, find?]
  | (k, old) :: rest => by
    unfold insert
    split
    · rename_i hlt
      by_cases hother : other = key <;> simp [find?, hother]
    · split
      · rename_i heq
        subst heq
        by_cases hother : other = key <;> simp [find?, hother]
      · rename_i hlt hne
        by_cases hk : other = k
        · subst hk
          simp [find?, Ne.symm hne]
        · simp [find?, hk, find?_insert key value other rest]

theorem find?_erase (key other : String) :
    ∀ entries : List (String × α),
      find? other (erase key entries) = if other = key then none else find? other entries
  | [] => by simp [erase, find?]
  | (k, old) :: rest => by
    have ih := find?_erase key other rest
    unfold erase at ih ⊢
    by_cases hk : k = key
    · subst hk
      by_cases hother : other = k
      · subst hother
        simpa using ih
      · simp [find?, hother, ih]
    · by_cases hother : other = k
      · subst hother
        simp [find?, hk]
      · simp [find?, hk, hother, ih]

theorem find?_eq_none_of_forall_ne {key : String} :
    ∀ {entries : List (String × α)}, (∀ entry ∈ entries, key ≠ entry.1) → find? key entries = none
  | [], _ => rfl
  | (k, value) :: rest, h => by
    have hk : key ≠ k := h (k, value) List.mem_cons_self
    simp [find?, hk, find?_eq_none_of_forall_ne fun entry hentry ↦
      h entry (List.mem_cons_of_mem _ hentry)]

theorem mem_of_find?_eq_some {key : String} {value : α} :
    ∀ {entries : List (String × α)}, find? key entries = some value → (key, value) ∈ entries
  | (k, old) :: rest, h => by
    unfold find? at h
    split at h
    · rename_i heq
      subst heq
      simp_all
    · exact List.mem_cons_of_mem _ (mem_of_find?_eq_some h)

/-- Lists of entries in ascending order are determined by what look-ups find in them. -/
theorem eq_of_find?_eq :
    ∀ {left right : List (String × α)}, Ascending left → Ascending right →
      (∀ key, find? key left = find? key right) → left = right
  | [], [], _, _, _ => rfl
  | [], (k, value) :: rest, _, _, h => by simpa [find?] using h k
  | (k, value) :: rest, [], _, _, h => by simpa [find?] using h k
  | (k, value) :: rest, (k', value') :: rest', hl, hr, h => by
    have hl' := List.pairwise_cons.1 hl
    have hr' := List.pairwise_cons.1 hr
    have hkk : k = k' := by
      apply Classical.byContradiction
      intro hne
      have hin : (k, value) ∈ (k', value') :: rest' :=
        mem_of_find?_eq_some ((h k).symm.trans (by simp [find?]))
      have hin' : (k', value') ∈ (k, value) :: rest :=
        mem_of_find?_eq_some ((h k').trans (by simp [find?]))
      rcases List.mem_cons.1 hin with heq | hin
      · exact hne (Prod.mk.inj heq).1
      · rcases List.mem_cons.1 hin' with heq | hin'
        · exact hne (Prod.mk.inj heq).1.symm
        · exact String.lt_asymm (hr'.1 _ hin) (hl'.1 _ hin')
    subst hkk
    have hvalue : value = value' := by simpa [find?] using h k
    subst hvalue
    congr 1
    refine eq_of_find?_eq hl'.2 hr'.2 fun key ↦ ?_
    by_cases hkey : key = k
    · subst hkey
      rw [find?_eq_none_of_forall_ne fun entry hentry heq ↦
          String.lt_irrefl entry.1 (heq ▸ hl'.1 entry hentry),
        find?_eq_none_of_forall_ne fun entry hentry heq ↦
          String.lt_irrefl entry.1 (heq ▸ hr'.1 entry hentry)]
    · simpa [find?, hkey] using h key

end Entries

/-- A finite map from strings, one entry per key, in ascending key order. -/
structure OrderedMap (α : Type u) where
  entries : List (String × α)
  ascending : Entries.Ascending entries

namespace OrderedMap

variable {α : Type u} {β : Type v}

instance [DecidableEq α] : DecidableEq (OrderedMap α) := fun left right ↦
  decidable_of_iff (left.entries = right.entries)
    ⟨fun h ↦ by cases left; cases right; cases h; rfl, fun h ↦ h ▸ rfl⟩

def empty : OrderedMap α := ⟨[], List.Pairwise.nil⟩

instance : Inhabited (OrderedMap α) := ⟨empty⟩

def get? (map : OrderedMap α) (key : String) : Option α :=
  Entries.find? key map.entries

def contains (map : OrderedMap α) (key : String) : Bool :=
  (map.get? key).isSome

def insert (map : OrderedMap α) (key : String) (value : α) : OrderedMap α :=
  ⟨Entries.insert key value map.entries, Entries.ascending_insert key value map.ascending⟩

def erase (map : OrderedMap α) (key : String) : OrderedMap α :=
  ⟨Entries.erase key map.entries, Entries.ascending_erase key map.ascending⟩

/-- Writes every listed entry over the map, in order. -/
def insertAll (map : OrderedMap α) (entries : List (String × α)) : OrderedMap α :=
  entries.foldl (fun map entry ↦ map.insert entry.1 entry.2) map

/-- The map that a list of entries describes when the last of a repeated key counts. -/
def ofList (entries : List (String × α)) : OrderedMap α :=
  empty.insertAll entries

/-- Writes every entry of `changes` over `map`. -/
def overlay (map changes : OrderedMap α) : OrderedMap α :=
  map.insertAll changes.entries

def keys (map : OrderedMap α) : List String :=
  map.entries.map Prod.fst

def values (map : OrderedMap α) : List α :=
  map.entries.map Prod.snd

def size (map : OrderedMap α) : Nat :=
  map.entries.length

def isEmpty (map : OrderedMap α) : Bool :=
  map.entries.isEmpty

/-- Replaces every value by one that may depend on its key. -/
def mapValues (map : OrderedMap α) (f : String → α → β) : OrderedMap β :=
  ⟨map.entries.map fun entry ↦ (entry.1, f entry.1 entry.2), by
    simpa [Entries.Ascending, List.pairwise_map] using map.ascending⟩

@[simp] theorem get?_empty (key : String) : (empty : OrderedMap α).get? key = none := rfl

@[simp] theorem get?_insert (map : OrderedMap α) (key : String) (value : α) (other : String) :
    (map.insert key value).get? other = if other = key then some value else map.get? other :=
  Entries.find?_insert key value other map.entries

@[simp] theorem get?_erase (map : OrderedMap α) (key other : String) :
    (map.erase key).get? other = if other = key then none else map.get? other :=
  Entries.find?_erase key other map.entries

/-- Maps that answer every look-up alike are the same map. -/
theorem ext_get? {left right : OrderedMap α} (h : ∀ key, left.get? key = right.get? key) :
    left = right := by
  have hentries := Entries.eq_of_find?_eq left.ascending right.ascending h
  cases left
  cases right
  cases hentries
  rfl

end OrderedMap

end MeteringAlarms
