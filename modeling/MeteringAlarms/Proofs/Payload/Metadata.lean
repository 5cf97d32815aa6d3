import Mathlib.Data.List.Dedup
import Mathlib.Data.List.Perm.Subperm
import MeteringAlarms.Payload.Metadata
import MeteringAlarms.Proofs.Data.OrderedMap
import MeteringAlarms.Proofs.Data.Text

/-!
# Metadata with qualified keys

A key names a piece of metadata by what is left of it without the part of its namespace that it
carries, its local name, and qualifying it writes the namespace in full before the local name.  So
two keys meet just when they have the same local name, which at most three keys can have, and of the
values under these the one of the greatest key stays.  A qualified key is left as it is.
-/

namespace MeteringAlarms

universe u

variable {α : Type u}

/-! ## Maps with rewritten keys -/

theorem Entries.find?_eq_none_iff {key : String} {entries : List (String × α)} :
    find? key entries = none ↔ ∀ entry ∈ entries, entry.1 ≠ key := by
  constructor
  · intro h
    induction entries with
    | nil => exact nofun
    | cons entry entries ih =>
      obtain ⟨first, value⟩ := entry
      by_cases hkey : key = first
      · rw [find?, if_pos hkey] at h
        cases h
      · rw [find?, if_neg hkey] at h
        intro other hother
        rcases List.mem_cons.1 hother with rfl | hother
        · exact Ne.symm hkey
        · exact ih h other hother
  · intro h
    exact find?_eq_none_of_forall_ne fun entry hentry heq ↦ h entry hentry heq.symm

/-- Of the entries whose keys meet, the one with the greatest old key is found. -/
theorem Entries.exists_greatest_of_find? (f : String → String) {key : String} {value : α}
    {entries : List (String × α)} (hascending : Ascending entries)
    (h : find? key (entries.map fun (old, value) ↦ (f old, value)).reverse = some value) :
    ∃ old, (old, value) ∈ entries ∧ f old = key ∧
      ∀ other ∈ entries, f other.1 = key → other.1 ≤ old := by
  induction entries with
  | nil => cases h
  | cons entry entries ih =>
    obtain ⟨first, firstValue⟩ := entry
    obtain ⟨hfirst, hrest⟩ := List.pairwise_cons.1 hascending
    rw [List.map_cons, List.reverse_cons, find?_append, Option.or_eq_some_iff] at h
    rcases h with hlater | ⟨hnone, hhere⟩
    · obtain ⟨old, hold, hkey, hgreatest⟩ := ih hrest hlater
      refine ⟨old, List.mem_cons_of_mem _ hold, hkey, fun other hother hmeets ↦ ?_⟩
      rcases List.mem_cons.1 hother with rfl | hother
      · exact le_of_lt (hfirst _ hold)
      · exact hgreatest other hother hmeets
    · obtain ⟨rfl, rfl⟩ := Prod.mk.inj (List.mem_singleton.1 (mem_of_find?_eq_some hhere))
      refine ⟨first, List.mem_cons_self, rfl, fun other hother hmeets ↦ ?_⟩
      rcases List.mem_cons.1 hother with rfl | hother
      · exact le_refl _
      · have hmem : (f other.1, other.2) ∈
            (entries.map fun (old, value) ↦ (f old, value)).reverse :=
          List.mem_reverse.2 (List.mem_map.2 ⟨other, hother, rfl⟩)
        exact absurd hmeets (find?_eq_none_iff.1 hnone _ hmem)

namespace OrderedMap

variable (f : String → String) (map : OrderedMap α)

theorem contains_iff_mem_keys {map : OrderedMap α} {key : String} :
    map.contains key = true ↔ key ∈ map.keys := by
  rw [contains_eq_isSome, Option.isSome_iff_exists, keys, List.mem_map]
  constructor
  · rintro ⟨value, hvalue⟩
    exact ⟨(key, value), get?_eq_some_iff.1 hvalue, rfl⟩
  · rintro ⟨⟨old, value⟩, hentry, rfl⟩
    exact ⟨value, get?_eq_some_iff.2 hentry⟩

/-- The map with every key rewritten. -/
def rekey : OrderedMap α :=
  ofList (map.entries.map fun (key, value) ↦ (f key, value))

theorem mem_keys_rekey {key : String} :
    key ∈ (rekey f map).keys ↔ ∃ old ∈ map.keys, f old = key := by
  rw [← contains_iff_mem_keys, contains_eq_isSome, rekey, get?_ofList, Option.isSome_iff_ne_none,
    Ne, Entries.find?_eq_none_iff]
  simp only [List.mem_reverse, List.mem_map, not_forall, ne_eq, not_not, exists_prop, keys]
  constructor
  · rintro ⟨_, ⟨entry, hentry, rfl⟩, rfl⟩
    exact ⟨entry.1, ⟨entry, hentry, rfl⟩, rfl⟩
  · rintro ⟨_, ⟨entry, hentry, rfl⟩, rfl⟩
    exact ⟨_, ⟨entry, hentry, rfl⟩, rfl⟩

theorem get?_rekey_eq_some_iff {key : String} {value : α} :
    (rekey f map).get? key = some value ↔
      ∃ old, map.get? old = some value ∧ f old = key ∧
        ∀ other ∈ map.keys, f other = key → other ≤ old := by
  have hfound {value : α} (h : (rekey f map).get? key = some value) :
      ∃ old, map.get? old = some value ∧ f old = key ∧
        ∀ other ∈ map.keys, f other = key → other ≤ old := by
    rw [rekey, get?_ofList] at h
    obtain ⟨old, hold, hkey, hgreatest⟩ := Entries.exists_greatest_of_find? f map.ascending h
    refine ⟨old, get?_eq_some_iff.2 hold, hkey, fun other hother hmeets ↦ ?_⟩
    obtain ⟨entry, hentry, rfl⟩ := List.mem_map.1 hother
    exact hgreatest entry hentry hmeets
  refine ⟨hfound, ?_⟩
  rintro ⟨old, hvalue, hkey, hgreatest⟩
  have hold : old ∈ map.keys := contains_iff_mem_keys.1 (by rw [contains_eq_isSome, hvalue]; rfl)
  have hcontains := contains_iff_mem_keys.2 ((mem_keys_rekey f map).2 ⟨old, hold, hkey⟩)
  obtain ⟨found, hfoundValue⟩ := Option.isSome_iff_exists.1 hcontains
  obtain ⟨last, hlast, hlastKey, hlastGreatest⟩ := hfound hfoundValue
  have hmem : last ∈ map.keys := contains_iff_mem_keys.1 (by rw [contains_eq_isSome, hlast]; rfl)
  have hsame : last = old :=
    le_antisymm (hgreatest last hmem hlastKey) (hlastGreatest old hold hkey)
  rw [hfoundValue, ← hlast, hsame, hvalue]

theorem size_rekey : (rekey f map).size = (map.keys.map f).dedup.length := by
  have hsame : (rekey f map).keys.Perm (map.keys.map f).dedup := by
    refine (List.perm_ext_iff_of_nodup (rekey f map).ascending.nodup_keys
      (List.nodup_dedup _)).2 fun key ↦ ?_
    rw [List.mem_dedup]
    exact (mem_keys_rekey f map).trans List.mem_map.symm
  rw [← hsame.length_eq, keys, List.length_map]
  rfl

variable {f map}

theorem rekey_of_forall_eq (h : ∀ key ∈ map.keys, f key = key) : rekey f map = map := by
  have hentries : map.entries.map (fun (key, value) ↦ (f key, value)) = map.entries.map id :=
    List.map_congr_left fun entry hentry ↦
      Prod.ext (h entry.1 (List.mem_map_of_mem hentry)) rfl
  rw [rekey, hentries, List.map_id, ofList_entries]

end OrderedMap

namespace Metadata

/-! ## Local names -/

/-- A key without the part of its namespace that it carries. -/
def localName (space key : String) : String :=
  if Text.startsWith key ("metadata." ++ space) then Text.withoutLead key ("metadata." ++ space)
  else if Text.startsWith key space then Text.withoutLead key space
  else key

theorem qualify_eq (space key : String) :
    qualify space key = "metadata." ++ space ++ localName space key := by
  rw [qualify, localName, root]
  split
  · rename_i hqualified
    exact (Text.append_withoutLead hqualified).symm
  · split
    · rename_i hspace
      rw [String.append_assoc, Text.append_withoutLead hspace]
    · rfl

theorem qualify_eq_iff {space key other : String} :
    qualify space key = qualify space other ↔ localName space key = localName space other := by
  rw [qualify_eq, qualify_eq]
  exact String.append_right_inj _

theorem localName_append (space name : String) :
    localName space ("metadata." ++ space ++ name) = name := by
  have hlead : Text.startsWith ("metadata." ++ space ++ name) ("metadata." ++ space) = true :=
    Text.startsWith_iff.2 ⟨name, rfl⟩
  rw [localName, if_pos hlead, Text.withoutLead_append]

theorem qualify_qualify (space key : String) :
    qualify space (qualify space key) = qualify space key :=
  calc
    qualify space (qualify space key)
    _ = "metadata." ++ space ++ localName space ("metadata." ++ space ++ localName space key) := by
      rw [qualify_eq space (qualify space key), qualify_eq space key]
    _ = "metadata." ++ space ++ localName space key := by rw [localName_append]
    _ = qualify space key := (qualify_eq space key).symm

/-- A local name comes from the name alone, or from the name behind a part of the namespace. -/
theorem mem_of_localName_eq {space key name : String} (h : localName space key = name) :
    key ∈ [name, space ++ name, "metadata." ++ space ++ name] := by
  subst h
  rw [localName]
  split
  · rename_i hqualified
    rw [Text.append_withoutLead hqualified]
    simp
  · split
    · rename_i hspace
      rw [Text.append_withoutLead hspace]
      simp
    · simp

/-! ## Qualified maps -/

theorem qualifyAll_eq_rekey (space : String) (metadata : Fields) :
    qualifyAll space metadata = metadata.rekey (qualify space) := rfl

/-- No more than three entries meet under one key. -/
theorem length_filter_qualify_le (space key : String) (metadata : Fields) :
    (metadata.keys.filter fun old ↦ qualify space old = key).length ≤ 3 := by
  have hnodup : metadata.keys.Nodup := metadata.ascending.nodup_keys
  have hsubset : (metadata.keys.filter fun old ↦ qualify space old = key) ⊆
      [localName space key, space ++ localName space key,
        "metadata." ++ space ++ localName space key] := by
    intro old hold
    have hkey : qualify space old = key := of_decide_eq_true (List.mem_filter.1 hold).2
    refine mem_of_localName_eq ?_
    rw [← hkey, qualify_eq, localName_append]
  exact ((hnodup.filter _).subperm hsubset).length_le

theorem qualifyAll_qualifyAll (space : String) (metadata : Fields) :
    qualifyAll space (qualifyAll space metadata) = qualifyAll space metadata := by
  rw [qualifyAll_eq_rekey space (qualifyAll space metadata)]
  refine OrderedMap.rekey_of_forall_eq fun key hkey ↦ ?_
  obtain ⟨old, -, rfl⟩ := (OrderedMap.mem_keys_rekey _ metadata).1 hkey
  exact qualify_qualify space old

/-- Qualified metadata has an entry for each local name among its keys, under the namespace and
that name, with the value of the greatest of the keys with that name.  At most three keys meet, and
metadata that is qualified stays as it is. -/
theorem qualifyAll_merges_local_names (space : String) (metadata : Fields) :
    (∀ key, key ∈ (qualifyAll space metadata).keys ↔
      ∃ old ∈ metadata.keys, key = "metadata." ++ space ++ localName space old) ∧
    (∀ old other, qualify space old = qualify space other ↔
      localName space old = localName space other) ∧
    (∀ name value, (qualifyAll space metadata).get? ("metadata." ++ space ++ name) = some value ↔
      ∃ old, metadata.get? old = some value ∧ localName space old = name ∧
        ∀ other ∈ metadata.keys, localName space other = name →
          Text.bytes other ≤ Text.bytes old) ∧
    (qualifyAll space metadata).size = (metadata.keys.map (localName space)).dedup.length ∧
    (∀ key, (metadata.keys.filter fun old ↦ qualify space old = key).length ≤ 3) ∧
    qualifyAll space (qualifyAll space metadata) = qualifyAll space metadata := by
  have hmeets (old name : String) :
      qualify space old = "metadata." ++ space ++ name ↔ localName space old = name := by
    rw [qualify_eq]
    exact String.append_right_inj _
  refine ⟨fun key ↦ ?_, fun old other ↦ qualify_eq_iff, fun name value ↦ ?_, ?_,
    fun key ↦ length_filter_qualify_le space key metadata, qualifyAll_qualifyAll space metadata⟩
  · rw [qualifyAll_eq_rekey, OrderedMap.mem_keys_rekey]
    simp only [qualify_eq, eq_comm]
  · rw [qualifyAll_eq_rekey, OrderedMap.get?_rekey_eq_some_iff]
    simp only [hmeets, Text.bytes_le_iff]
  · have hinjective : Function.Injective ("metadata." ++ space ++ ·) := fun _ _ ↦
      (String.append_right_inj _).1
    have hcomp : metadata.keys.map (qualify space) =
        (metadata.keys.map (localName space)).map ("metadata." ++ space ++ ·) := by
      rw [List.map_map]
      exact List.map_congr_left fun old _ ↦ qualify_eq space old
    rw [qualifyAll_eq_rekey, OrderedMap.size_rekey, hcomp, List.dedup_map_of_injective hinjective,
      List.length_map]

/-- Three keys with one local name: the value of the greatest of them is kept. -/
example :
    qualifyAll "user_metadata." (.ofList [("metadata.user_metadata.tier", .ofNat 1),
      ("tier", .ofNat 2), ("user_metadata", .ofNat 3), ("user_metadata.tier", .ofNat 4)]) =
    .ofList [("metadata.user_metadata.tier", .ofNat 4),
      ("metadata.user_metadata.user_metadata", .ofNat 3)] := by
  decide +kernel

end Metadata

end MeteringAlarms
