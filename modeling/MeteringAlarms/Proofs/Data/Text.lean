import Mathlib.Data.List.DropRight
import Mathlib.Data.List.TakeWhile
import Mathlib.Data.String.Basic
import MeteringAlarms.Data.Text

/-!
# Cuts of text and the order of bytes

What is cut off a text, and what its parts are, is told from its characters.

Maps keep their keys in the order of strings, which compares code points.  UTF-8 is made so that
this is the order of the bytes as well: of two different characters the encoding of the smaller one
is less at the first byte where the two differ, and no encoding is the beginning of another.
-/

namespace MeteringAlarms.Text

theorem startsWith_iff {text lead : String} :
    startsWith text lead = true ↔ ∃ rest, text = lead ++ rest := by
  rw [startsWith, List.isPrefixOf_iff_prefix]
  constructor
  · rintro ⟨rest, hrest⟩
    refine ⟨String.ofList rest, ?_⟩
    rw [← String.toList_inj, String.toList_append, String.toList_ofList, hrest]
  · rintro ⟨rest, rfl⟩
    rw [String.toList_append]
    exact List.prefix_append _ _

/-- What follows the beginning of a text. -/
def withoutLead (text lead : String) : String :=
  String.ofList (text.toList.drop lead.toList.length)

@[simp] theorem withoutLead_append (lead rest : String) :
    withoutLead (lead ++ rest) lead = rest := by
  rw [withoutLead, String.toList_append, List.drop_left, String.ofList_toList]

theorem append_withoutLead {text lead : String} (h : startsWith text lead = true) :
    lead ++ withoutLead text lead = text := by
  obtain ⟨rest, rfl⟩ := startsWith_iff.1 h
  rw [withoutLead_append]

/-! ## Runs -/

section Runs

variable {front more : List Char} {p : Char → Bool} {c : Char}

theorem takeWhile_append_of_head? (hmore : ∀ c ∈ more.head?, p c = false) :
    (front ++ more).takeWhile p = front.takeWhile p := by
  induction front with
  | nil =>
    cases more with
    | nil => rfl
    | cons c more => exact List.takeWhile_cons_of_neg (by simp [hmore c rfl])
  | cons c front ih => rw [List.cons_append, List.takeWhile_cons, List.takeWhile_cons, ih]

theorem dropWhile_append_of_head? (hmore : ∀ c ∈ more.head?, p c = false) :
    (front ++ more).dropWhile p = front.dropWhile p ++ more := by
  induction front with
  | nil =>
    cases more with
    | nil => rfl
    | cons c more => exact List.dropWhile_cons_of_neg (by simp [hmore c rfl])
  | cons c front ih =>
    rw [List.cons_append, List.dropWhile_cons, List.dropWhile_cons, ih]
    split <;> rfl

theorem dropWhile_append_cons (hc : p c = false) :
    (front ++ c :: more).dropWhile p = front.dropWhile p ++ c :: more := by
  apply dropWhile_append_of_head?
  rintro _ ⟨⟩
  exact hc

theorem length_takeWhile_lt (hmem : c ∈ front) (hc : p c = false) :
    (front.takeWhile p).length < front.length := by
  apply Nat.lt_of_le_of_ne (List.takeWhile_prefix p).length_le
  intro hlength
  have hall : front.takeWhile p = front := (List.takeWhile_prefix p).eq_of_length hlength
  have htrue := List.takeWhile_eq_self_iff.1 hall c hmem
  rw [hc] at htrue
  cases htrue

theorem takeWhile_append_of_mem (hmem : c ∈ front) (hc : p c = false) :
    (front ++ more).takeWhile p = front.takeWhile p := by
  rw [List.takeWhile_append, if_neg (Nat.ne_of_lt (length_takeWhile_lt hmem hc))]

theorem dropWhile_append_of_mem (hmem : c ∈ front) (hc : p c = false) :
    (front ++ more).dropWhile p = front.dropWhile p ++ more := by
  rw [List.dropWhile_append, if_neg]
  intro hempty
  have htrue := List.dropWhile_eq_nil_iff.1 (List.isEmpty_iff.1 hempty) c hmem
  rw [hc] at htrue
  cases htrue

theorem rdropWhile_append_of_mem (hmem : c ∈ more) (hc : p c = false) :
    (front ++ more).rdropWhile p = front ++ more.rdropWhile p := by
  rw [List.rdropWhile, List.reverse_append,
    dropWhile_append_of_mem (List.mem_reverse.2 hmem) hc, List.reverse_append,
    List.reverse_reverse, List.rdropWhile]

theorem rdropWhile_append_of_forall (h : ∀ c ∈ more, p c = true) :
    (front ++ more).rdropWhile p = front.rdropWhile p := by
  rw [List.rdropWhile, List.reverse_append,
    List.dropWhile_append_of_pos fun c hc ↦ h c (List.mem_reverse.1 hc), List.rdropWhile]

end Runs

/-! ## Ends -/

theorem toList_dropTrailing (text : String) (c : Char) :
    (dropTrailing text c).toList = text.toList.rdropWhile (· == c) := by
  rw [dropTrailing, String.toList_ofList, List.rdropWhile]

/-- It makes no difference how many copies of the character there are at the end. -/
theorem dropTrailing_append_replicate (text : String) (c : Char) (n : Nat) :
    dropTrailing (text ++ String.ofList (List.replicate n c)) c = dropTrailing text c := by
  rw [← String.toList_inj, toList_dropTrailing, toList_dropTrailing, String.toList_append,
    String.toList_ofList]
  induction n with
  | zero => rw [List.replicate_zero, List.append_nil]
  | succ n ih =>
    rw [List.replicate_succ', ← List.append_assoc,
      List.rdropWhile_concat_pos (· == c) _ _ (beq_self_eq_true c), ih]

/-! ## Parts -/

section Parts

variable {isSeparator : Char → Bool} {c : Char}

theorem parts_of_forall {cs : List Char} (h : ∀ c ∈ cs, isSeparator c = false) :
    parts isSeparator cs = [cs] := by
  induction cs with
  | nil => rfl
  | cons c cs ih =>
    obtain ⟨hc, hcs⟩ := List.forall_mem_cons.1 h
    rw [parts, hc, if_neg Bool.false_ne_true, ih hcs]

theorem parts_ne_nil (cs : List Char) : parts isSeparator cs ≠ [] := by
  cases cs with
  | nil => exact List.cons_ne_nil _ _
  | cons c cs =>
    rw [parts]
    split
    · exact List.cons_ne_nil _ _
    · split <;> exact List.cons_ne_nil _ _

/-- The parts before a separator and the parts behind it are all the parts. -/
theorem parts_append_cons (hc : isSeparator c = true) (front more : List Char) :
    parts isSeparator (front ++ c :: more) =
      parts isSeparator front ++ parts isSeparator more := by
  induction front with
  | nil =>
    change (if isSeparator c = true then _ else _) = _
    rw [if_pos hc]
    rfl
  | cons d front ih =>
    obtain ⟨part, others, hparts⟩ := List.exists_cons_of_ne_nil (parts_ne_nil front)
    rw [List.cons_append, parts, parts, ih, hparts]
    split <;> rfl

end Parts

/-! ## The order of bytes -/

/-- The bytes of a text in UTF-8. -/
def bytes (text : String) : List UInt8 :=
  text.toByteArray.data.toList

theorem bytes_eq_flatMap (text : String) :
    bytes text = text.toList.flatMap String.utf8EncodeChar := by
  rw [bytes, ← String.utf8Encode_toList, List.utf8Encode, List.toList_data_toByteArray]

/-- The encoding of the smaller character is less, whatever follows the two. -/
theorem encoded_append_lt {c d : Char} (h : c < d) (left right : List UInt8) :
    String.utf8EncodeChar c ++ left < String.utf8EncodeChar d ++ right := by
  have hless : c.val.toNat < d.val.toNat := h
  have hbound : d.val.toNat < 0x110000 := by
    rcases d.valid with hvalid | ⟨-, hvalid⟩
    · exact Nat.lt_trans hvalid (by decide)
    · exact hvalid
  have hlt (a b : Nat) (ha : a < 256) (hb : b < 256) :
      UInt8.ofNat a < UInt8.ofNat b ↔ a < b := UInt8.ofNat_lt_iff_lt ha hb
  have heq (a b : Nat) (ha : a < 256) (hb : b < 256) :
      UInt8.ofNat a = UInt8.ofNat b ↔ a = b := by
    rw [← UInt8.toNat_inj, UInt8.toNat_ofNat_of_lt' ha, UInt8.toNat_ofNat_of_lt' hb]
  simp only [String.utf8EncodeChar]
  generalize c.val.toNat = v at hless ⊢
  generalize d.val.toNat = w at hless hbound ⊢
  -- The bytes are digits in base 64, so the highest digit that differs decides.
  have hones : v / 64 < w / 64 ∨ v / 64 = w / 64 ∧ v % 64 < w % 64 := by omega
  have htwos (_ : v / 64 < w / 64) :
      v / 4096 < w / 4096 ∨ v / 4096 = w / 4096 ∧ v / 64 % 64 < w / 64 % 64 := by omega
  have hthrees (_ : v / 4096 < w / 4096) :
      v / 262144 < w / 262144 ∨ v / 262144 = w / 262144 ∧ v / 4096 % 64 < w / 4096 % 64 := by
    omega
  have htop : v / 262144 % 8 = v / 262144 ∧ w / 262144 % 8 = w / 262144 := by omega
  -- One case for each length of the one encoding and each length of the other.
  split_ifs <;>
    simp (disch := omega) only [List.cons_append, List.nil_append, List.cons_lt_cons_iff, hlt,
      heq] <;>
    omega

theorem flatMap_encoded_lt {left right : List Char} (h : left < right) :
    left.flatMap String.utf8EncodeChar < right.flatMap String.utf8EncodeChar := by
  induction left generalizing right with
  | nil =>
    cases right with
    | nil => cases h
    | cons d right =>
      rw [List.flatMap_nil, List.flatMap_cons]
      cases hencoded : String.utf8EncodeChar d with
      | nil => exact absurd hencoded String.utf8EncodeChar_ne_nil
      | cons => exact List.nil_lt_cons _ _
  | cons c left ih =>
    cases right with
    | nil => cases h
    | cons d right =>
      rw [List.flatMap_cons, List.flatMap_cons]
      rcases List.cons_lt_cons_iff.1 h with hlt | ⟨rfl, hrest⟩
      · exact encoded_append_lt hlt _ _
      · exact List.append_left_lt (ih hrest)

/-- The order of strings is the order of their bytes. -/
theorem bytes_lt_iff {left right : String} : bytes left < bytes right ↔ left < right := by
  have hmono {left right : String} (h : left < right) : bytes left < bytes right := by
    rw [bytes_eq_flatMap, bytes_eq_flatMap]
    exact flatMap_encoded_lt (String.lt_iff_toList_lt.1 h)
  refine ⟨fun h ↦ ?_, hmono⟩
  rcases lt_trichotomy left right with hlt | rfl | hgt
  · exact hlt
  · exact absurd h (List.lt_irrefl _)
  · exact absurd h (List.lt_asymm (hmono hgt))

theorem bytes_le_iff {left right : String} : bytes left ≤ bytes right ↔ left ≤ right := by
  rw [← not_lt, ← bytes_lt_iff]
  exact List.not_lt.symm

theorem bytes_injective : Function.Injective bytes := by
  intro left right h
  exact String.toByteArray_inj.1 (ByteArray.ext (Array.toList_inj.1 h))

theorem toList_loop_eq (array : ByteArray) (taken : List UInt8) (i : Nat) :
    ByteArray.toList.loop array i taken = taken.reverse ++ array.data.toList.drop i := by
  -- The loop ends at the last byte, so the induction is on how many are left.
  induction hn : array.size - i generalizing i taken with
  | zero =>
    have hall : array.data.toList.length ≤ i := by
      rw [Array.length_toList]
      exact Nat.sub_eq_zero_iff_le.1 hn
    rw [ByteArray.toList.loop.eq_def, if_neg (by omega), List.drop_eq_nil_of_le hall,
      List.append_nil]
  | succ n ih =>
    have hlt : i < array.data.toList.length := by
      rw [Array.length_toList]
      exact Nat.lt_of_sub_eq_succ hn
    have hget : array.get! i = array.data.toList[i] := getElem!_pos array.data i hlt
    rw [ByteArray.toList.loop.eq_def, if_pos (by omega), ih _ _ (by omega),
      List.drop_eq_getElem_cons hlt, List.reverse_cons, List.append_assoc, hget]
    rfl

theorem toList_toUTF8 (text : String) : text.toUTF8.toList = bytes text := by
  rw [ByteArray.toList, toList_loop_eq]
  rfl

end MeteringAlarms.Text
