import MeteringAlarms.Http.Target
import MeteringAlarms.Proofs.Data.Text

/-!
# Addresses by the generic syntax

An address is split without regard to what its parts mean: the fragment goes from the first `#`, the
query from the first `?` before it, and slashes are between the segments of the rest.  Two
hexadecimal digits behind a percent sign stand for a byte of a segment.
-/

namespace MeteringAlarms.Http

open Text

/-! ## Escapes -/

namespace Escape

/-- The byte that three characters stand for, if they are an escape. -/
def byte? (c high low : Char) : Option UInt8 :=
  if c = '%' then do
    let high ← Digits.value? high
    let low ← Digits.value? low
    some (UInt8.ofNat (16 * high + low))
  else none

/-- The byte of an escape at the beginning. -/
def first? : List Char → Option UInt8
  | c :: high :: low :: _ => byte? c high low
  | _ => none

/-- There is an escape among the characters. -/
def isIn : List Char → Bool
  | [] => false
  | c :: cs => (first? (c :: cs)).isSome || isIn cs

/-- The bytes of characters in UTF-8. -/
def plain (cs : List Char) : List UInt8 :=
  cs.flatMap String.utf8EncodeChar

/-- The bytes that characters stand for once escapes are decoded. -/
def decoded : List Char → List UInt8
  | c :: high :: low :: cs =>
    match byte? c high low with
    | some byte => byte :: decoded cs
    | none => String.utf8EncodeChar c ++ decoded (high :: low :: cs)
  | cs => plain cs

theorem plain_cons (c : Char) (cs : List Char) :
    plain (c :: cs) = String.utf8EncodeChar c ++ plain cs :=
  List.flatMap_cons

theorem decoded_cons_of_first?_eq_none {c : Char} {cs : List Char}
    (h : first? (c :: cs) = none) : decoded (c :: cs) = String.utf8EncodeChar c ++ decoded cs := by
  match cs with
  | [] | [_] => rfl
  | high :: low :: cs =>
    have hbyte : byte? c high low = none := h
    rw [decoded, hbyte]

theorem decoded_cons_of_byte? {c high low : Char} {byte : UInt8} (h : byte? c high low = some byte)
    (cs : List Char) : decoded (c :: high :: low :: cs) = byte :: decoded cs := by
  rw [decoded, h]

/-- Characters are read one by one, but an escape at a time. -/
@[elab_as_elim]
theorem reading {motive : List Char → Prop} (nil : motive [])
    (escape : ∀ c high low byte cs, byte? c high low = some byte → motive cs →
      motive (c :: high :: low :: cs))
    (character : ∀ c cs, first? (c :: cs) = none → motive cs → motive (c :: cs))
    (cs : List Char) : motive cs := by
  induction hn : cs.length using Nat.strong_induction_on generalizing cs with
  | _ n ih =>
    subst hn
    match cs with
    | [] => exact nil
    | [c] => exact character c [] rfl nil
    | [c, d] => exact character c [d] rfl (character d [] rfl nil)
    | c :: high :: low :: cs =>
      cases hbyte : byte? c high low with
      | some byte => exact escape c high low byte cs hbyte (ih _ (by simp; omega) cs rfl)
      | none => exact character c _ hbyte (ih _ (by simp) _ rfl)

theorem length_plain_cons (c : Char) (cs : List Char) :
    (plain cs).length < (plain (c :: cs)).length := by
  have hc : 0 < (String.utf8EncodeChar c).length :=
    List.length_pos_iff.2 String.utf8EncodeChar_ne_nil
  rw [plain_cons, List.length_append]
  omega

/-- An escape takes more bytes than it stands for. -/
theorem length_decoded_le (cs : List Char) :
    (decoded cs).length + (if isIn cs then 1 else 0) ≤ (plain cs).length := by
  induction cs using reading with
  | nil => exact Nat.le_refl 0
  | escape c high low byte cs hbyte ih =>
    have hc := length_plain_cons c (high :: low :: cs)
    have hhigh := length_plain_cons high (low :: cs)
    have hlow := length_plain_cons low cs
    rw [decoded_cons_of_byte? hbyte, List.length_cons]
    split at ih <;> split <;> omega
  | character c cs hfirst ih =>
    have hin : isIn (c :: cs) = isIn cs := by rw [isIn, hfirst, Option.isSome_none, Bool.false_or]
    rw [decoded_cons_of_first?_eq_none hfirst, plain_cons, hin, List.length_append,
      List.length_append, Nat.add_assoc]
    exact Nat.add_le_add_left ih _

/-- Decoding leaves characters as they are if and only if there is no escape among them. -/
theorem decoded_eq_plain_iff {cs : List Char} : decoded cs = plain cs ↔ isIn cs = false := by
  constructor
  · intro h
    have hlength := length_decoded_le cs
    rw [h] at hlength
    apply Bool.eq_false_of_not_eq_true
    intro hin
    rw [if_pos hin] at hlength
    omega
  · intro h
    induction cs with
    | nil => rfl
    | cons c cs ih =>
      rw [isIn, Bool.or_eq_false_iff, Option.isSome_eq_false_iff, Option.isNone_iff_eq_none] at h
      rw [decoded_cons_of_first?_eq_none h.1, plain_cons, ih h.2]

/-! ### Escapes that are written -/

/-- A byte is written as two digits that are read as the byte. -/
theorem exists_upperHex (byte : UInt8) :
    ∃ high low, Target.upperHex byte.toNat = [high, low] ∧ byte? '%' high low = some byte := by
  have hall : ∀ n : Fin 256, (Target.upperHex n).length = 2 ∧
      first? ('%' :: Target.upperHex n) = some (UInt8.ofNat n) := by decide +kernel
  obtain ⟨hlength, hbyte⟩ := hall ⟨byte.toNat, byte.toNat_lt⟩
  obtain ⟨high, low, hdigits⟩ := List.length_eq_two.1 hlength
  dsimp only at hdigits hbyte
  rw [hdigits, UInt8.ofNat_toNat] at hbyte
  exact ⟨high, low, hdigits, hbyte⟩

theorem percentEncode_eq_flatMap (c : Char) :
    Target.percentEncode c =
      (String.utf8EncodeChar c).flatMap fun byte ↦ '%' :: Target.upperHex byte.toNat := by
  rw [Target.percentEncode, toList_toUTF8, bytes_eq_flatMap, String.toList_ofList,
    List.flatMap_singleton]

theorem decoded_percentEncode (c : Char) (cs : List Char) :
    decoded (Target.percentEncode c ++ cs) = String.utf8EncodeChar c ++ decoded cs := by
  rw [percentEncode_eq_flatMap]
  induction String.utf8EncodeChar c with
  | nil => rfl
  | cons byte bytes ih =>
    obtain ⟨high, low, hdigits, hbyte⟩ := exists_upperHex byte
    rw [List.flatMap_cons, hdigits, List.append_assoc]
    exact (decoded_cons_of_byte? hbyte _).trans (congrArg (byte :: ·) ih)

variable (kept : Char → Bool)

/-- A character stays or becomes an escape. -/
theorem encode_cons_cases (c : Char) (cs : List Char) :
    Target.encode kept (c :: cs) = c :: Target.encode kept cs ∨
      ∃ rest, Target.encode kept (c :: cs) = '%' :: rest := by
  rw [Target.encode, List.flatMap_cons]
  split
  · exact Or.inl rfl
  · obtain ⟨byte, bytes, hbytes⟩ :=
      List.exists_cons_of_ne_nil (String.utf8EncodeChar_ne_nil (c := c))
    rw [percentEncode_eq_flatMap, hbytes, List.flatMap_cons]
    exact Or.inr ⟨_, rfl⟩

theorem byte?_percent_high (c low : Char) : byte? c '%' low = none := by
  unfold byte?
  split <;> rfl

theorem byte?_percent_low (c high : Char) : byte? c high '%' = none := by
  unfold byte?
  split
  · cases Digits.value? high <;> rfl
  · rfl

/-- What begins no escape still begins none when what follows it is encoded. -/
theorem first?_cons_encode {c : Char} {cs : List Char} (h : first? (c :: cs) = none) :
    first? (c :: Target.encode kept cs) = none := by
  match cs with
  | [] => rfl
  | high :: cs =>
    rcases encode_cons_cases kept high cs with hhigh | ⟨rest, hhigh⟩
    · rw [hhigh]
      match cs with
      | [] => rfl
      | low :: cs =>
        rcases encode_cons_cases kept low cs with hlow | ⟨rest, hlow⟩
        · rw [hlow]
          exact h
        · rw [hlow]
          exact byte?_percent_low c high
    · rw [hhigh]
      cases rest with
      | nil => rfl
      | cons low rest => exact byte?_percent_high c low

/-- Where there were no escapes, what is decoded is what has been encoded. -/
theorem decoded_encode {cs : List Char} (h : isIn cs = false) :
    decoded (Target.encode kept cs) = plain cs := by
  induction cs with
  | nil => rfl
  | cons c cs ih =>
    rw [isIn, Bool.or_eq_false_iff, Option.isSome_eq_false_iff, Option.isNone_iff_eq_none] at h
    rw [Target.encode, List.flatMap_cons]
    change decoded (_ ++ Target.encode kept cs) = _
    split
    · have hfirst := decoded_cons_of_first?_eq_none (first?_cons_encode kept h.1)
      rw [List.singleton_append, hfirst, ih h.2, plain_cons]
    · rw [decoded_percentEncode, ih h.2, plain_cons]

end Escape

/-! ## Addresses -/

structure Address where
  /-- What is between slashes before the query: the scheme with its colon, nothing, the authority,
  and the segments of the path. -/
  segments : List (List Char)
  query? : Option (List Char)
  fragment? : Option (List Char)
  deriving DecidableEq

namespace Address

def ofText (text : String) : Address :=
  let whole := text.toList.takeWhile (· ≠ '#')
  { segments := parts (· = '/') (whole.takeWhile (· ≠ '?'))
    query? := (whole.dropWhile (· ≠ '?')).tail?
    fragment? := (text.toList.dropWhile (· ≠ '#')).tail? }

/-- The address is that of the alarm with the id. -/
structure Names (address : Address) (id : String) : Prop where
  query : address.query? = none
  fragment : address.fragment? = none
  segments : ∃ before last, address.segments = before ++ ["v2".toList, "alarms".toList, last] ∧
    Escape.decoded last = bytes id

/-- Nothing in a text begins a query or a fragment. -/
structure IsUnmarked (text : String) : Prop where
  query : '?' ∉ text.toList
  fragment : '#' ∉ text.toList

instance : DecidablePred IsUnmarked := fun text ↦
  decidable_of_iff ('?' ∉ text.toList ∧ '#' ∉ text.toList)
    ⟨fun ⟨query, fragment⟩ ↦ ⟨query, fragment⟩, fun h ↦ ⟨h.query, h.fragment⟩⟩

/-- A text is a segment as it stands. -/
structure IsPlain (text : String) : Prop extends IsUnmarked text where
  slash : '/' ∉ text.toList
  escape : Escape.isIn text.toList = false

instance : DecidablePred IsPlain := fun text ↦
  decidable_of_iff (IsUnmarked text ∧ '/' ∉ text.toList ∧ Escape.isIn text.toList = false)
    ⟨fun ⟨unmarked, slash, escape⟩ ↦ ⟨unmarked, slash, escape⟩,
      fun h ↦ ⟨h.toIsUnmarked, h.slash, h.escape⟩⟩

theorem tail?_dropWhile_eq_none_iff {c : Char} {cs : List Char} :
    (cs.dropWhile (· ≠ c)).tail? = none ↔ c ∉ cs := by
  constructor
  · intro h hmem
    cases hdrop : cs.dropWhile (· ≠ c) with
    | nil => simpa using List.dropWhile_eq_nil_iff.1 hdrop c hmem
    | cons d rest =>
      rw [hdrop] at h
      cases h
  · intro h
    have hall : cs.dropWhile (· ≠ c) = [] := by
      rw [List.dropWhile_eq_nil_iff]
      intro d hd
      exact decide_eq_true fun heq ↦ h (heq ▸ hd)
    rw [hall]
    rfl

theorem takeWhile_ne_of_notMem {c : Char} {cs : List Char} (h : c ∉ cs) :
    cs.takeWhile (· ≠ c) = cs := by
  rw [List.takeWhile_eq_self_iff]
  intro d hd
  exact decide_eq_true fun heq ↦ h (heq ▸ hd)

theorem isUnmarked_append {left right : String} :
    IsUnmarked (left ++ right) ↔ IsUnmarked left ∧ IsUnmarked right := by
  constructor
  · intro h
    have hquery := h.query
    have hfragment := h.fragment
    rw [String.toList_append, List.mem_append, not_or] at hquery hfragment
    exact ⟨⟨hquery.1, hfragment.1⟩, hquery.2, hfragment.2⟩
  · rintro ⟨hleft, hright⟩
    refine ⟨?_, ?_⟩
    · rw [String.toList_append, List.mem_append]
      exact not_or.2 ⟨hleft.query, hright.query⟩
    · rw [String.toList_append, List.mem_append]
      exact not_or.2 ⟨hleft.fragment, hright.fragment⟩

/-- A text is all segments just if nothing in it begins a query or a fragment. -/
theorem isUnmarked_iff {text : String} :
    (ofText text).query? = none ∧ (ofText text).fragment? = none ↔ IsUnmarked text := by
  rw [ofText, tail?_dropWhile_eq_none_iff, tail?_dropWhile_eq_none_iff]
  constructor
  · rintro ⟨hquery, hfragment⟩
    rw [takeWhile_ne_of_notMem hfragment] at hquery
    exact ⟨hquery, hfragment⟩
  · rintro ⟨hquery, hfragment⟩
    rw [takeWhile_ne_of_notMem hfragment]
    exact ⟨hquery, hfragment⟩

theorem segments_of_isUnmarked {text : String} (h : IsUnmarked text) :
    (ofText text).segments = parts (· = '/') text.toList := by
  rw [ofText, takeWhile_ne_of_notMem h.fragment, takeWhile_ne_of_notMem h.query]

/-- What stands behind the last slash. -/
theorem exists_last_of_mem {c : Char} {cs : List Char} (h : c ∈ cs) :
    ∃ front last, cs = front ++ c :: last ∧ c ∉ last := by
  obtain ⟨front, last, hcs, hlast⟩ := List.eq_append_cons_of_mem (List.mem_reverse.2 h)
  refine ⟨last.reverse, front.reverse, ?_, fun hmem ↦ hlast (List.mem_reverse.1 hmem)⟩
  rw [← List.reverse_reverse cs, hcs]
  simp

theorem parts_of_notMem {cs : List Char} (h : '/' ∉ cs) : parts (· = '/') cs = [cs] := by
  apply parts_of_forall
  intro c hc
  exact decide_eq_false fun heq ↦ h (heq ▸ hc)

/-- Behind the last slash of a text there are too few characters to stand for all of it. -/
theorem decoded_ne_of_slash {text : String} (h : '/' ∈ text.toList) {before : List (List Char)}
    {last : List Char} (hparts : parts (· = '/') text.toList = before ++ [last]) :
    Escape.decoded last ≠ bytes text := by
  obtain ⟨front, rest, htext, hrest⟩ := exists_last_of_mem h
  rw [htext, parts_append_cons rfl, parts_of_notMem hrest] at hparts
  obtain rfl : rest = last := by simpa using (List.append_inj' hparts rfl).2
  intro hdecoded
  have hlength := congrArg List.length hdecoded
  have hle := Escape.length_decoded_le rest
  have hlt := Escape.length_plain_cons '/' rest
  rw [bytes_eq_flatMap, htext, List.flatMap_append, List.length_append] at hlength
  change _ = _ + (Escape.plain ('/' :: rest)).length at hlength
  omega

/-! ### Addresses of alarms -/

section Alarm

variable {base id : String}

theorem isUnmarked_alarm :
    IsUnmarked (base ++ "/v2/alarms/" ++ id) ↔ IsUnmarked base ∧ IsUnmarked id := by
  have hbetween : IsUnmarked "/v2/alarms/" := ⟨by decide, by decide⟩
  rw [isUnmarked_append, isUnmarked_append, and_iff_left hbetween]

theorem segments_alarm (h : IsUnmarked (base ++ "/v2/alarms/" ++ id)) :
    (ofText (base ++ "/v2/alarms/" ++ id)).segments =
      parts (· = '/') base.toList ++ ["v2".toList, "alarms".toList] ++
        parts (· = '/') id.toList := by
  have htext : (base ++ "/v2/alarms/" ++ id).toList =
      base.toList ++ '/' :: ("v2".toList ++ '/' :: ("alarms".toList ++ '/' :: id.toList)) := by
    rw [String.toList_append, String.toList_append, List.append_assoc]
    rfl
  rw [segments_of_isUnmarked h, htext, parts_append_cons rfl, parts_append_cons rfl,
    parts_append_cons rfl, List.append_assoc]
  rfl

/-- The last segment is what stands behind the last slash of the id. -/
theorem exists_parts_eq_append {before : List (List Char)} {last : List Char}
    (h : IsUnmarked (base ++ "/v2/alarms/" ++ id))
    (hsegments : (ofText (base ++ "/v2/alarms/" ++ id)).segments =
      before ++ ["v2".toList, "alarms".toList, last]) :
    ∃ others, parts (· = '/') id.toList = others ++ [last] := by
  obtain ⟨others, part, hends⟩ :=
    (List.eq_nil_or_concat (parts (· = '/') id.toList)).resolve_left (parts_ne_nil _)
  rw [List.concat_eq_append] at hends
  have hsplit : before ++ ["v2".toList, "alarms".toList, last] =
      before ++ ["v2".toList, "alarms".toList] ++ [last] := by
    rw [List.append_assoc]
    rfl
  rw [segments_alarm h, hends, hsplit, ← List.append_assoc] at hsegments
  have hpart : [part] = [last] := (List.append_inj' hsegments rfl).2
  rw [hpart] at hends
  exact ⟨others, hends⟩

/-- The address of an alarm is its id behind the address of all alarms, and it names the id just
when the former has neither a query nor a fragment and the latter is plain. -/
theorem names_iff :
    (ofText (base ++ "/v2/alarms/" ++ id)).Names id ↔ IsUnmarked base ∧ IsPlain id := by
  constructor
  · rintro ⟨hquery, hfragment, before, last, hsegments, hlast⟩
    have htext := isUnmarked_iff.1 ⟨hquery, hfragment⟩
    obtain ⟨hbase, hid⟩ := isUnmarked_alarm.1 htext
    obtain ⟨others, hends⟩ := exists_parts_eq_append htext hsegments
    have hslash : '/' ∉ id.toList := fun hmem ↦ decoded_ne_of_slash hmem hends hlast
    rw [parts_of_notMem hslash, ← List.nil_append [id.toList]] at hends
    have hwhole : [id.toList] = [last] := (List.append_inj' hends rfl).2
    rw [← List.head_eq_of_cons_eq hwhole, bytes_eq_flatMap] at hlast
    exact ⟨hbase, hid, hslash, Escape.decoded_eq_plain_iff.1 hlast⟩
  · rintro ⟨hbase, hid⟩
    have htext := isUnmarked_alarm.2 ⟨hbase, hid.toIsUnmarked⟩
    obtain ⟨hquery, hfragment⟩ := isUnmarked_iff.2 htext
    refine ⟨hquery, hfragment, parts (· = '/') base.toList, id.toList, ?_, ?_⟩
    · rw [segments_alarm htext, parts_of_notMem hid.slash, List.append_assoc]
      rfl
    · rw [bytes_eq_flatMap]
      exact Escape.decoded_eq_plain_iff.2 hid.escape

end Alarm

end Address

end MeteringAlarms.Http
