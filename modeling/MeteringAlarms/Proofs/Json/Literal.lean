import MeteringAlarms.Json.Document
import MeteringAlarms.Json.Printer
import MeteringAlarms.Proofs.Data.Digits
import MeteringAlarms.Proofs.Data.Text

/-!
# Literals that are read again

A string is read as it is written, whatever its characters are.  A number is written in decimal, and
whether that is read as the same number is left to `Number.IsExact`.  A literal is read alike
wherever it stands, as long as what follows it cannot continue it.
-/

namespace MeteringAlarms

namespace Document

open Text

/-! ## Strings -/

/-- Puts a unit before the units that are read. -/
def withUnit (unit : Nat) (read? : Option (List Nat × List Char)) :
    Option (List Nat × List Char) :=
  read?.map fun (units, rest) ↦ (unit :: units, rest)

theorem readUnits_plain {c : Char} (rest : List Char) (hquote : c ≠ '"') (hslash : c ≠ '\\')
    (hspace : ¬c.toNat < 0x20) : readUnits (c :: rest) = withUnit c.toNat (readUnits rest) := by
  rw [readUnits.eq_def]
  split
  · simp_all
  · simp_all
  · simp_all
  · simp_all
  · rename_i heq
    cases heq
    rw [if_neg (by simp [hslash, hspace])]
    cases readUnits rest <;> rfl

/-- A character that has an escape of one letter. -/
theorem readUnits_escaped {letter c : Char} (rest : List Char) (hletter : escape? letter = some c)
    (hu : letter ≠ 'u') :
    readUnits ('\\' :: letter :: rest) = withUnit c.toNat (readUnits rest) := by
  rw [readUnits.eq_def]
  split
  · simp_all
  · simp_all
  · simp_all
  · rename_i heq
    cases heq
    rw [hletter]
    cases readUnits rest <;> rfl
  · rename_i hnone heq
    cases heq
    exact absurd rfl (hnone letter rest rfl)

theorem readUnits_hex {c : Char} (rest : List Char) (hspace : c.toNat < 0x20) :
    readUnits ('\\' :: 'u' :: (Digits.hex 4 c.toNat ++ rest)) =
      withUnit c.toNat (readUnits rest) := by
  have hunit := Digits.ofBase?_hex_four c.toNat hspace
  rw [Digits.hex_four c.toNat hspace, List.cons_append, List.cons_append, List.cons_append,
    List.cons_append, List.nil_append, readUnits, hunit]
  cases readUnits rest <;> rfl

/-- The characters that have an escape of one letter. -/
def lettered : List Char := ['"', '\\', '\x08', '\x0c', '\n', '\r', '\t']

theorem readUnits_escapeChar (c : Char) (rest : List Char) :
    readUnits (Json.escapeChar c ++ rest) = withUnit c.toNat (readUnits rest) := by
  by_cases hc : c ∈ lettered
  · have hletter : ∃ letter, Json.escapeChar c = ['\\', letter] ∧ escape? letter = some c ∧
        letter ≠ 'u' := by
      simp only [lettered, List.mem_cons, List.not_mem_nil, or_false] at hc
      rcases hc with rfl | rfl | rfl | rfl | rfl | rfl | rfl <;> exact ⟨_, rfl, rfl, by decide⟩
    obtain ⟨letter, hescape, hletter, hu⟩ := hletter
    rw [hescape]
    exact readUnits_escaped rest hletter hu
  · simp only [lettered, List.mem_cons, List.not_mem_nil, or_false, not_or] at hc
    obtain ⟨hquote, hslash, hbackspace, hfeed, hline, hreturn, htab⟩ := hc
    rw [Json.escapeChar, if_neg hquote, if_neg hslash, if_neg hbackspace, if_neg hfeed,
      if_neg hline, if_neg hreturn, if_neg htab]
    split
    · rename_i hspace
      exact readUnits_hex rest hspace
    · rename_i hspace
      exact readUnits_plain rest hquote hslash hspace

theorem readUnits_flatMap_escapeChar (cs rest : List Char) :
    readUnits (cs.flatMap Json.escapeChar ++ '"' :: rest) = some (cs.map Char.toNat, rest) := by
  induction cs with
  | nil => rw [List.flatMap_nil, List.nil_append, readUnits, List.map_nil]
  | cons c cs ih =>
    rw [List.flatMap_cons, List.append_assoc, readUnits_escapeChar, ih]
    rfl

/-- Code points of characters are no surrogates. -/
theorem joinSurrogates?_map_toNat (cs : List Char) :
    joinSurrogates? (cs.map Char.toNat) = some cs := by
  induction cs with
  | nil => rfl
  | cons c cs ih =>
    have hvalid : c.toNat < 0xD800 ∨ 0xDFFF < c.toNat ∧ c.toNat < 0x110000 := c.valid
    have hhigh : isHighSurrogate c.toNat = false := by
      unfold isHighSurrogate
      simp
      omega
    have hlow : isLowSurrogate c.toNat = false := by
      unfold isLowSurrogate
      simp
      omega
    rw [List.map_cons, joinSurrogates?.eq_def]
    dsimp only
    rw [hhigh, hlow, if_neg Bool.false_ne_true,
      if_neg Bool.false_ne_true, ih, Char.ofNat_toNat]
    rfl

/-- What follows the opening quote of a string. -/
theorem readString_flatMap_escapeChar (s : String) (rest : List Char) :
    readString (s.toList.flatMap Json.escapeChar ++ '"' :: rest) = some (some s, rest) := by
  rw [readString, readUnits_flatMap_escapeChar]
  change some ((joinSurrogates? (s.toList.map Char.toNat)).map String.ofList, rest) = _
  rw [joinSurrogates?_map_toNat, Option.map_some, String.ofList_toList]

/-! ## Numbers -/

/-- A character that can continue a number. -/
def continuesNumber (c : Char) : Bool :=
  c.isDigit || c = '.' || c = 'e' || c = 'E'

/-- The text ends, or goes on with a character that cannot continue a number. -/
def EndsNumber (rest : List Char) : Prop :=
  ∀ c ∈ rest.head?, continuesNumber c = false

/-- Splits a sign off the digits of an exponent. -/
def splitSign (cs : List Char) : Bool × List Char :=
  match cs with
  | '-' :: rest => (true, rest)
  | '+' :: rest => (false, rest)
  | _ => (false, cs)

/-- Splits a minus off a number. -/
def splitMinus (cs : List Char) : Bool × List Char :=
  match cs with
  | '-' :: rest => (true, rest)
  | _ => (false, cs)

/-- The exponent whose sign is split off. -/
def readSigned (signed : Bool × List Char) : Option (Option Int × List Char) :=
  (readDigits signed.2).map fun (digits, rest) ↦
    let n : Int := Digits.ofDecimal digits
    (some (if signed.1 then -n else n), rest)

/-- The number whose minus is split off. -/
def readMagnitude (signed : Bool × List Char) : Option (Option Number × List Char) := do
  let (digits, cs) ← readIntegerDigits signed.2
  let (fraction?, cs) ← readFraction cs
  let (exponent?, cs) ← readExponent cs
  some (Number.ofLiteral? signed.1 digits fraction? exponent?, cs)

theorem readExponent_of_letter {c : Char} (rest : List Char) (hletter : c = 'e' ∨ c = 'E') :
    readExponent (c :: rest) = readSigned (splitSign rest) :=
  if_pos hletter

theorem readExponent_of_not_letter {c : Char} (rest : List Char) (hletter : ¬(c = 'e' ∨ c = 'E')) :
    readExponent (c :: rest) = some (none, c :: rest) :=
  if_neg hletter

theorem readNumber_eq (cs : List Char) : readNumber cs = readMagnitude (splitMinus cs) :=
  rfl

section Append

variable {cs after rest : List Char}

variable (hrest : EndsNumber rest)
include hrest

theorem EndsNumber.isDigit_eq_false : ∀ c ∈ rest.head?, c.isDigit = false := by
  intro c hc
  have hcontinues := hrest c hc
  simp only [continuesNumber, Bool.or_eq_false_iff] at hcontinues
  exact hcontinues.1.1.1

theorem readDigits_append {digits : List Char} (h : readDigits cs = some (digits, after)) :
    readDigits (cs ++ rest) = some (digits, after ++ rest) := by
  unfold readDigits at h ⊢
  rw [takeWhile_append_of_head? hrest.isDigit_eq_false,
    dropWhile_append_of_head? hrest.isDigit_eq_false]
  split at h
  · cases h
  · cases h
    rfl

theorem readIntegerDigits_append {digits : List Char}
    (h : readIntegerDigits cs = some (digits, after)) :
    readIntegerDigits (cs ++ rest) = some (digits, after ++ rest) := by
  unfold readIntegerDigits at h
  split at h
  · cases h
    rfl
  · rename_i c tail hzero
    split at h
    · rename_i hdigit
      cases h
      rw [List.cons_append, readIntegerDigits.eq_def]
      split
      · rename_i heq
        cases heq
        exact (hzero rfl).elim
      · rename_i heq
        cases heq
        rw [if_pos hdigit, ← List.cons_append,
          takeWhile_append_of_head? hrest.isDigit_eq_false,
          dropWhile_append_of_head? hrest.isDigit_eq_false]
      · rename_i heq
        cases heq
    · cases h
  · cases h

theorem readFraction_append {fraction? : Option (List Char)}
    (h : readFraction cs = some (fraction?, after)) :
    readFraction (cs ++ rest) = some (fraction?, after ++ rest) := by
  unfold readFraction at h ⊢
  split at h
  · rename_i tail
    obtain ⟨⟨digits, after'⟩, hdigits, heq⟩ := Option.map_eq_some_iff.1 h
    cases heq
    change Option.map _ (readDigits (tail ++ rest)) = _
    rw [readDigits_append hrest hdigits]
    rfl
  · rename_i hpoint
    cases h
    split
    · rename_i tail heq
      cases cs with
      | nil =>
        rw [List.nil_append] at heq
        exact absurd (hrest '.' (by rw [heq]; rfl)) (by decide)
      | cons c cs =>
        cases heq
        exact absurd rfl (hpoint cs)
    · rfl

omit hrest in
theorem splitSign_append (hcs : cs ≠ []) :
    splitSign (cs ++ rest) = ((splitSign cs).1, (splitSign cs).2 ++ rest) := by
  obtain ⟨c, tail, rfl⟩ := List.exists_cons_of_ne_nil hcs
  unfold splitSign
  split <;> split <;> simp_all

omit hrest in
theorem splitMinus_append (hcs : cs ≠ []) :
    splitMinus (cs ++ rest) = ((splitMinus cs).1, (splitMinus cs).2 ++ rest) := by
  obtain ⟨c, tail, rfl⟩ := List.exists_cons_of_ne_nil hcs
  unfold splitMinus
  split <;> split <;> simp_all

theorem readExponent_append {exponent? : Option Int}
    (h : readExponent cs = some (exponent?, after)) :
    readExponent (cs ++ rest) = some (exponent?, after ++ rest) := by
  cases cs with
  | nil =>
    cases h
    cases rest with
    | nil => rfl
    | cons c rest =>
      have hcontinues := hrest c rfl
      simp only [continuesNumber, Bool.or_eq_false_iff, decide_eq_false_iff_not] at hcontinues
      exact readExponent_of_not_letter rest (not_or.2 ⟨hcontinues.1.2, hcontinues.2⟩)
  | cons c tail =>
    rw [List.cons_append]
    by_cases hletter : c = 'e' ∨ c = 'E'
    · rw [readExponent_of_letter tail hletter] at h
      -- The sign is told by the first character, and there is one, as digits follow it.
      have htail : tail ≠ [] := by
        rintro rfl
        cases h
      obtain ⟨⟨digits, after'⟩, hdigits, heq⟩ := Option.map_eq_some_iff.1 h
      cases heq
      rw [readExponent_of_letter _ hletter, splitSign_append htail, readSigned,
        readDigits_append hrest hdigits]
      rfl
    · rw [readExponent_of_not_letter tail hletter] at h
      cases h
      exact readExponent_of_not_letter _ hletter

/-- A number is read alike before whatever cannot continue it. -/
theorem readNumber_append {value? : Option Number} (h : readNumber cs = some (value?, after)) :
    readNumber (cs ++ rest) = some (value?, after ++ rest) := by
  have hcs : cs ≠ [] := by
    rintro rfl
    cases h
  rw [readNumber_eq] at h
  obtain ⟨⟨digits, cs₁⟩, hdigits, h⟩ := Option.bind_eq_some_iff.1 h
  obtain ⟨⟨fraction?, cs₂⟩, hfraction, h⟩ := Option.bind_eq_some_iff.1 h
  obtain ⟨⟨exponent?, cs₃⟩, hexponent, h⟩ := Option.bind_eq_some_iff.1 h
  cases h
  rw [readNumber_eq, splitMinus_append hcs, readMagnitude, readIntegerDigits_append hrest hdigits]
  change (readFraction (cs₁ ++ rest) >>= _) = _
  rw [readFraction_append hrest hfraction]
  change (readExponent (cs₂ ++ rest) >>= _) = _
  rw [readExponent_append hrest hexponent]
  rfl

end Append

/-! ## Decimals -/

/-- The digits before the point of a number. -/
inductive IsWhole : List Char → Prop
  | zero : IsWhole ['0']
  | leading {c : Char} {cs : List Char} (digits : ∀ d ∈ c :: cs, d.isDigit = true)
      (nonzero : c ≠ '0') : IsWhole (c :: cs)

/-- A text is a number without its sign, with nothing behind it. -/
def IsMagnitude (cs : List Char) : Prop :=
  ∀ negative, ∃ value?, readMagnitude (negative, cs) = some (value?, [])

section Decimals

variable {digits fraction tail : List Char}

theorem isWhole_decimal (n : Nat) : IsWhole (Digits.decimal n) := by
  rcases Nat.eq_zero_or_pos n with rfl | hn
  · exact .zero
  · have hall : ∀ c ∈ Digits.decimal n, c.isDigit = true := fun _ ↦ Digits.isDigit_of_mem_decimal
    obtain ⟨c, cs, hcs, hc⟩ := Digits.exists_decimal_eq_cons hn
    rw [hcs] at hall ⊢
    exact .leading hall hc

theorem IsWhole.readIntegerDigits_append (h : IsWhole digits)
    (htail : ∀ c ∈ tail.head?, c.isDigit = false) :
    readIntegerDigits (digits ++ tail) = some (digits, tail) := by
  cases h with
  | zero => rfl
  | @leading c cs hdigits hc =>
    rw [readIntegerDigits.eq_def]
    split
    · rename_i heq
      cases heq
      exact absurd rfl hc
    · rename_i heq
      cases heq
      rw [if_pos (hdigits c List.mem_cons_self), takeWhile_append_of_head? htail,
        dropWhile_append_of_head? htail, List.takeWhile_eq_self_iff.2 hdigits,
        List.dropWhile_eq_nil_iff.2 hdigits]
      rfl
    · rename_i heq
      cases heq

theorem readDigits_append_of_forall (hdigits : ∀ d ∈ digits, d.isDigit = true)
    (hne : digits ≠ []) (htail : ∀ c ∈ tail.head?, c.isDigit = false) :
    readDigits (digits ++ tail) = some (digits, tail) := by
  rw [readDigits, takeWhile_append_of_head? htail, dropWhile_append_of_head? htail,
    List.takeWhile_eq_self_iff.2 hdigits, List.dropWhile_eq_nil_iff.2 hdigits]
  split
  · exact absurd rfl hne
  · rfl

theorem readIntegerDigits_decimal (n : Nat) :
    readIntegerDigits (Digits.decimal n) = some (Digits.decimal n, []) := by
  have hread : readIntegerDigits (Digits.decimal n ++ []) = some (Digits.decimal n, []) :=
    (isWhole_decimal n).readIntegerDigits_append nofun
  rwa [List.append_nil] at hread

theorem readMagnitude_decimal (negative : Bool) (n : Nat) :
    readMagnitude (negative, Digits.decimal n) =
      some (Number.ofLiteral? negative (Digits.decimal n) none none, []) := by
  rw [readMagnitude, readIntegerDigits_decimal]
  rfl

theorem exists_readExponent_power (negative : Bool) (power : Nat) :
    ∃ exponent?, readExponent ('e' :: (if negative then '-' else '+') :: Digits.decimal power) =
      some (exponent?, []) := by
  have hne : Digits.decimal power ≠ [] := by
    intro hnil
    have hread := readIntegerDigits_decimal power
    rw [hnil] at hread
    cases hread
  have hdigits : readDigits (Digits.decimal power) = some (Digits.decimal power, []) := by
    have hread : readDigits (Digits.decimal power ++ []) = some (Digits.decimal power, []) :=
      readDigits_append_of_forall (fun _ ↦ Digits.isDigit_of_mem_decimal) hne nofun
    rwa [List.append_nil] at hread
  have hsigned (signed : Bool) : readSigned (signed, Digits.decimal power) =
      some (some (if signed then -(Digits.ofDecimal (Digits.decimal power) : Int)
        else Digits.ofDecimal (Digits.decimal power)), []) := by
    rw [readSigned, hdigits]
    rfl
  rw [readExponent_of_letter _ (Or.inl rfl)]
  cases negative with
  | true => exact ⟨_, hsigned true⟩
  | false => exact ⟨_, hsigned false⟩

variable (hwhole : IsWhole digits) (hend : ∀ c ∈ tail.head?, c.isDigit = false)
  {exponent? : Option Int} (hexponent : readExponent tail = some (exponent?, []))
include hwhole hend hexponent

theorem readMagnitude_whole (hpoint : ∀ c ∈ tail.head?, c ≠ '.') (negative : Bool) :
    readMagnitude (negative, digits ++ tail) =
      some (Number.ofLiteral? negative digits none exponent?, []) := by
  have hfraction : readFraction tail = some (none, tail) := by
    unfold readFraction
    split
    · exact absurd rfl (hpoint '.' rfl)
    · rfl
  rw [readMagnitude, hwhole.readIntegerDigits_append hend]
  change (readFraction tail >>= _) = _
  rw [hfraction]
  change (readExponent tail >>= _) = _
  rw [hexponent]
  rfl

theorem readMagnitude_point (hdigits : ∀ d ∈ fraction, d.isDigit = true) (hne : fraction ≠ [])
    (negative : Bool) :
    readMagnitude (negative, digits ++ '.' :: (fraction ++ tail)) =
      some (Number.ofLiteral? negative digits (some fraction) exponent?, []) := by
  have hfraction : readFraction ('.' :: (fraction ++ tail)) = some (some fraction, tail) := by
    change Option.map _ (readDigits (fraction ++ tail)) = _
    rw [readDigits_append_of_forall hdigits hne hend]
    rfl
  have hbefore : ∀ c ∈ ('.' :: (fraction ++ tail)).head?, c.isDigit = false := by
    rintro c ⟨⟩
    rfl
  rw [readMagnitude, hwhole.readIntegerDigits_append hbefore]
  change (readFraction ('.' :: (fraction ++ tail)) >>= _) = _
  rw [hfraction]
  change (readExponent tail >>= _) = _
  rw [hexponent]
  rfl

omit hend hexponent in
theorem isMagnitude_point (hdigits : ∀ d ∈ fraction, d.isDigit = true) (hne : fraction ≠ []) :
    IsMagnitude (digits ++ '.' :: fraction) := by
  intro negative
  have hend : ∀ c ∈ ([] : List Char).head?, c.isDigit = false := nofun
  have hread := readMagnitude_point hwhole hend rfl hdigits hne negative
  rw [List.append_nil] at hread
  exact ⟨_, hread⟩

end Decimals

/-- A sign in front tells which of the two numbers of a magnitude is meant. -/
theorem readNumber_signed {negative : Bool} {cs : List Char} {read : Option Number × List Char}
    (h : readMagnitude (negative, cs) = some read) :
    readNumber ((if negative then ['-'] else []) ++ cs) = some read := by
  cases negative with
  | true => exact h
  | false =>
    have hsplit : splitMinus cs = (false, cs) := by
      unfold splitMinus
      split
      · cases h
      · rfl
    rw [if_neg Bool.false_ne_true, List.nil_append, readNumber_eq, hsplit, h]

/-- The mantissa and the power of ten of a written double. -/
theorem isMagnitude_scientific {c : Char} {cs : List Char}
    (hdigits : ∀ d ∈ c :: cs, d.isDigit = true) (hc : c ≠ '0') (power : Int) :
    IsMagnitude ((match c :: cs with
        | d :: e :: rest => d :: '.' :: e :: rest
        | short => short) ++
      'e' :: (if power < 0 then '-' else '+') :: Digits.decimal power.natAbs) := by
  intro negative
  have hwhole : IsWhole [c] :=
    .leading (List.forall_mem_singleton.2 (hdigits c List.mem_cons_self)) hc
  obtain ⟨exponent?, hexponent⟩ := exists_readExponent_power (power < 0) power.natAbs
  simp only [decide_eq_true_eq] at hexponent
  have hend : ∀ c ∈ ('e' :: (if power < 0 then '-' else '+') ::
      Digits.decimal power.natAbs).head?, c.isDigit = false := by
    rintro c ⟨⟩
    rfl
  cases cs with
  | nil =>
    refine ⟨_, readMagnitude_whole hwhole hend hexponent ?_ negative⟩
    rintro c ⟨⟩
    decide
  | cons d cs =>
    exact ⟨_, readMagnitude_point hwhole hend hexponent
      (fun e he ↦ hdigits e (List.mem_cons_of_mem c he)) (List.cons_ne_nil d cs) negative⟩

end Document

namespace Binary64

open Document

/-- The written form of a double is a number, whichever it is. -/
theorem exists_toChars_eq (x : Binary64) :
    ∃ body, x.toChars = (if x.negative then ['-'] else []) ++ body ∧ IsMagnitude body := by
  unfold toChars
  generalize x.shortest = shortest
  obtain ⟨n, exponent⟩ := shortest
  dsimp only
  by_cases hzero : n = 0
  · rw [if_pos hzero]
    have hbody : IsMagnitude (['0'] ++ '.' :: ['0']) :=
      isMagnitude_point .zero (List.forall_mem_singleton.2 rfl) (by decide)
    exact ⟨_, rfl, hbody⟩
  have hall : ∀ c ∈ Digits.decimal n, c.isDigit = true := fun _ ↦ Digits.isDigit_of_mem_decimal
  have hzeros (k : Nat) : ∀ c ∈ List.replicate k '0', c.isDigit = true := by
    intro c hc
    rw [List.eq_of_mem_replicate hc]
    rfl
  obtain ⟨first, others, hdecimal, hfirst⟩ :=
    Digits.exists_decimal_eq_cons (Nat.pos_of_ne_zero hzero)
  rw [hdecimal] at hall
  rw [if_neg hzero, hdecimal]
  refine ⟨_, rfl, ?_⟩
  split
  · rename_i hposition
    split
    · change IsMagnitude (['0'] ++ '.' :: _)
      refine isMagnitude_point .zero ?_ (by simp)
      exact List.forall_mem_append.2 ⟨hzeros _, hall⟩
    · rename_i hpoint
      split
      · refine isMagnitude_point ?_ (List.forall_mem_singleton.2 rfl) (by decide)
        exact .leading (List.forall_mem_append.2 ⟨hall, hzeros _⟩) hfirst
      · rename_i hfraction
        -- The point stands behind the first digit and before the last one.
        obtain ⟨place, hplace⟩ :
            ∃ place, ((first :: others).length + exponent).toNat = place + 1 :=
          Nat.exists_eq_succ_of_ne_zero (by omega)
        rw [hplace]
        refine isMagnitude_point ?_ (fun c hc ↦ hall c (List.mem_of_mem_drop hc)) ?_
        · exact .leading (fun c hc ↦ hall c (List.mem_of_mem_take (i := place + 1) hc)) hfirst
        · rw [Ne, List.drop_eq_nil_iff]
          omega
  · exact isMagnitude_scientific hall hfirst _

end Binary64

namespace Number

/-- The number is written so that it is read as itself. -/
def IsExact (number : Number) : Prop :=
  Document.readNumber (Json.numberChars number) = some (some number, [])

instance (number : Number) : Decidable number.IsExact :=
  inferInstanceAs (Decidable (_ = _))

/-- The number that the written form of a number denotes, if it denotes one. -/
def reread? (number : Number) : Option Number :=
  (Document.readNumber (Json.numberChars number)).bind Prod.fst

theorem IsExact.reread? {number : Number} (h : number.IsExact) :
    number.reread? = some number := by
  rw [Number.reread?, h]
  rfl

/-- Whatever a number is read as, all of its written form is read. -/
theorem readNumber_numberChars (number : Number) :
    Document.readNumber (Json.numberChars number) = some (number.reread?, []) := by
  suffices hread : ∃ value?, Document.readNumber (Json.numberChars number) = some (value?, []) by
    obtain ⟨value?, hread⟩ := hread
    rw [reread?, hread]
    rfl
  cases number with
  | int value =>
    have hread := Document.readNumber_signed
      (Document.readMagnitude_decimal (value < 0) value.natAbs)
    simp only [decide_eq_true_eq] at hread
    exact ⟨_, hread⟩
  | float value =>
    obtain ⟨body, hchars, hbody⟩ := value.exists_toChars_eq
    obtain ⟨value?, hread⟩ := hbody value.negative
    refine ⟨value?, ?_⟩
    rw [Json.numberChars, hchars]
    exact Document.readNumber_signed hread

/-- A number begins with a minus or a digit. -/
theorem exists_numberChars_eq_cons (number : Number) :
    ∃ c cs, Json.numberChars number = c :: cs ∧ (c = '-' ∨ c.isDigit = true) := by
  have h := number.readNumber_numberChars
  rw [Document.readNumber_eq] at h
  obtain ⟨⟨digits, cs₁⟩, hdigits, -⟩ := Option.bind_eq_some_iff.1 h
  generalize Json.numberChars number = cs at hdigits
  unfold Document.splitMinus at hdigits
  split at hdigits
  · exact ⟨_, _, rfl, .inl rfl⟩
  · unfold Document.readIntegerDigits at hdigits
    split at hdigits
    · exact ⟨_, _, ‹_›, .inr (by decide)⟩
    · split at hdigits
      · exact ⟨_, _, ‹_›, .inr ‹_›⟩
      · cases hdigits
    · cases hdigits

end Number

end MeteringAlarms
