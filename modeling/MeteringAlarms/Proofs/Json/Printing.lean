import MeteringAlarms.Proofs.Json.Literal

/-!
# Indented texts that are read again

The indented text of a value is read as a document that differs from the value in its numbers at
most, at any indentation and before any text that cannot continue a number.  Nothing bounds the
nesting here: the bound comes in where a document is given its value.
-/

namespace MeteringAlarms

namespace Json

mutual

/-- The numbers at every depth of a value are written so that they are read as themselves. -/
def NumbersExact : Json → Prop
  | .number value => value.IsExact
  | .array items => NumbersExactItems items
  | .object entries => NumbersExactEntries entries
  | _ => True

def NumbersExactItems : List Json → Prop
  | [] => True
  | item :: items => NumbersExact item ∧ NumbersExactItems items

def NumbersExactEntries : List (String × Json) → Prop
  | [] => True
  | (_, value) :: entries => NumbersExact value ∧ NumbersExactEntries entries

end

mutual

def decidableNumbersExact : (value : Json) → Decidable value.NumbersExact
  | .null | .bool _ | .string _ => .isTrue trivial
  | .number value => inferInstanceAs (Decidable value.IsExact)
  | .array items => decidableNumbersExactItems items
  | .object entries => decidableNumbersExactEntries entries

def decidableNumbersExactItems : (items : List Json) → Decidable (NumbersExactItems items)
  | [] => .isTrue trivial
  | item :: items =>
    have := decidableNumbersExact item
    have := decidableNumbersExactItems items
    inferInstanceAs (Decidable (_ ∧ _))

def decidableNumbersExactEntries :
    (entries : List (String × Json)) → Decidable (NumbersExactEntries entries)
  | [] => .isTrue trivial
  | (_, value) :: entries =>
    have := decidableNumbersExact value
    have := decidableNumbersExactEntries entries
    inferInstanceAs (Decidable (_ ∧ _))

end

instance : DecidablePred NumbersExact := decidableNumbersExact

end Json

namespace Document

open Json

mutual

/-- The document as which the indented text of a value is read. -/
def written : Json → Document
  | .null => .null
  | .bool value => .bool value
  | .number value => .number value.reread?
  | .string value => .string (some value)
  | .array items => .array (writtenItems items)
  | .object entries => .object (writtenEntries entries)

def writtenItems : List Json → List Document
  | [] => []
  | item :: items => written item :: writtenItems items

def writtenEntries : List (String × Json) → List (Option String × Document)
  | [] => []
  | (name, value) :: entries => (some name, written value) :: writtenEntries entries

end

mutual

/-- Where numbers are exact, a value is read as its own document. -/
theorem written_of_numbersExact (value : Json) (h : value.NumbersExact) :
    written value = ofJson value := by
  match value with
  | .null | .bool _ | .string _ => rfl
  | .number value => rw [written, ofJson, Number.IsExact.reread? h]
  | .array items => rw [written, ofJson, writtenItems_of_numbersExact items h]
  | .object entries => rw [written, ofJson, writtenEntries_of_numbersExact entries h]

theorem writtenItems_of_numbersExact (items : List Json) (h : NumbersExactItems items) :
    writtenItems items = ofItems items := by
  match items with
  | [] => rfl
  | item :: items =>
    rw [writtenItems, ofItems, written_of_numbersExact item h.1,
      writtenItems_of_numbersExact items h.2]

theorem writtenEntries_of_numbersExact (entries : List (String × Json))
    (h : NumbersExactEntries entries) : writtenEntries entries = ofEntries entries := by
  match entries with
  | [] => rfl
  | (name, value) :: entries =>
    rw [writtenEntries, ofEntries, written_of_numbersExact value h.1,
      writtenEntries_of_numbersExact entries h.2]

end

/-! ## Blanks -/

theorem skipBlanks_append {blanks : List Char} (hblanks : ∀ c ∈ blanks, isBlank c = true)
    (cs : List Char) : skipBlanks (blanks ++ cs) = skipBlanks cs := by
  rw [skipBlanks, List.dropWhile_append, List.dropWhile_eq_nil_iff.2 hblanks]
  rfl

theorem skipBlanks_cons {c : Char} (hc : isBlank c = false) (cs : List Char) :
    skipBlanks (c :: cs) = c :: cs :=
  List.dropWhile_cons_of_neg (by rw [hc]; exact Bool.false_ne_true)

theorem isBlank_of_mem_newline (level : Nat) : ∀ c ∈ newline level, isBlank c = true := by
  intro c hc
  rcases List.mem_cons.1 hc with rfl | hc
  · rfl
  · rw [List.eq_of_mem_replicate hc]
    rfl

theorem endsNumber_newline (level : Nat) (cs : List Char) : EndsNumber (newline level ++ cs) := by
  rintro c ⟨⟩
  rfl

theorem endsNumber_comma (cs : List Char) : EndsNumber (',' :: cs) := by
  rintro c ⟨⟩
  rfl

theorem readValue_append_blanks {blanks : List Char} (hblanks : ∀ c ∈ blanks, isBlank c = true)
    (fuel : Nat) (cs : List Char) : readValue fuel (blanks ++ cs) = readValue fuel cs := by
  cases fuel with
  | zero => rw [readValue, readValue]
  | succ fuel => rw [readValue, readValue, skipBlanks_append hblanks]

/-! ## How a value begins -/

/-- A character that neither is blank nor closes an array. -/
def opensValue (c : Char) : Bool :=
  !isBlank c && c ≠ ']'

theorem opensValue_of_number {c : Char} (hc : c = '-' ∨ c.isDigit = true) :
    opensValue c = true := by
  by_contra h
  have hclose : c ∈ [' ', '\t', '\n', '\r', ']'] := by
    simpa [opensValue, isBlank, imp_iff_not_or, or_assoc] using h
  simp only [List.mem_cons, List.not_mem_nil, or_false] at hclose
  rcases hclose with rfl | rfl | rfl | rfl | rfl <;> exact absurd hc (by decide)

theorem exists_indentedChars_eq_cons (level : Nat) (value : Json) :
    ∃ c cs, indentedChars level value = c :: cs ∧ opensValue c = true := by
  cases value with
  | null => exact ⟨'n', _, rfl, rfl⟩
  | bool value => cases value <;> exact ⟨_, _, rfl, rfl⟩
  | number value =>
    obtain ⟨c, cs, hcs, hc⟩ := value.exists_numberChars_eq_cons
    exact ⟨c, cs, hcs, opensValue_of_number hc⟩
  | string value => exact ⟨'"', _, rfl, rfl⟩
  | array items => cases items <;> exact ⟨'[', _, rfl, rfl⟩
  | object entries => cases entries <;> exact ⟨'\x7b', _, rfl, rfl⟩

/-- The text of a list of items does not begin like the end of the list. -/
theorem skipBlanks_indentedItems (level : Nat) {items : List Json} (hne : items ≠ [])
    (rest : List Char) :
    ∃ c cs, skipBlanks (indentedItems level items ++ rest) = c :: cs ∧ c ≠ ']' := by
  obtain ⟨item, items, rfl⟩ := List.exists_cons_of_ne_nil hne
  obtain ⟨c, cs, hcs, hc⟩ := exists_indentedChars_eq_cons level item
  rw [opensValue, Bool.and_eq_true, Bool.not_eq_true', decide_eq_true_iff] at hc
  have hitem : ∃ after, indentedItems level (item :: items) = newline level ++ c :: after := by
    cases items <;>
      simp only [indentedItems, hcs, List.append_assoc, List.cons_append] <;>
      exact ⟨_, rfl⟩
  obtain ⟨after, hafter⟩ := hitem
  refine ⟨c, after ++ rest, ?_, hc.2⟩
  rw [hafter, List.append_assoc, skipBlanks_append (isBlank_of_mem_newline level), List.cons_append,
    skipBlanks_cons hc.1]

theorem skipBlanks_indentedEntries (level : Nat) {entries : List (String × Json)}
    (hne : entries ≠ []) (rest : List Char) :
    ∃ cs, skipBlanks (indentedEntries level entries ++ rest) = '"' :: cs := by
  obtain ⟨⟨name, value⟩, entries, rfl⟩ := List.exists_cons_of_ne_nil hne
  have hentry : ∃ after, indentedEntries level ((name, value) :: entries) =
      newline level ++ '"' :: after := by
    cases entries <;>
      simp only [indentedEntries, stringChars, List.append_assoc, List.cons_append] <;>
      exact ⟨_, rfl⟩
  obtain ⟨after, hafter⟩ := hentry
  refine ⟨after ++ rest, ?_⟩
  rw [hafter, List.append_assoc, skipBlanks_append (isBlank_of_mem_newline level), List.cons_append,
    skipBlanks_cons rfl]

/-! ## One value -/

theorem readValue_number {fuel : Nat} {c : Char} (cs : List Char)
    (hc : c = '-' ∨ c.isDigit = true) :
    readValue (fuel + 1) (c :: cs) =
      (readNumber (c :: cs)).map fun (value?, rest) ↦ (.number value?, rest) := by
  have hopens := opensValue_of_number hc
  rw [opensValue, Bool.and_eq_true, Bool.not_eq_true'] at hopens
  rw [readValue, skipBlanks_cons hopens.1]
  split
  case h_7 => rfl
  all_goals
    rename_i heq
    cases heq
    exact absurd hc (by decide)

theorem readValue_string (fuel : Nat) (s : String) (rest : List Char) :
    readValue (fuel + 1) (stringChars s ++ rest) = some (.string (some s), rest) := by
  have hchars : stringChars s ++ rest = '"' :: (s.toList.flatMap escapeChar ++ '"' :: rest) := by
    simp [stringChars]
  rw [hchars, readValue, skipBlanks_cons rfl]
  change Option.map _ (readString _) = _
  rw [readString_flatMap_escapeChar]
  rfl

theorem readValue_array {fuel : Nat} {c : Char} {cs tail : List Char}
    (hskip : skipBlanks tail = c :: cs) (hc : c ≠ ']') :
    readValue (fuel + 1) ('[' :: tail) =
      (readItems fuel tail).map fun (items, rest) ↦ (.array items, rest) := by
  rw [readValue, skipBlanks_cons rfl]
  simp only [hskip]
  split
  · rename_i heq
    cases heq
    exact absurd rfl hc
  · rfl

theorem readValue_object {fuel : Nat} {c : Char} {cs tail : List Char}
    (hskip : skipBlanks tail = c :: cs) (hc : c ≠ '\x7d') :
    readValue (fuel + 1) ('\x7b' :: tail) =
      (readMembers fuel tail).map fun (members, rest) ↦ (.object members, rest) := by
  rw [readValue, skipBlanks_cons rfl]
  simp only [hskip]
  split
  · rename_i heq
    cases heq
    exact absurd rfl hc
  · rfl

/-! ## Whole values -/

theorem readItems_last {fuel : Nat} {cs rest tail : List Char} {item : Document}
    (hitem : readValue fuel cs = some (item, tail)) (hend : skipBlanks tail = ']' :: rest) :
    readItems (fuel + 1) cs = some ([item], rest) := by
  simp only [readItems, hitem, Option.bind_eq_bind, Option.bind_some, hend]

theorem readItems_next {fuel : Nat} {cs next rest tail : List Char} {item : Document}
    {items : List Document} (hitem : readValue fuel cs = some (item, tail))
    (hcomma : skipBlanks tail = ',' :: next) (hitems : readItems fuel next = some (items, rest)) :
    readItems (fuel + 1) cs = some (item :: items, rest) := by
  simp only [readItems, hitem, Option.bind_eq_bind, Option.bind_some, hcomma, hitems]

/-- What is read after the name of a member and the colon. -/
def readAfterName (fuel : Nat) (name : String) (cs : List Char) :
    Option (List (Option String × Document) × List Char) := do
  let (value, rest) ← readValue fuel cs
  match skipBlanks rest with
  | '\x7d' :: rest => some ([(some name, value)], rest)
  | ',' :: rest =>
    let (members, rest) ← readMembers fuel rest
    some ((some name, value) :: members, rest)
  | _ => none

theorem readMembers_name (fuel : Nat) {blanks : List Char}
    (hblanks : ∀ c ∈ blanks, isBlank c = true) (name : String) (cs : List Char) :
    readMembers (fuel + 1) (blanks ++ (stringChars name ++ ':' :: cs)) =
      readAfterName fuel name cs := by
  have hchars : stringChars name ++ ':' :: cs =
      '"' :: (name.toList.flatMap escapeChar ++ '"' :: ':' :: cs) := by
    simp [stringChars]
  have hcolon : skipBlanks (':' :: cs) = ':' :: cs := skipBlanks_cons rfl cs
  rw [readMembers, skipBlanks_append hblanks, hchars, skipBlanks_cons rfl]
  simp only [readString_flatMap_escapeChar, Option.bind_eq_bind, Option.bind_some, hcolon]
  rfl

theorem readAfterName_last {fuel : Nat} {name : String} {cs rest tail : List Char}
    {value : Document} (hvalue : readValue fuel cs = some (value, tail))
    (hend : skipBlanks tail = '\x7d' :: rest) :
    readAfterName fuel name cs = some ([(some name, value)], rest) := by
  simp only [readAfterName, hvalue, Option.bind_eq_bind, Option.bind_some, hend]

theorem readAfterName_next {fuel : Nat} {name : String} {cs next rest tail : List Char}
    {value : Document} {members : List (Option String × Document)}
    (hvalue : readValue fuel cs = some (value, tail)) (hcomma : skipBlanks tail = ',' :: next)
    (hmembers : readMembers fuel next = some (members, rest)) :
    readAfterName fuel name cs = some ((some name, value) :: members, rest) := by
  simp only [readAfterName, hvalue, Option.bind_eq_bind, Option.bind_some, hcomma, hmembers]

mutual

/-- The indented text of a value is read whatever stands after it. -/
theorem readValue_indentedChars (value : Json) (level fuel : Nat) {rest : List Char}
    (hrest : EndsNumber rest) (hfuel : (indentedChars level value).length ≤ fuel) :
    readValue (fuel + 1) (indentedChars level value ++ rest) = some (written value, rest) := by
  match value with
  | .null => rfl
  | .bool true => rfl
  | .bool false => rfl
  | .number value =>
    have hread := readNumber_append hrest value.readNumber_numberChars
    obtain ⟨c, cs, hcs, hc⟩ := value.exists_numberChars_eq_cons
    rw [indentedChars]
    rw [hcs] at hread ⊢
    rw [List.cons_append, readValue_number _ hc, ← List.cons_append, hread]
    rfl
  | .string value => exact readValue_string fuel value rest
  | .array [] => rfl
  | .array (item :: items) =>
    have hne : item :: items ≠ [] := List.cons_ne_nil item items
    have htext : indentedChars level (.array (item :: items)) ++ rest =
        '[' :: (indentedItems (level + 1) (item :: items) ++ (newline level ++ ']' :: rest)) := by
      simp [indentedChars]
    obtain ⟨c, cs, hskip, hc⟩ :=
      skipBlanks_indentedItems (level + 1) hne (newline level ++ ']' :: rest)
    have hitems := readItems_indentedItems (item :: items) (level + 1) level fuel rest hne
      (by simp [indentedChars] at hfuel; omega)
    rw [htext, readValue_array hskip hc, hitems]
    rfl
  | .object [] => rfl
  | .object ((name, value) :: entries) =>
    have hne : (name, value) :: entries ≠ [] := List.cons_ne_nil _ entries
    have htext : indentedChars level (.object ((name, value) :: entries)) ++ rest =
        '\x7b' :: (indentedEntries (level + 1) ((name, value) :: entries) ++
          (newline level ++ '\x7d' :: rest)) := by
      simp [indentedChars]
    obtain ⟨cs, hskip⟩ :=
      skipBlanks_indentedEntries (level + 1) hne (newline level ++ '\x7d' :: rest)
    have hmembers := readMembers_indentedEntries ((name, value) :: entries) (level + 1) level
      fuel rest hne (by simp [indentedChars] at hfuel; omega)
    rw [htext, readValue_object hskip (by decide), hmembers]
    rfl

theorem readItems_indentedItems (items : List Json) (level outer fuel : Nat)
    (rest : List Char) (hne : items ≠ []) (hfuel : (indentedItems level items).length < fuel) :
    readItems fuel (indentedItems level items ++ (newline outer ++ ']' :: rest)) =
      some (writtenItems items, rest) := by
  match items with
  | [] => exact absurd rfl hne
  | [item] =>
    rw [indentedItems, List.length_append] at hfuel
    have hnewline : 0 < (newline level).length := Nat.succ_pos _
    obtain ⟨spent, rfl⟩ : ∃ spent, fuel = spent + 2 := ⟨fuel - 2, by omega⟩
    have hitem := readValue_indentedChars item level spent
      (endsNumber_newline outer (']' :: rest)) (by omega)
    have hend : skipBlanks (newline outer ++ ']' :: rest) = ']' :: rest := by
      rw [skipBlanks_append (isBlank_of_mem_newline outer), skipBlanks_cons rfl]
    rw [indentedItems, List.append_assoc]
    refine readItems_last ?_ hend
    rw [readValue_append_blanks (isBlank_of_mem_newline level), hitem]
  | item :: next :: items =>
    rw [indentedItems, List.length_append, List.length_append, List.length_cons] at hfuel
    · have hnewline : 0 < (newline level).length := Nat.succ_pos _
      obtain ⟨spent, rfl⟩ : ∃ spent, fuel = spent + 2 := ⟨fuel - 2, by omega⟩
      have hitem := readValue_indentedChars item level spent
        (endsNumber_comma (indentedItems level (next :: items) ++ (newline outer ++ ']' :: rest)))
        (by omega)
      have hitems := readItems_indentedItems (next :: items) level outer (spent + 1) rest
        (List.cons_ne_nil next items) (by omega)
      rw [indentedItems, List.append_assoc, List.append_assoc, List.cons_append]
      · refine readItems_next ?_ (skipBlanks_cons rfl _) hitems
        rw [readValue_append_blanks (isBlank_of_mem_newline level), hitem]
      · simp
    · simp

theorem readMembers_indentedEntries (entries : List (String × Json)) (level outer fuel : Nat)
    (rest : List Char) (hne : entries ≠ [])
    (hfuel : (indentedEntries level entries).length < fuel) :
    readMembers fuel (indentedEntries level entries ++ (newline outer ++ '\x7d' :: rest)) =
      some (writtenEntries entries, rest) := by
  have hspace : ∀ c ∈ [' '], isBlank c = true := List.forall_mem_singleton.2 rfl
  match entries with
  | [] => exact absurd rfl hne
  | [(name, value)] =>
    rw [indentedEntries, List.length_append, List.length_append, List.length_cons,
      List.length_cons] at hfuel
    obtain ⟨spent, rfl⟩ : ∃ spent, fuel = spent + 2 := ⟨fuel - 2, by omega⟩
    have hvalue := readValue_indentedChars value level spent
      (endsNumber_newline outer ('\x7d' :: rest)) (by omega)
    have hend : skipBlanks (newline outer ++ '\x7d' :: rest) = '\x7d' :: rest := by
      rw [skipBlanks_append (isBlank_of_mem_newline outer), skipBlanks_cons rfl]
    rw [indentedEntries, List.append_assoc, List.append_assoc, List.cons_append, List.cons_append,
      readMembers_name _ (isBlank_of_mem_newline level)]
    exact readAfterName_last ((readValue_append_blanks hspace _ _).trans hvalue) hend
  | (name, value) :: next :: entries =>
    rw [indentedEntries, List.length_append, List.length_append, List.length_append,
      List.length_cons, List.length_cons, List.length_cons] at hfuel
    · obtain ⟨spent, rfl⟩ : ∃ spent, fuel = spent + 2 := ⟨fuel - 2, by omega⟩
      have hvalue := readValue_indentedChars value level spent
        (endsNumber_comma
          (indentedEntries level (next :: entries) ++ (newline outer ++ '\x7d' :: rest)))
        (by omega)
      have hmembers := readMembers_indentedEntries (next :: entries) level outer
        (spent + 1) rest (List.cons_ne_nil next entries) (by omega)
      rw [indentedEntries, List.append_assoc, List.append_assoc, List.append_assoc,
        List.cons_append, List.cons_append, List.cons_append,
        readMembers_name _ (isBlank_of_mem_newline level)]
      · refine readAfterName_next ?_ (skipBlanks_cons rfl _) hmembers
        exact (readValue_append_blanks hspace _ _).trans hvalue
      · simp
    · simp

end

theorem ofText?_indented_eq_written (value : Json) :
    ofText? value.indented = some (written value) := by
  have hend : EndsNumber [] := by rintro c ⟨⟩
  have hread := readValue_indentedChars value 0 (2 * (indentedChars 0 value).length + 1) hend
    (by omega)
  rw [List.append_nil] at hread
  simp only [ofText?, Json.indented, String.toList_ofList, hread]
  rfl

/-- An indented text with exact numbers is read as the document of its value. -/
theorem ofText?_indented {value : Json} (hexact : value.NumbersExact) :
    ofText? value.indented = some (ofJson value) := by
  rw [ofText?_indented_eq_written, written_of_numbersExact value hexact]

end Document

end MeteringAlarms
