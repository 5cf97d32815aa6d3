import MeteringAlarms.Toml.Table

/-!
# Reading TOML

Values with their nesting, and the lines of a document. A document is read in one pass: every header
closes the table before it, and the end of the text closes the last.
-/

namespace MeteringAlarms.Toml

mutual

/--
A value at the start of the text. `room` is how many arrays and inline tables may still be nested;
each step down spends one of `fuel`.
-/
def readValue (room : Nat) : (fuel : Nat) → List Char → Option (Value × List Char)
  | 0, _ => none
  | fuel + 1, cs =>
    match cs with
    | 't' :: 'r' :: 'u' :: 'e' :: rest => some (.boolean true, rest)
    | 'f' :: 'a' :: 'l' :: 's' :: 'e' :: rest => some (.boolean false, rest)
    | '[' :: rest =>
      match room with
      | 0 => none
      | room + 1 => (readItems room fuel rest).map fun (items, rest) ↦ (.array items, rest)
    | '\x7b' :: rest =>
      match room with
      | 0 => none
      | room + 1 =>
        match skipBlanks rest with
        | '\x7d' :: rest => some (.table .inline [], rest)
        | _ =>
          (readInline room fuel [] rest).map fun (entries, rest) ↦ (.table .inline entries, rest)
    | _ =>
      match readString cs with
      | some (text, rest) => some (.string text, rest)
      | none =>
        match readMoment cs with
        | some rest => some (.moment (String.ofList (cs.take (cs.length - rest.length))), rest)
        | none =>
          match readFloat cs with
          | some (value, rest) => some (.float value, rest)
          | none => (readInteger cs).map fun (value, rest) ↦ (.integer value, rest)

/-- The items of an array after its bracket, over any number of lines; a last comma may stand. -/
def readItems (room : Nat) : (fuel : Nat) → List Char → Option (List Value × List Char)
  | 0, _ => none
  | fuel + 1, cs =>
    match skipLines cs.length cs with
    | ']' :: rest => some ([], rest)
    | cs => do
      let (item, rest) ← readValue room fuel cs
      match skipLines rest.length rest with
      | ']' :: rest => some ([item], rest)
      | ',' :: rest =>
        let (items, rest) ← readItems room fuel rest
        some (item :: items, rest)
      | _ => none

/-- The entries of an inline table after its brace, on one line, added to those read so far. -/
def readInline (room : Nat) : (fuel : Nat) → Entries → List Char → Option (Entries × List Char)
  | 0, _, _ => none
  | fuel + 1, entries, cs => do
    let (keys, rest) ← readKey cs
    let rest ← readMark '=' rest
    let (value, rest) ← readValue room fuel (skipBlanks rest)
    let entries ← assign .inline keys value entries
    match skipBlanks rest with
    | '\x7d' :: rest => some (entries, rest)
    | ',' :: rest => readInline room fuel entries rest
    | _ => none

end

/-- The rest of a header: its key, the closing brackets and the end of the line. -/
def readHeader (brackets : List Char) (cs : List Char) : Option (List String × List Char) := do
  let (keys, rest) ← readKey cs
  if rest.take brackets.length = brackets then
    let rest ← readLineEnd (rest.drop brackets.length)
    some (keys, rest)
  else none

/-- The lines of a document from here on. Each line spends one of `fuel`. -/
def readLines : (fuel : Nat) → Section → Entries → List Char → Option Entries
  | 0, _, _, _ => none
  | fuel + 1, current, document, cs =>
    match skipLines cs.length cs with
    | [] => close current document
    | '[' :: '[' :: rest => do
      let (keys, rest) ← readHeader [']', ']'] rest
      let document ← close current document
      let (next, document) ← openElement keys document
      readLines fuel next document rest
    | '[' :: rest => do
      let (keys, rest) ← readHeader [']'] rest
      let document ← close current document
      let (next, document) ← openTable keys document
      readLines fuel next document rest
    | cs => do
      let (keys, rest) ← readKey cs
      let rest ← readMark '=' rest
      let rest := skipBlanks rest
      let (value, rest) ← readValue (depthLimit - 1) (2 * rest.length + 2) rest
      let rest ← readLineEnd rest
      let entries ← assign .header keys value current.entries
      readLines fuel { current with entries } document rest

/-- The entries of a document. A byte-order mark before it does not count. -/
def ofText? (text : String) : Option Entries :=
  let cs := match text.toList with
    | c :: rest => if c.toNat = 0xFEFF then rest else c :: rest
    | [] => []
  readLines (cs.length + 1) ⟨[], false, []⟩ [] cs

end MeteringAlarms.Toml
