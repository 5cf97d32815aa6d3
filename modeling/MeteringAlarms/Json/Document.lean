import MeteringAlarms.Json.Literal

/-!
# JSON texts as written

A `Document` is the reading of a JSON text before it is given a meaning: members of an object stay
in the order they are written, repeated names included, and a literal that is well formed but
denotes no value (a number beyond the doubles, a string with a lone surrogate) is kept as `none`.
Records skip the members they do not know, so such a literal only matters where a value is wanted.
`Document.toJson?` gives the value, within a bound on nesting; of a repeated name the last counts.
-/

namespace MeteringAlarms

inductive Document where
  | null
  | bool (value : Bool)
  | number (value? : Option Number)
  | string (value? : Option String)
  | array (items : List Document)
  | object (members : List (Option String × Document))

namespace Document

instance : Inhabited Document := ⟨.null⟩

/-- Nesting of arrays and objects that a text may have where it is read as values. -/
def maxDepth : Nat := 127

def isBlank (c : Char) : Bool :=
  c = ' ' || c = '\t' || c = '\n' || c = '\r'

def skipBlanks (cs : List Char) : List Char :=
  cs.dropWhile isBlank

def isHighSurrogate (unit : Nat) : Bool := 0xD800 ≤ unit && unit < 0xDC00
def isLowSurrogate (unit : Nat) : Bool := 0xDC00 ≤ unit && unit < 0xE000

/--
Joins surrogate pairs into the characters they encode. The units are code points of characters and,
from escapes, surrogates; a surrogate without its partner makes the text denote no string.
-/
def joinSurrogates? : List Nat → Option (List Char)
  | [] => some []
  | high :: rest =>
    if isHighSurrogate high then
      match rest with
      | low :: rest =>
        if isLowSurrogate low then
          (joinSurrogates? rest).map
            (Char.ofNat (0x10000 + (high - 0xD800) * 0x400 + (low - 0xDC00)) :: ·)
        else none
      | [] => none
    else if isLowSurrogate high then none
    else (joinSurrogates? rest).map (Char.ofNat high :: ·)

/-- The character that a one-letter escape stands for. -/
def escape? : Char → Option Char
  | '"' => some '"'
  | '\\' => some '\\'
  | '/' => some '/'
  | 'b' => some '\x08'
  | 'f' => some '\x0c'
  | 'n' => some '\n'
  | 'r' => some '\r'
  | 't' => some '\t'
  | _ => none

/-- The rest of a string after its opening quote, as units, and what follows the closing quote. -/
def readUnits : List Char → Option (List Nat × List Char)
  | [] => none
  | '"' :: rest => some ([], rest)
  | '\\' :: 'u' :: a :: b :: c :: d :: rest => do
    let unit ← Digits.ofBase? 16 [a, b, c, d]
    let (units, rest) ← readUnits rest
    some (unit :: units, rest)
  | '\\' :: c :: rest => do
    let escaped ← escape? c
    let (units, rest) ← readUnits rest
    some (escaped.toNat :: units, rest)
  | c :: rest =>
    if c = '\\' ∨ c.toNat < 0x20 then none
    else do
      let (units, rest) ← readUnits rest
      some (c.toNat :: units, rest)

def readString (cs : List Char) : Option (Option String × List Char) := do
  let (units, rest) ← readUnits cs
  some ((joinSurrogates? units).map String.ofList, rest)

/-- The digits of an integer part: a zero alone, or digits that do not begin with zero. -/
def readIntegerDigits (cs : List Char) : Option (List Char × List Char) :=
  match cs with
  | '0' :: rest => some (['0'], rest)
  | c :: _ =>
    if c.isDigit then some (cs.takeWhile Char.isDigit, cs.dropWhile Char.isDigit) else none
  | [] => none

/-- One or more digits. -/
def readDigits (cs : List Char) : Option (List Char × List Char) :=
  match cs.takeWhile Char.isDigit with
  | [] => none
  | digits => some (digits, cs.dropWhile Char.isDigit)

def readFraction (cs : List Char) : Option (Option (List Char) × List Char) :=
  match cs with
  | '.' :: rest => (readDigits rest).map fun (digits, rest) ↦ (some digits, rest)
  | _ => some (none, cs)

def readExponent (cs : List Char) : Option (Option Int × List Char) :=
  match cs with
  | c :: rest =>
    if c = 'e' ∨ c = 'E' then
      let (negative, rest) := match rest with
        | '-' :: rest => (true, rest)
        | '+' :: rest => (false, rest)
        | _ => (false, rest)
      (readDigits rest).map fun (digits, rest) ↦
        let n : Int := Digits.ofDecimal digits
        (some (if negative then -n else n), rest)
    else some (none, cs)
  | [] => some (none, [])

def readNumber (cs : List Char) : Option (Option Number × List Char) := do
  let (negative, cs) := match cs with
    | '-' :: rest => (true, rest)
    | _ => (false, cs)
  let (digits, cs) ← readIntegerDigits cs
  let (fraction?, cs) ← readFraction cs
  let (exponent?, cs) ← readExponent cs
  some (Number.ofLiteral? negative digits fraction? exponent?, cs)

mutual

/-- A value at the start of the text, and the text after it. Each step down spends one of `fuel`. -/
def readValue : (fuel : Nat) → List Char → Option (Document × List Char)
  | 0, _ => none
  | fuel + 1, cs =>
    match skipBlanks cs with
    | 'n' :: 'u' :: 'l' :: 'l' :: rest => some (.null, rest)
    | 't' :: 'r' :: 'u' :: 'e' :: rest => some (.bool true, rest)
    | 'f' :: 'a' :: 'l' :: 's' :: 'e' :: rest => some (.bool false, rest)
    | '"' :: rest => (readString rest).map fun (value?, rest) ↦ (.string value?, rest)
    | '[' :: rest =>
      match skipBlanks rest with
      | ']' :: rest => some (.array [], rest)
      | _ => (readItems fuel rest).map fun (items, rest) ↦ (.array items, rest)
    | '\x7b' :: rest =>
      match skipBlanks rest with
      | '\x7d' :: rest => some (.object [], rest)
      | _ => (readMembers fuel rest).map fun (members, rest) ↦ (.object members, rest)
    | cs => (readNumber cs).map fun (value?, rest) ↦ (.number value?, rest)

def readItems : (fuel : Nat) → List Char → Option (List Document × List Char)
  | 0, _ => none
  | fuel + 1, cs => do
    let (item, rest) ← readValue fuel cs
    match skipBlanks rest with
    | ']' :: rest => some ([item], rest)
    | ',' :: rest =>
      let (items, rest) ← readItems fuel rest
      some (item :: items, rest)
    | _ => none

def readMembers : (fuel : Nat) → List Char → Option (List (Option String × Document) × List Char)
  | 0, _ => none
  | fuel + 1, cs =>
    match skipBlanks cs with
    | '"' :: rest => do
      let (name?, rest) ← readString rest
      match skipBlanks rest with
      | ':' :: rest =>
        let (value, rest) ← readValue fuel rest
        match skipBlanks rest with
        | '\x7d' :: rest => some ([(name?, value)], rest)
        | ',' :: rest =>
          let (members, rest) ← readMembers fuel rest
          some ((name?, value) :: members, rest)
        | _ => none
      | _ => none
    | _ => none

end

/-- Reads a whole text. Every two steps down consume a character, so the fuel never runs out. -/
def ofText? (text : String) : Option Document :=
  let cs := text.toList
  match readValue (2 * cs.length + 2) cs with
  | some (document, rest) => if (skipBlanks rest).isEmpty then some document else none
  | none => none

mutual

/-- The value of a document with at most `room` arrays and objects around any part of it. -/
def toJson? (room : Nat) : Document → Option Json
  | .null => some .null
  | .bool value => some (.bool value)
  | .number value? => value?.map .number
  | .string value? => value?.map .string
  | .array items => if room = 0 then none else (itemsToJson? (room - 1) items).map .array
  | .object members =>
    if room = 0 then none
    else (membersToJson? (room - 1) members).map fun entries ↦ Json.ofEntries entries

def itemsToJson? (room : Nat) : List Document → Option (List Json)
  | [] => some []
  | item :: items => do
    let value ← toJson? room item
    let values ← itemsToJson? room items
    some (value :: values)

def membersToJson? (room : Nat) : List (Option String × Document) → Option (List (String × Json))
  | [] => some []
  | (name?, item) :: members => do
    let name ← name?
    let value ← toJson? room item
    let entries ← membersToJson? room members
    some ((name, value) :: entries)

end

mutual

/-- A value as a document that reads as it. -/
def ofJson : Json → Document
  | .null => .null
  | .bool value => .bool value
  | .number value => .number (some value)
  | .string value => .string (some value)
  | .array items => .array (ofItems items)
  | .object entries => .object (ofEntries entries)

def ofItems : List Json → List Document
  | [] => []
  | item :: items => ofJson item :: ofItems items

def ofEntries : List (String × Json) → List (Option String × Document)
  | [] => []
  | (name, value) :: entries => (some name, ofJson value) :: ofEntries entries

end

end Document

/-- Reads a JSON text as a value, refusing texts nested more than `Document.maxDepth` deep. -/
def Json.ofText? (text : String) : Option Json :=
  Document.ofText? text >>= Document.toJson? Document.maxDepth

end MeteringAlarms
