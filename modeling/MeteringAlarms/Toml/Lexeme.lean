import MeteringAlarms.Data.Binary64
import MeteringAlarms.Data.Timestamp

/-!
# The lexemes of TOML 1.0

Blanks and comments, keys, strings in their four forms, numbers and moments. Each reader takes a
lexeme at the start of the text and gives it with the text that follows.
-/

namespace MeteringAlarms.Toml

def isBlank (c : Char) : Bool := c = ' ' || c = '\t'

def skipBlanks (cs : List Char) : List Char :=
  cs.dropWhile isBlank

/-- A line end: a line feed, or a carriage return before one. -/
def readNewline : List Char → Option (List Char)
  | '\n' :: rest => some rest
  | '\r' :: '\n' :: rest => some rest
  | _ => none

def isBeyondAscii (c : Char) : Bool := 0x80 ≤ c.toNat

def isCommentCharacter (c : Char) : Bool :=
  c = '\t' || (0x20 ≤ c.toNat && c.toNat ≤ 0x7E) || isBeyondAscii c

/-- The text after a comment, if there is one; the line end stays. -/
def skipComment : List Char → List Char
  | '#' :: rest => rest.dropWhile isCommentCharacter
  | cs => cs

/-- The text after any blanks, comments and line ends. Each line spends one of `fuel`. -/
def skipLines : (fuel : Nat) → List Char → List Char
  | 0, cs => cs
  | fuel + 1, cs =>
    let cs := skipComment (skipBlanks cs)
    match readNewline cs with
    | some rest => skipLines fuel rest
    | none => cs

/-- What may follow a value or a header on its line: blanks and a comment, then its end. -/
def readLineEnd (cs : List Char) : Option (List Char) :=
  match skipComment (skipBlanks cs) with
  | [] => some []
  | cs => readNewline cs

/-! ## Strings -/

def isBasicCharacter (c : Char) : Bool :=
  c = '\t' || (0x20 ≤ c.toNat && c.toNat ≤ 0x7E && c ≠ '"' && c ≠ '\\') || isBeyondAscii c

def isLiteralCharacter (c : Char) : Bool :=
  c = '\t' || (0x20 ≤ c.toNat && c.toNat ≤ 0x7E && c.toNat ≠ 0x27) || isBeyondAscii c

/-- The character of a Unicode escape; surrogates are none. -/
def scalar? (digits : List Char) : Option Char := do
  let n ← Digits.ofBase? 16 digits
  if n < 0xD800 ∨ (0xE000 ≤ n ∧ n < 0x110000) then some (Char.ofNat n) else none

/-- An escape after its backslash. -/
def readEscape : List Char → Option (Char × List Char)
  | 'u' :: a :: b :: c :: d :: rest => (scalar? [a, b, c, d]).map (·, rest)
  | 'U' :: a :: b :: c :: d :: e :: f :: g :: h :: rest =>
    (scalar? [a, b, c, d, e, f, g, h]).map (·, rest)
  | 'b' :: rest => some ('\x08', rest)
  | 't' :: rest => some ('\t', rest)
  | 'n' :: rest => some ('\n', rest)
  | 'f' :: rest => some ('\x0c', rest)
  | 'r' :: rest => some ('\r', rest)
  | '"' :: rest => some ('"', rest)
  | '\\' :: rest => some ('\\', rest)
  | _ => none

def quoteMark : Char := Char.ofNat 0x27

/-- The rest of a one-line string after its opening quote. -/
def readBasic : (fuel : Nat) → List Char → Option (List Char × List Char)
  | 0, _ => none
  | _, [] => none
  | fuel + 1, c :: rest =>
    if c = '"' then some ([], rest)
    else if c = '\\' then do
      let (escaped, rest) ← readEscape rest
      let (text, rest) ← readBasic fuel rest
      some (escaped :: text, rest)
    else if isBasicCharacter c then
      (readBasic fuel rest).map fun (text, rest) ↦ (c :: text, rest)
    else none

/-- The rest of a one-line literal after its opening quote. -/
def readLiteral (cs : List Char) : Option (List Char × List Char) :=
  match cs.dropWhile isLiteralCharacter with
  | c :: rest => if c = quoteMark then some (cs.takeWhile isLiteralCharacter, rest) else none
  | [] => none

/-- A line end directly after the opening quotes does not count. -/
def dropFirstNewline (cs : List Char) : List Char :=
  (readNewline cs).getD cs

/--
A run of quotes inside a string of several lines: fewer than three belong to the text, three end it,
and up to two more before those belong to the text.
-/
def quotesWithin (count : Nat) : Option (Nat × Bool) :=
  if count < 3 then some (count, false)
  else if count ≤ 5 then some (count - 3, true)
  else none

/-- The text after any blanks and line ends. Each line spends one of `fuel`. -/
def skipBlankLines : (fuel : Nat) → List Char → List Char
  | 0, cs => cs
  | fuel + 1, cs =>
    match readNewline (skipBlanks cs) with
    | some rest => skipBlankLines fuel rest
    | none => skipBlanks cs

/-- The text after a backslash at the end of a line: everything up to the next visible character. -/
def skipLineContinuation (cs : List Char) : Option (List Char) :=
  (readNewline (skipBlanks cs)).map fun rest ↦ skipBlankLines (rest.length + 1) rest

/-- The rest of a string of several lines. -/
def readBasicLines : (fuel : Nat) → List Char → Option (List Char × List Char)
  | 0, _ => none
  | _, [] => none
  | fuel + 1, c :: rest =>
    if c = '"' then
      let count := ((c :: rest).takeWhile (· = '"')).length
      match quotesWithin count with
      | none => none
      | some (inside, true) => some (List.replicate inside '"', (c :: rest).drop count)
      | some (inside, false) =>
        (readBasicLines fuel ((c :: rest).drop count)).map fun (text, rest) ↦
          (List.replicate inside '"' ++ text, rest)
    else if c = '\\' then
      match skipLineContinuation rest with
      | some rest => readBasicLines fuel rest
      | none => do
        let (escaped, rest) ← readEscape rest
        let (text, rest) ← readBasicLines fuel rest
        some (escaped :: text, rest)
    else if isBasicCharacter c then
      (readBasicLines fuel rest).map fun (text, rest) ↦ (c :: text, rest)
    else do
      let rest ← readNewline (c :: rest)
      let (text, rest) ← readBasicLines fuel rest
      some ('\n' :: text, rest)

/-- The rest of a literal of several lines. -/
def readLiteralLines : (fuel : Nat) → List Char → Option (List Char × List Char)
  | 0, _ => none
  | _, [] => none
  | fuel + 1, c :: rest =>
    if c = quoteMark then
      let count := ((c :: rest).takeWhile (· = quoteMark)).length
      match quotesWithin count with
      | none => none
      | some (inside, true) => some (List.replicate inside quoteMark, (c :: rest).drop count)
      | some (inside, false) =>
        (readLiteralLines fuel ((c :: rest).drop count)).map fun (text, rest) ↦
          (List.replicate inside quoteMark ++ text, rest)
    else if isLiteralCharacter c then
      (readLiteralLines fuel rest).map fun (text, rest) ↦ (c :: text, rest)
    else do
      let rest ← readNewline (c :: rest)
      let (text, rest) ← readLiteralLines fuel rest
      some ('\n' :: text, rest)

/-- A string on one line, in either quotes. -/
def readLineString : List Char → Option (String × List Char)
  | c :: rest =>
    if c = '"' then
      (readBasic (rest.length + 1) rest).map fun (text, rest) ↦ (String.ofList text, rest)
    else if c = quoteMark then
      (readLiteral rest).map fun (text, rest) ↦ (String.ofList text, rest)
    else none
  | [] => none

/-- A string in any of the four forms. -/
def readString (cs : List Char) : Option (String × List Char) :=
  let rest := cs.drop 3
  if cs.take 3 = ['"', '"', '"'] then
    let rest := dropFirstNewline rest
    (readBasicLines (rest.length + 1) rest).map fun (text, rest) ↦ (String.ofList text, rest)
  else if cs.take 3 = [quoteMark, quoteMark, quoteMark] then
    let rest := dropFirstNewline rest
    (readLiteralLines (rest.length + 1) rest).map fun (text, rest) ↦ (String.ofList text, rest)
  else readLineString cs

/-! ## Keys -/

def isBareKeyCharacter (c : Char) : Bool :=
  c.isAlphanum || c = '_' || c = '-'

def readSimpleKey (cs : List Char) : Option (String × List Char) :=
  match cs.takeWhile isBareKeyCharacter with
  | [] => readLineString cs
  | name => some (String.ofList name, cs.dropWhile isBareKeyCharacter)

/-- Keys joined by dots. Each key spends one of `fuel`. -/
def readDottedKeys : (fuel : Nat) → List Char → Option (List String × List Char)
  | 0, _ => none
  | fuel + 1, cs => do
    let (key, rest) ← readSimpleKey (skipBlanks cs)
    match skipBlanks rest with
    | '.' :: rest =>
      let (keys, rest) ← readDottedKeys fuel rest
      some (key :: keys, rest)
    | rest => some ([key], rest)

/-- Levels of nesting that keys and values must stay below. -/
def depthLimit : Nat := 80

/-- A key of fewer parts than the limit on nesting. -/
def readKey (cs : List Char) : Option (List String × List Char) :=
  readDottedKeys (depthLimit - 1) cs

/-! ## Numbers -/

/-- Digits after the first, single underscores allowed between digits. -/
def moreDigits (isDigit : Char → Bool) : List Char → List Char × List Char
  | '_' :: c :: rest =>
    if isDigit c then
      let (digits, rest) := moreDigits isDigit rest
      (c :: digits, rest)
    else ([], '_' :: c :: rest)
  | c :: rest =>
    if isDigit c then
      let (digits, rest) := moreDigits isDigit rest
      (c :: digits, rest)
    else ([], c :: rest)
  | [] => ([], [])

/-- One or more digits, single underscores allowed between them. -/
def readDigits (isDigit : Char → Bool) : List Char → Option (List Char × List Char)
  | c :: rest =>
    if isDigit c then
      let (digits, rest) := moreDigits isDigit rest
      some (c :: digits, rest)
    else none
  | [] => none

def readSign : List Char → Bool × List Char
  | '-' :: rest => (true, rest)
  | '+' :: rest => (false, rest)
  | cs => (false, cs)

/-- The digits of a decimal integer: a zero alone, or digits that do not begin with zero. -/
def readDecimal : List Char → Option (List Char × List Char)
  | '0' :: rest => some (['0'], rest)
  | cs => readDigits Char.isDigit cs

def readFraction : List Char → Option (List Char × List Char)
  | '.' :: rest => readDigits Char.isDigit rest
  | _ => none

def readExponent : List Char → Option (Int × List Char)
  | c :: rest =>
    if c = 'e' ∨ c = 'E' then
      let (negative, rest) := readSign rest
      (readDigits Char.isDigit rest).map fun (digits, rest) ↦
        let n : Int := Digits.ofDecimal digits
        (if negative then -n else n, rest)
    else none
  | [] => none

inductive FloatValue where
  | finite (value : Binary64)
  | infinite (negative : Bool)
  | notANumber
  deriving DecidableEq

/--
A float: a name of a special value, or digits with a fraction, an exponent, or both. Digits beyond
the greatest double are refused, but with a minus sign they read as the infinity of that sign.
-/
def readFloat (cs : List Char) : Option (FloatValue × List Char) :=
  let (negative, cs) := readSign cs
  match cs with
  | 'i' :: 'n' :: 'f' :: rest => some (.infinite negative, rest)
  | 'n' :: 'a' :: 'n' :: rest => some (.notANumber, rest)
  | _ => do
    let (digits, cs) ← readDecimal cs
    let fraction? := readFraction cs
    let (fraction, cs) := fraction?.getD ([], cs)
    let exponent? := readExponent cs
    if fraction?.isNone ∧ exponent?.isNone then none
    else
      let (exponent, cs) := exponent?.getD (0, cs)
      let value? := Binary64.ofDecimal? negative (Digits.ofDecimal (digits ++ fraction))
        (exponent - fraction.length)
      match value? with
      | some value => some (.finite value, cs)
      | none => if negative then some (.infinite true, cs) else none

def isOctalDigit (c : Char) : Bool := '0' ≤ c && c ≤ '7'
def isBinaryDigit (c : Char) : Bool := c = '0' || c = '1'

/-- An integer of 64 bits with sign, in one of four bases; only decimals may have a sign. -/
def readInteger (cs : List Char) : Option (Int × List Char) :=
  let ofBase (base : Nat) (isDigit : Char → Bool) (cs : List Char) : Option (Int × List Char) := do
    let (digits, rest) ← readDigits isDigit cs
    let n ← Digits.ofBase? base digits
    some ((n : Int), rest)
  let read? : Option (Int × List Char) :=
    match cs with
    | '0' :: 'x' :: rest => ofBase 16 (fun c ↦ (Digits.value? c).isSome) rest
    | '0' :: 'o' :: rest => ofBase 8 isOctalDigit rest
    | '0' :: 'b' :: rest => ofBase 2 isBinaryDigit rest
    | _ =>
      let (negative, cs) := readSign cs
      (readDecimal cs).map fun (digits, rest) ↦
        let n : Int := Digits.ofDecimal digits
        (if negative then -n else n, rest)
  read?.bind fun (value, rest) ↦
    if -9223372036854775808 ≤ value ∧ value ≤ 9223372036854775807 then some (value, rest) else none

/-! ## Moments -/

/-- A number of exactly `width` digits within bounds. -/
def readFixed (width low high : Nat) (cs : List Char) : Option (Nat × List Char) :=
  let digits := cs.take width
  if digits.length = width ∧ digits.all Char.isDigit then
    let n := Digits.ofDecimal digits
    if low ≤ n ∧ n ≤ high then some (n, cs.drop width) else none
  else none

def readMark (mark : Char) : List Char → Option (List Char)
  | c :: rest => if c = mark then some rest else none
  | [] => none

def readDate (cs : List Char) : Option (List Char) := do
  let (year, cs) ← readFixed 4 0 9999 cs
  let (month, cs) ← readMark '-' cs >>= readFixed 2 1 12
  let (_, cs) ← readMark '-' cs >>= readFixed 2 1 (Timestamp.daysInMonth year month)
  some cs

def readTime (cs : List Char) : Option (List Char) := do
  let (_, cs) ← readFixed 2 0 23 cs
  let (_, cs) ← readMark ':' cs >>= readFixed 2 0 59
  let (_, cs) ← readMark ':' cs >>= readFixed 2 0 60
  match cs with
  | '.' :: c :: rest => if c.isDigit then some (rest.dropWhile Char.isDigit) else some cs
  | _ => some cs

def readOffset (cs : List Char) : Option (List Char) :=
  match cs with
  | c :: rest =>
    if c = 'Z' ∨ c = 'z' then some rest
    else if c = '+' ∨ c = '-' then do
      let (_, cs) ← readFixed 2 0 23 rest
      let (_, cs) ← readMark ':' cs >>= readFixed 2 0 59
      some cs
    else none
  | [] => none

/-- A date, a time, or a date and a time with or without an offset. -/
def readMoment (cs : List Char) : Option (List Char) :=
  match readDate cs with
  | none => readTime cs
  | some afterDate =>
    let afterTime? := match afterDate with
      | c :: rest => if c = 'T' ∨ c = 't' ∨ c = ' ' then readTime rest else none
      | [] => none
    match afterTime? with
    | some afterTime => some ((readOffset afterTime).getD afterTime)
    | none => some afterDate

end MeteringAlarms.Toml
