import MeteringAlarms.Json.Basic

/-!
# Writing JSON

Two forms of a value: compact, with no blanks at all, and indented by two blanks a level, where an
empty array or object stays closed up. Strings escape quotes, backslashes and control characters
below U+0020 and nothing else.
-/

namespace MeteringAlarms

namespace Json

def escapeChar (c : Char) : List Char :=
  if c = '"' then ['\\', '"']
  else if c = '\\' then ['\\', '\\']
  else if c = '\x08' then ['\\', 'b']
  else if c = '\x0c' then ['\\', 'f']
  else if c = '\n' then ['\\', 'n']
  else if c = '\r' then ['\\', 'r']
  else if c = '\t' then ['\\', 't']
  else if c.toNat < 0x20 then '\\' :: 'u' :: Digits.hex 4 c.toNat
  else [c]

def stringChars (s : String) : List Char :=
  '"' :: s.toList.flatMap escapeChar ++ ['"']

def numberChars : Number → List Char
  | .int value => (if value < 0 then ['-'] else []) ++ Digits.decimal value.natAbs
  | .float value => value.toChars

mutual

def compactChars : Json → List Char
  | .null => "null".toList
  | .bool value => if value then "true".toList else "false".toList
  | .number value => numberChars value
  | .string value => stringChars value
  | .array items => '[' :: compactItems items ++ [']']
  | .object entries => '\x7b' :: compactEntries entries ++ ['\x7d']

def compactItems : List Json → List Char
  | [] => []
  | [item] => compactChars item
  | item :: items => compactChars item ++ ',' :: compactItems items

def compactEntries : List (String × Json) → List Char
  | [] => []
  | [(name, value)] => stringChars name ++ ':' :: compactChars value
  | (name, value) :: entries =>
    stringChars name ++ ':' :: compactChars value ++ ',' :: compactEntries entries

end

def newline (level : Nat) : List Char :=
  '\n' :: List.replicate (2 * level) ' '

mutual

/-- The indented form of a value whose own line is indented by `level` steps. -/
def indentedChars (level : Nat) : Json → List Char
  | .null => "null".toList
  | .bool value => if value then "true".toList else "false".toList
  | .number value => numberChars value
  | .string value => stringChars value
  | .array [] => ['[', ']']
  | .array items => '[' :: indentedItems (level + 1) items ++ newline level ++ [']']
  | .object [] => ['\x7b', '\x7d']
  | .object entries => '\x7b' :: indentedEntries (level + 1) entries ++ newline level ++ ['\x7d']

def indentedItems (level : Nat) : List Json → List Char
  | [] => []
  | [item] => newline level ++ indentedChars level item
  | item :: items => newline level ++ indentedChars level item ++ ',' :: indentedItems level items

def indentedEntries (level : Nat) : List (String × Json) → List Char
  | [] => []
  | [(name, value)] =>
    newline level ++ stringChars name ++ ':' :: ' ' :: indentedChars level value
  | (name, value) :: entries =>
    newline level ++ stringChars name ++ ':' :: ' ' :: indentedChars level value ++
      ',' :: indentedEntries level entries

end

def compact (value : Json) : String :=
  String.ofList (compactChars value)

def indented (value : Json) : String :=
  String.ofList (indentedChars 0 value)

end Json

end MeteringAlarms
