/-!
# Tests and cuts of text

Beginnings, ends and parts of text, found by looking at the characters one by one, so that they
reduce to facts about lists.
-/

namespace MeteringAlarms.Text

def startsWith (text lead : String) : Bool :=
  lead.toList.isPrefixOf text.toList

/-- The text without any number of copies of a character at its end. -/
def dropTrailing (text : String) (c : Char) : String :=
  String.ofList ((text.toList.reverse.dropWhile (· == c)).reverse)

/-- The parts of a list of characters between separators, empty ones included. -/
def parts (isSeparator : Char → Bool) : List Char → List (List Char)
  | [] => [[]]
  | c :: cs =>
    if isSeparator c then [] :: parts isSeparator cs
    else match parts isSeparator cs with
      | part :: rest => (c :: part) :: rest
      | [] => [[c]]

end MeteringAlarms.Text
