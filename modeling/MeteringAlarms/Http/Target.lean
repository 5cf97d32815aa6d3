import MeteringAlarms.Data.Digits
import MeteringAlarms.Data.Text

/-!
# The target of a request

How the text of an `http` or `https` address becomes the path and query that a request asks for.
Tabs and line ends in it are dropped, backslashes in the path are slashes, segments of one or two
dots are resolved, the part after `#` is left off, and characters that may not stand in a path or a
query are percent-encoded. An address without a host, or with characters that no host has, has no
target.
-/

namespace MeteringAlarms.Http

namespace Target

def isControlOrSpace (c : Char) : Bool := c.toNat ≤ 0x20

def trim (cs : List Char) : List Char :=
  ((cs.dropWhile isControlOrSpace).reverse.dropWhile isControlOrSpace).reverse

def isDropped (c : Char) : Bool := c = '\t' || c = '\n' || c = '\r'

def isSlash (c : Char) : Bool := c = '/' || c = '\\'

def upperHex (n : Nat) : List Char :=
  (Digits.hex 2 n).map Char.toUpper

/-- The bytes of a character, each as a percent sign and two hexadecimal digits. -/
def percentEncode (c : Char) : List Char :=
  (String.toUTF8 (String.ofList [c])).toList.flatMap fun byte ↦ '%' :: upperHex byte.toNat

def isPlain (c : Char) : Bool := 0x20 < c.toNat && c.toNat < 0x7F

/-- Characters that stay as they are in a path. -/
def keptInPath (c : Char) : Bool :=
  isPlain c && !(['"', '<', '>', Char.ofNat 0x60, '\x7b', '\x7d'].contains c)

/-- Characters that stay as they are in a query. -/
def keptInQuery (c : Char) : Bool :=
  isPlain c && !(['"', '<', '>', '#', Char.ofNat 0x27].contains c)

def encode (kept : Char → Bool) (cs : List Char) : List Char :=
  cs.flatMap fun c ↦ if kept c then [c] else percentEncode c

/-- The segment with encoded dots written as dots, in lower case. -/
def dots : List Char → List Char
  | '%' :: '2' :: c :: rest =>
    if c = 'e' ∨ c = 'E' then '.' :: dots rest else '%' :: '2' :: c :: dots rest
  | c :: rest => c :: dots rest
  | [] => []

/-- Resolves the segments of a path; the segments already passed are given last first. -/
def resolveSegments : (passed : List (List Char)) → List (List Char) → List (List Char)
  | passed, [] => passed.reverse
  | passed, [last] =>
    if dots last = ['.', '.'] then ([] :: passed.drop 1).reverse
    else if dots last = ['.'] then ([] :: passed).reverse
    else (last :: passed).reverse
  | passed, segment :: segments =>
    if dots segment = ['.', '.'] then resolveSegments (passed.drop 1) segments
    else if dots segment = ['.'] then resolveSegments passed segments
    else resolveSegments (segment :: passed) segments

/-- The written path for the part of an address after its authority. -/
def path (cs : List Char) : List Char :=
  let segments := match cs with
    | c :: rest => if isSlash c then Text.parts isSlash rest else Text.parts isSlash cs
    | [] => [[]]
  (resolveSegments [] segments).flatMap fun segment ↦ '/' :: encode keptInPath segment

def isHostCharacter (c : Char) : Bool :=
  0x20 < c.toNat && c.toNat ≠ 0x7F &&
    !(['#', '/', ':', '<', '>', '?', '@', '[', '\\', ']', '^', '|', '%'].contains c)

/-- After the colon of a host there is nothing or a number of at most sixteen bits. -/
def isSocketNumber (cs : List Char) : Bool :=
  cs.all Char.isDigit && Digits.ofDecimal cs ≤ 65535

/-- The authority names a host, perhaps with a number. Credentials may stand before an `@`. -/
def isAuthority (cs : List Char) : Bool :=
  let host := (cs.reverse.takeWhile (· ≠ '@')).reverse
  match host with
  | '[' :: rest =>
    let address := rest.takeWhile (· ≠ ']')
    address.contains ':' && address.all (fun c ↦ (Digits.value? c).isSome || c = ':' || c = '.') &&
      match rest.drop address.length with
      | ']' :: ':' :: number => isSocketNumber number
      | [']'] => true
      | _ => false
  | _ =>
    let name := host.takeWhile (· ≠ ':')
    !name.isEmpty && name.all isHostCharacter && isSocketNumber ((host.drop name.length).drop 1)

/-- The characters after the scheme of an address, if it is one of the two. -/
def afterScheme? (cs : List Char) : Option (List Char) :=
  let scheme := (cs.takeWhile (· ≠ ':')).map Char.toLower
  if scheme = "http".toList ∨ scheme = "https".toList then some (cs.drop (scheme.length + 1))
  else none

/-- The path and query that a request for the address asks for. -/
def ofUrl? (url : String) : Option String := do
  let cs := (trim url.toList).filter (!isDropped ·)
  let cs ← afterScheme? cs
  let cs := cs.dropWhile isSlash
  let ends (c : Char) : Bool := isSlash c || c = '?' || c = '#'
  let authority := cs.takeWhile (!ends ·)
  if !isAuthority authority then none else
  let cs := (cs.drop authority.length).takeWhile (· ≠ '#')
  let written := cs.takeWhile (· ≠ '?')
  let query := match cs.drop written.length with
    | '?' :: query => '?' :: encode keptInQuery query
    | _ => []
  some (String.ofList (path written ++ query))

end Target

end MeteringAlarms.Http
