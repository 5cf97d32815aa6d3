import MeteringAlarms.Data.Binary64
import MeteringAlarms.Data.OrderedMap

/-!
# JSON values

Numbers are integers between `-2 ^ 63` and `2 ^ 64 - 1` or finite doubles, and `1` and `1.0` are
different values. An object is the list of its entries; `Json.Canonical` says that all objects of a
value list their keys in ascending order and all its integers are in range, as reading guarantees.
Maps of values that the library computes with are `Fields`, which are ascending by type.
-/

namespace MeteringAlarms

inductive Number where
  | int (value : Int)
  | float (value : Binary64)
  deriving DecidableEq

namespace Number

def minInt : Int := -9223372036854775808
def maxInt : Int := 18446744073709551615

def isZero : Number → Bool
  | .int value => value == 0
  | .float value => value.isZero

end Number

inductive Json where
  | null
  | bool (value : Bool)
  | number (value : Number)
  | string (value : String)
  | array (items : List Json)
  | object (entries : List (String × Json))

/-- A map from names to JSON values. -/
abbrev Fields := OrderedMap Json

namespace Json

instance : Inhabited Json := ⟨.null⟩

mutual

def beq : Json → Json → Bool
  | .null, .null => true
  | .bool a, .bool b => a == b
  | .number a, .number b => a == b
  | .string a, .string b => a == b
  | .array a, .array b => beqItems a b
  | .object a, .object b => beqEntries a b
  | _, _ => false

def beqItems : List Json → List Json → Bool
  | [], [] => true
  | a :: as, b :: bs => beq a b && beqItems as bs
  | _, _ => false

def beqEntries : List (String × Json) → List (String × Json) → Bool
  | [], [] => true
  | (k, a) :: as, (l, b) :: bs => k == l && beq a b && beqEntries as bs
  | _, _ => false

end

mutual

theorem beq_iff : ∀ a b : Json, beq a b = true ↔ a = b
  | .null, b => by cases b <;> simp [beq]
  | .bool a, b => by cases b <;> simp [beq]
  | .number a, b => by cases b <;> simp [beq]
  | .string a, b => by cases b <;> simp [beq]
  | .array a, b => by cases b <;> simp [beq, beqItems_iff a]
  | .object a, b => by cases b <;> simp [beq, beqEntries_iff a]

theorem beqItems_iff : ∀ a b : List Json, beqItems a b = true ↔ a = b
  | [], b => by cases b <;> simp [beqItems]
  | a :: as, b => by cases b <;> simp [beqItems, beq_iff a, beqItems_iff as]

theorem beqEntries_iff : ∀ a b : List (String × Json), beqEntries a b = true ↔ a = b
  | [], b => by cases b <;> simp [beqEntries]
  | (k, a) :: as, b => by
    rcases b with _ | ⟨⟨l, b⟩, bs⟩ <;> simp [beqEntries, beq_iff a, beqEntries_iff as]

end

instance : DecidableEq Json := fun a b ↦ decidable_of_iff _ (beq_iff a b)

mutual

/-- Objects list their keys in ascending order and integers are in range, at every depth. -/
def Canonical : Json → Prop
  | .number (.int value) => Number.minInt ≤ value ∧ value ≤ Number.maxInt
  | .array items => CanonicalItems items
  | .object entries => Entries.Ascending entries ∧ CanonicalEntries entries
  | _ => True

def CanonicalItems : List Json → Prop
  | [] => True
  | item :: items => Canonical item ∧ CanonicalItems items

def CanonicalEntries : List (String × Json) → Prop
  | [] => True
  | (_, value) :: entries => Canonical value ∧ CanonicalEntries entries

end

mutual

/-- The number of arrays and objects around the innermost value. -/
def depth : Json → Nat
  | .array items => depthItems items + 1
  | .object entries => depthEntries entries + 1
  | _ => 0

def depthItems : List Json → Nat
  | [] => 0
  | item :: items => max (depth item) (depthItems items)

def depthEntries : List (String × Json) → Nat
  | [] => 0
  | (_, value) :: entries => max (depth value) (depthEntries entries)

end

/-- Null, false, zero and empty strings, lists and objects are not truthy; all else is. -/
def truthy : Json → Bool
  | .null => false
  | .bool value => value
  | .number value => !value.isZero
  | .string value => !value.isEmpty
  | .array items => !items.isEmpty
  | .object entries => !entries.isEmpty

def isNull : Json → Bool
  | .null => true
  | _ => false

def string? : Json → Option String
  | .string value => some value
  | _ => none

/-- The map of an object; the identity on objects with ascending keys. -/
def fields? : Json → Option Fields
  | .object entries => some (OrderedMap.ofList entries)
  | _ => none

def ofFields (fields : Fields) : Json := .object fields.entries

def ofOption (value? : Option String) : Json :=
  match value? with
  | some value => .string value
  | none => .null

def ofNat (n : Nat) : Json := .number (.int n)

/-- The object with the listed entries, the last of a repeated key counting. -/
def ofEntries (entries : List (String × Json)) : Json :=
  ofFields (OrderedMap.ofList entries)

end Json

end MeteringAlarms
