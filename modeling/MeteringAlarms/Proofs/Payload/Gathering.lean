import MeteringAlarms.Proofs.Payload.Combination

/-!
# Gathering the rule of a combination

Of the fields that make up a rule those that are truthy move into the rule of a combination and the
others drop out.  Nothing else moves, so the rule's entries can be put back where they came from,
and a body whose rule has been gathered has nothing left to gather.  What is not truthy is listed
value by value: null and false, the zeros of the two kinds of numbers, and what is empty.
-/

namespace MeteringAlarms

/-! ## Values that are not truthy -/

theorem Binary64.isZero_iff {x : Binary64} : x.isZero = true ↔ ∃ negative, x = .zero negative := by
  obtain ⟨negative, exponent, fraction⟩ := x
  simp [isZero, zero]

theorem Number.isZero_iff {value : Number} :
    value.isZero = true ↔ value = .int 0 ∨ ∃ negative, value = .float (.zero negative) := by
  cases value with
  | int value => simp [isZero]
  | float value => simp [isZero, Binary64.isZero_iff]

/-- All values that are not truthy. -/
def Json.falsy : List Json :=
  [.null, .bool false, .number (.int 0), .number (.float (.zero false)),
    .number (.float (.zero true)), .string "", .array [], .object []]

theorem Json.truthy_eq_false_iff {value : Json} : value.truthy = false ↔ value ∈ falsy := by
  cases value with
  | number value => simp [truthy, falsy, Number.isZero_iff]
  | _ => simp [truthy, falsy]

namespace Payload

/-! ## The rule and the other entries -/

variable {properties : Fields}

/-- Some field of the rule has a value that the rule takes. -/
def GivesRule (properties : Fields) : Prop :=
  ∃ name ∈ combinationFields, ∃ value, properties.get? name = some value ∧ value.truthy = true

theorem get?_combinationRuleOf_eq_some_iff {name : String} {value : Json} :
    (combinationRuleOf properties).get? name = some value ↔
      name ∈ combinationFields ∧ properties.get? name = some value ∧ value.truthy = true := by
  rw [get?_combinationRuleOf, Option.ite_none_right_eq_some, Option.filter_eq_some_iff]

theorem isEmpty_combinationRuleOf_eq_false_iff :
    (combinationRuleOf properties).isEmpty = false ↔ GivesRule properties := by
  rw [isEmpty_combinationRuleOf, Bool.not_eq_false', List.any_eq_true]
  refine exists_congr fun name ↦ and_congr_right fun _ ↦ ?_
  simp [Option.any_eq_true]

theorem isEmpty_combinationRuleOf_of_not_givesRule (h : ¬GivesRule properties) :
    (combinationRuleOf properties).isEmpty = true :=
  Bool.of_not_eq_false (isEmpty_combinationRuleOf_eq_false_iff.not.2 h)

theorem ruleItem?_of_givesRule (h : GivesRule properties) :
    ruleItem? properties = some (.ofFields (combinationRuleOf properties)) := by
  rw [ruleItem?, isEmpty_combinationRuleOf_eq_false_iff.2 h]
  rfl

theorem ruleItem?_of_not_givesRule (h : ¬GivesRule properties) : ruleItem? properties = none := by
  rw [ruleItem?, isEmpty_combinationRuleOf_of_not_givesRule h]
  rfl

/-- What is said of a body that is gathered from properties. -/
structure Gathers (properties body : Fields) : Prop where
  gone : ∀ name ∈ combinationFields, body.get? name = none
  kept : ∀ key, key ∉ combinationFields → key ≠ combinationRule →
    body.get? key = properties.get? key
  gathered : GivesRule properties → ∃ rule,
    body.get? combinationRule = some (.ofFields rule) ∧
    ∀ name value, rule.get? name = some value ↔
      name ∈ combinationFields ∧ properties.get? name = some value ∧ value.truthy = true
  ungathered : ¬GivesRule properties →
    body.get? combinationRule = properties.get? combinationRule

theorem gathers_reshapeCombination (properties : Fields) :
    Gathers properties (reshapeCombination properties) where
  gone := by
    have hrule : ∀ name ∈ combinationFields, name ≠ combinationRule := by decide
    intro name hname
    rw [get?_reshapeCombination, if_neg (hrule name hname), if_pos hname]
  kept := fun _ ↦ get?_reshapeCombination_of_notMem properties
  gathered := by
    intro hgives
    refine ⟨combinationRuleOf properties, ?_, fun _ _ ↦ get?_combinationRuleOf_eq_some_iff⟩
    rw [get?_reshapeCombination, if_pos rfl, ruleItem?_of_givesRule hgives, Option.some_or]
  ungathered := by
    intro hgives
    rw [get?_reshapeCombination, if_pos rfl, ruleItem?_of_not_givesRule hgives, Option.none_or]

/-! ## Putting the rule back -/

/-- The body with the entries of its rule put back beside the others. -/
def spreadRule (body : Fields) : Fields :=
  match (body.get? combinationRule).bind Json.fields? with
  | some rule => (body.erase combinationRule).overlay rule
  | none => body

theorem spreadRule_eq_overlay (hfree : properties.get? combinationRule = none) :
    spreadRule (reshapeCombination properties) =
      ((reshapeCombination properties).erase combinationRule).overlay
        (combinationRuleOf properties) := by
  have hitem : (reshapeCombination properties).get? combinationRule = ruleItem? properties := by
    rw [get?_reshapeCombination_of_free hfree, if_pos rfl]
  rw [spreadRule, hitem]
  by_cases hgives : GivesRule properties
  · rw [ruleItem?_of_givesRule hgives, Option.bind_some, AlarmDocument.fields?_ofFields]
  · rw [ruleItem?_of_not_givesRule hgives] at hitem ⊢
    rw [OrderedMap.overlay_of_isEmpty _ (isEmpty_combinationRuleOf_of_not_givesRule hgives),
      OrderedMap.erase_of_get?_eq_none hitem]
    rfl

/-- Where the properties have no rule of their own, only what the rule does not take is lost. -/
theorem spreadRule_reshapeCombination (hfree : properties.get? combinationRule = none) :
    spreadRule (reshapeCombination properties) = effective properties := by
  rw [spreadRule_eq_overlay hfree]
  apply OrderedMap.ext_get?
  intro key
  rw [OrderedMap.get?_overlay, OrderedMap.get?_erase, get?_combinationRuleOf, get?_effective,
    get?_reshapeCombination]
  by_cases hrule : key = combinationRule
  · have hkey : key ∉ combinationFields := by
      rw [hrule]
      decide
    rw [if_neg hkey, if_pos hrule, if_neg hkey, hrule, hfree, Option.none_or]
  · by_cases hkey : key ∈ combinationFields
    · rw [if_pos hkey, if_neg hrule, if_neg hrule, if_pos hkey, if_pos hkey, Option.or_none]
    · rw [if_neg hkey, if_neg hrule, if_neg hrule, if_neg hkey, if_neg hkey, Option.none_or]

/-- A body without the fields of a rule has nothing to gather. -/
theorem reshapeCombination_of_gone {body : Fields}
    (hgone : ∀ name ∈ combinationFields, body.get? name = none) :
    reshapeCombination body = body := by
  have hgives : ¬GivesRule body := by
    rintro ⟨name, hname, value, hvalue, -⟩
    rw [hgone name hname] at hvalue
    cases hvalue
  apply OrderedMap.ext_get?
  intro key
  rw [get?_reshapeCombination, ruleItem?_of_not_givesRule hgives, Option.none_or]
  by_cases hkey : key ∈ combinationFields
  · rw [if_pos hkey, hgone key hkey, ite_self]
  · rw [if_neg hkey, ite_self]

/-- Gathering the rule of properties moves the truthy ones of its fields into the rule, drops the
others of them and touches no other entry.  Unless the properties had a rule of their own, putting
the rule back gives them again, less the fields that were dropped; and to gather twice is to gather
once.  No values but null, false, the zeros and what is empty are not truthy. -/
theorem reshapeCombination_keeps_truthy (properties : Fields) :
    Gathers properties (reshapeCombination properties) ∧
    (properties.get? combinationRule = none →
      spreadRule (reshapeCombination properties) = effective properties) ∧
    reshapeCombination (reshapeCombination properties) = reshapeCombination properties ∧
    ∀ value : Json, value.truthy = false ↔ value ∈ Json.falsy :=
  ⟨gathers_reshapeCombination properties, spreadRule_reshapeCombination,
    reshapeCombination_of_gone (gathers_reshapeCombination properties).gone,
    fun _ ↦ Json.truthy_eq_false_iff⟩

/-- Of two alarms and an empty operator the rule gets the alarms, and the operator is dropped. -/
theorem reshapeCombination_keeps_truthy_of_alarms :
    let properties : Fields := .ofList
      [("alarm_ids", .array [.string "a", .string "b"]), ("operator", .string ""),
        ("description", .string "both")]
    properties.get? combinationRule = none ∧ GivesRule properties ∧
    Gathers properties (reshapeCombination properties) ∧
    spreadRule (reshapeCombination properties) = .ofList
      [("alarm_ids", .array [.string "a", .string "b"]), ("description", .string "both")] := by
  intro properties
  have hfree : properties.get? combinationRule = none := by decide
  obtain ⟨hgathers, hspread, -⟩ := reshapeCombination_keeps_truthy properties
  refine ⟨hfree, ⟨"alarm_ids", by decide, _, rfl, rfl⟩, hgathers, ?_⟩
  rw [hspread hfree]
  decide +kernel

end Payload

end MeteringAlarms
