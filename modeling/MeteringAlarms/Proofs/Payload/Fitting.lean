import MeteringAlarms.Adapter.Dispatch
import MeteringAlarms.Proofs.Payload.Combination
import MeteringAlarms.Proofs.Payload.Nested

/-!
# Documents that fit their type

A valid resource has a registered type and values for its required properties, and nothing else is
known of its properties.  The document of its creation has that type and the rule of that type, and
the rule has the required properties.  The rule of a combination takes truthy values only, though.
Validation does not look at the length of a list, so an empty list of alarms is valid but no part of
the rule; and a combination none of whose rule's fields is truthy has no rule of its own.
-/

namespace MeteringAlarms

open AlarmDocument PropertyName

/-- A valid resource has a registered type and sets what that requires to more than null. -/
theorem Context.validate_eq_ok {context : Context} (h : context.validate = .ok ()) :
    ∃ type, ResourceType.find context.typeName = .ok type ∧
      ∀ property ∈ type.schema, property.required = true →
        ∃ value, context.properties.get? property.name = some value ∧ value.isNull = false := by
  rw [validate] at h
  cases htype : ResourceType.find context.typeName with
  | error failure =>
    rw [htype] at h
    cases h
  | ok type =>
    refine ⟨type, rfl, fun property hproperty hrequired ↦ ?_⟩
    rw [htype] at h
    simp only [bind, Except.bind] at h
    split at h
    · cases h
    · rename_i hnone
      have hset := List.find?_eq_none.1 hnone property hproperty
      rw [hrequired, Bool.true_and, Bool.not_eq_true] at hset
      cases hvalue : context.properties.get? property.name with
      | none =>
        rw [hvalue] at hset
        cases hset
      | some value =>
        rw [hvalue] at hset
        exact ⟨value, rfl, hset⟩

/-- A declared property that is set to more than null is collected as it is. -/
theorem Schema.get?_collect_of_mem {schema : Schema} (hnodup : schema.names.Nodup)
    {property : Property} (hproperty : property ∈ schema) {given : Fields} {value : Json}
    (hvalue : given.get? property.name = some value) (hnull : value.isNull = false) :
    (schema.collect given).get? property.name = some value := by
  obtain ⟨found, hfound⟩ := Option.isSome_iff_exists.1
    ((isSome_find?_iff property.name).2 (List.mem_map_of_mem hproperty))
  rw [get?_collect hnodup, hfound, Option.bind_some, name_of_find? hfound, hvalue]
  simp [Option.filter, hnull]

namespace ResourceType

/-- The type that documents of a type have. -/
def documentType : ResourceType → String
  | .threshold => thresholdType
  | .combination => combinationType

/-- The field that holds the rule of a type. -/
def ruleName : ResourceType → String
  | .threshold => thresholdRule
  | .combination => Payload.combinationRule

/-- The field that holds the rule of the other type. -/
def foreignRuleName : ResourceType → String
  | .threshold => Payload.combinationRule
  | .combination => thresholdRule

/-- The rule of a type takes the value. -/
def takes (type : ResourceType) (value : Json) : Bool :=
  match type with
  | .threshold => true
  | .combination => value.truthy

/-- There is something that the rule of a type takes. -/
def givesRule (type : ResourceType) (context : Context) : Bool :=
  match type with
  | .threshold => true
  | .combination => Payload.combinationFields.any fun name ↦
      ((CombinationAlarm.properties context).get? name).any Json.truthy

end ResourceType

/-- What is said of the document of a creation. -/
structure Context.Fits (context : Context) (type : ResourceType) (document : Fields) : Prop where
  typed : document.get? typeField = some (.string type.documentType)
  ruled : type.givesRule context = true → ∃ rule,
    document.get? type.ruleName = some (.ofFields rule) ∧
    document.get? type.foreignRuleName = none ∧
    ∀ property ∈ type.schema, property.required = true →
      ∃ value, context.properties.get? property.name = some value ∧ value.isNull = false ∧
        rule.get? property.name = if type.takes value then some value else none

theorem ThresholdAlarm.fits_document {context : Context}
    (hset : ∀ property ∈ Schema.threshold, property.required = true →
      ∃ value, context.properties.get? property.name = some value ∧ value.isNull = false) :
    context.Fits .threshold (ofFlat (createPayload context) true) := by
  have hflat := (isBody_createPayload context).isFlat
  have hdocument := get?_ofFlat hflat true
  simp only [Bool.true_or, if_true] at hdocument
  have hnames : ∀ property ∈ Schema.threshold, property.required = true →
      property.name ≠ query ∧ property.name ≠ "name" ∧ property.name ≠ matchingMetadata ∧
        property.name ∈ thresholdFields ∧ property.name ∉ actionLists := by
    decide
  refine ⟨?_, fun _ ↦ ⟨nestedRule (createPayload context), ?_, ?_, ?_⟩⟩
  · rw [hdocument, if_neg (by decide), if_pos rfl]
    rfl
  · exact (hdocument _).trans (if_pos rfl)
  · rw [ResourceType.foreignRuleName, hdocument, if_neg (by decide), if_neg (by decide),
      if_neg (by decide), hflat.combination]
  · intro property hproperty hrequired
    obtain ⟨value, hvalue, hnull⟩ := hset property hproperty hrequired
    obtain ⟨hquery, hname, hmetadata, hfield, haction⟩ := hnames property hproperty hrequired
    refine ⟨value, hvalue, hnull, ?_⟩
    have hcollect := Schema.get?_collect_of_mem Schema.nodup_names_threshold hproperty hvalue hnull
    rw [nestedRule, get?_ruleOf_withQuery hflat.query, if_neg hquery, if_pos hfield,
      get?_createPayload, if_neg hname, hcollect, Option.map_some, Payload.thresholdValue,
      if_neg hmetadata, Actions.resolveValue_of_notMem _ haction]
    rfl

namespace CombinationAlarm

open Payload

theorem get?_combinationRuleOf_flatBody (context : Context) {name : String}
    (hname : name ∈ combinationFields) :
    (combinationRuleOf (flatBody context)).get? name =
      ((properties context).get? name).filter Json.truthy := by
  rw [combinationRuleOf_flatBody, get?_combinationRuleOf, if_pos hname]

theorem isEmpty_combinationRuleOf_flatBody {context : Context}
    (h : ResourceType.combination.givesRule context = true) :
    (combinationRuleOf (flatBody context)).isEmpty = false := by
  rw [combinationRuleOf_flatBody, isEmpty_combinationRuleOf, Bool.not_eq_false']
  exact h

theorem fits_document {context : Context}
    (hset : ∀ property ∈ Schema.combination, property.required = true →
      ∃ value, context.properties.get? property.name = some value ∧ value.isNull = false) :
    context.Fits .combination (ofFlat (createPayload context) true) := by
  have hnames : ∀ property ∈ Schema.combination, property.required = true →
      property.name ∈ combinationFields := by
    decide
  have htype : (createPayload context).get? typeField = some (.string combinationType) := by
    rw [get?_createPayload, if_neg (by decide), if_neg (by decide), get?_flatBody, if_pos rfl]
  refine ⟨?_, fun hrule ↦ ⟨combinationRuleOf (flatBody context), ?_⟩⟩
  · rw [ofFlat_createPayload]
    split
    · exact htype
    · rw [OrderedMap.get?_insert, if_neg (by decide)]
      exact htype
  · have hempty := isEmpty_combinationRuleOf_flatBody hrule
    have hentry : (createPayload context).get? combinationRule =
        some (.ofFields (combinationRuleOf (flatBody context))) := by
      rw [get?_createPayload, if_pos rfl, ruleItem?, hempty]
      rfl
    have hdocument : ofFlat (createPayload context) true = createPayload context := by
      rw [ofFlat_createPayload, if_pos]
      rw [OrderedMap.contains_eq_isSome, hentry, Option.isSome_some]
    rw [hdocument]
    refine ⟨hentry, get?_createPayload_eq_none context (by decide) (by decide), ?_⟩
    intro property hproperty hrequired
    obtain ⟨value, hvalue, hnull⟩ := hset property hproperty hrequired
    refine ⟨value, hvalue, hnull, ?_⟩
    have hcollect : (properties context).get? property.name = some value :=
      Schema.get?_collect_of_mem nodup_names_combination hproperty hvalue hnull
    rw [get?_combinationRuleOf_flatBody context (hnames property hproperty hrequired), hcollect]
    rfl

end CombinationAlarm

/-- The document of the creation of a valid resource has the type that the resource has.  If that is
a threshold, or if one of the fields of the rule of a combination is truthy, it has the rule of that
type and not that of the other, and the rule has the required properties with the values that the
resource sets them to, save that the rule of a combination has no values that are not truthy. -/
theorem Context.document_fits {context : Context} (hvalid : context.validate = .ok ()) :
    ∃ type, ResourceType.find context.typeName = .ok type ∧
      context.Fits type (ofFlat (type.createPayload context) true) := by
  obtain ⟨type, htype, hset⟩ := validate_eq_ok hvalid
  refine ⟨type, htype, ?_⟩
  cases type with
  | threshold => exact ThresholdAlarm.fits_document hset
  | combination => exact CombinationAlarm.fits_document hset

/-- A combination of one alarm, with another property that is not declared. -/
theorem Context.document_fits_of_one_alarm :
    let context : Context :=
      ⟨"OS::Ceilometer::CombinationAlarm", "both", "stack",
        .ofList [("alarm_ids", .array [.string "a"]), ("operator", .string ""), ("more", .null)],
        .empty⟩
    context.validate = .ok () ∧
    ∃ type, ResourceType.find context.typeName = .ok type ∧
      context.Fits type (ofFlat (type.createPayload context) true) := by
  intro context
  have hvalid : context.validate = .ok () := by decide +kernel
  exact ⟨hvalid, document_fits hvalid⟩

/-- An empty list of alarms is valid, and the rule of the document is without it. -/
theorem CombinationAlarm.document_without_alarm_ids :
    let context : Context :=
      ⟨"OS::Ceilometer::CombinationAlarm", "both", "stack", .ofList [("alarm_ids", .array [])],
        .empty⟩
    let document := ofFlat (ResourceType.combination.createPayload context) true
    context.validate = .ok () ∧ context.properties.get? alarmIds = some (.array []) ∧
    ∃ rule : Fields, document.get? Payload.combinationRule = some (.ofFields rule) ∧
      rule.get? alarmIds = none := by
  intro context document
  refine ⟨by decide +kernel, by decide +kernel, .ofList [(repeatActions, .bool true)], ?_, ?_⟩
  · decide +kernel
  · decide +kernel

/-- If no repetition is asked for either, the document has no rule of a combination at all, and the
empty one of an alarm on a meter in its place. -/
theorem CombinationAlarm.document_without_rule :
    let context : Context :=
      ⟨"OS::Ceilometer::CombinationAlarm", "both", "stack",
        .ofList [("alarm_ids", .array []), ("repeat_actions", .bool false)], .empty⟩
    let document := ofFlat (ResourceType.combination.createPayload context) true
    context.validate = .ok () ∧ ResourceType.combination.givesRule context = false ∧
    document.get? typeField = some (.string combinationType) ∧
    document.get? Payload.combinationRule = none ∧
    document.get? thresholdRule = some (.ofFields .empty) := by
  decide +kernel

end MeteringAlarms
