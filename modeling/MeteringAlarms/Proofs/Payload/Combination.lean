import MeteringAlarms.Adapter.Combination
import MeteringAlarms.Proofs.Alarm.Document
import MeteringAlarms.Proofs.Payload.Actions
import MeteringAlarms.Proofs.Template.Schema

/-!
# Payloads of combinations

A combination sends its document in the nested form, with the rule gathered from those of its
fields that are truthy.  A change to a value that is not is not sent, so it leaves the entry in
force that the stored rule has; all other changes take effect.  So merging the changes into a
document gives the document of the properties in force, whatever they are.
-/

namespace MeteringAlarms

open PropertyName

namespace Payload

/-- The changes that take effect: all but those of the rule's fields to values that it does not
take. -/
def effective (changes : Fields) : Fields :=
  .ofList (changes.entries.filter fun entry ↦
    !combinationFields.contains entry.1 || entry.2.truthy)

theorem get?_effective (changes : Fields) (key : String) :
    (effective changes).get? key =
      if key ∈ combinationFields then (changes.get? key).filter Json.truthy
      else changes.get? key := by
  rw [effective, OrderedMap.get?_ofList_filter]
  cases changes.get? key with
  | none => split <;> rfl
  | some value => by_cases hkey : key ∈ combinationFields <;> simp [hkey]

theorem get?_combinationRuleOf (properties : Fields) (key : String) :
    (combinationRuleOf properties).get? key =
      if key ∈ combinationFields then (properties.get? key).filter Json.truthy else none :=
  OrderedMap.get?_ofList_names combinationFields _ key (by decide)

/-- The rule has no entry unless one of its fields is truthy. -/
theorem isEmpty_combinationRuleOf (properties : Fields) :
    (combinationRuleOf properties).isEmpty =
      !combinationFields.any fun name ↦ (properties.get? name).any Json.truthy := by
  rw [Bool.eq_iff_iff, OrderedMap.isEmpty_iff, Bool.not_eq_true', List.any_eq_false]
  refine forall_congr' fun name ↦ ?_
  rw [get?_combinationRuleOf]
  by_cases hname : name ∈ combinationFields
  · rw [if_pos hname, Option.filter_eq_none_iff]
    cases properties.get? name <;> simp [hname]
  · simp [hname]

theorem combinationRuleOf_insert (properties : Fields) {key : String}
    (hkey : key ∉ combinationFields) (value : Json) :
    combinationRuleOf (properties.insert key value) = combinationRuleOf properties := by
  apply OrderedMap.ext_get?
  intro name
  rw [get?_combinationRuleOf, get?_combinationRuleOf, OrderedMap.get?_insert]
  split
  · rename_i hname
    rw [if_neg]
    rintro rfl
    exact hkey hname
  · rfl

/-- The rule as an entry of a document, if there is one. -/
def ruleItem? (properties : Fields) : Option Json :=
  let rule := combinationRuleOf properties
  if rule.isEmpty then none else some (.ofFields rule)

/-- Gathering the rule touches nothing but the rule and its fields. -/
theorem get?_reshapeCombination (properties : Fields) (key : String) :
    (reshapeCombination properties).get? key =
      if key = combinationRule then (ruleItem? properties).or (properties.get? key)
      else if key ∈ combinationFields then none else properties.get? key := by
  have hrule : combinationRule ∉ combinationFields := by decide
  rw [reshapeCombination, ruleItem?]
  split
  · rw [OrderedMap.get?_foldl_erase, Option.none_or]
    by_cases hkey : key = combinationRule
    · rw [if_pos hkey, hkey, if_neg hrule]
    · rw [if_neg hkey]
  · rw [OrderedMap.get?_insert, OrderedMap.get?_foldl_erase, Option.some_or]

theorem get?_reshapeCombination_of_free {properties : Fields}
    (hfree : properties.get? combinationRule = none) (key : String) :
    (reshapeCombination properties).get? key =
      if key = combinationRule then ruleItem? properties
      else if key ∈ combinationFields then none else properties.get? key := by
  rw [get?_reshapeCombination]
  by_cases hkey : key = combinationRule
  · rw [if_pos hkey, if_pos hkey, hkey, hfree, Option.or_none]
  · rw [if_neg hkey, if_neg hkey]

theorem get?_reshapeCombination_of_notMem (properties : Fields) {key : String}
    (hkey : key ∉ combinationFields) (hrule : key ≠ combinationRule) :
    (reshapeCombination properties).get? key = properties.get? key := by
  rw [get?_reshapeCombination, if_neg hrule, if_neg hkey]

theorem contains_reshapeCombination {properties : Fields}
    (hfree : properties.get? combinationRule = none) :
    (reshapeCombination properties).contains combinationRule =
      !(combinationRuleOf properties).isEmpty := by
  rw [OrderedMap.contains_eq_isSome, get?_reshapeCombination_of_free hfree, if_pos rfl, ruleItem?]
  cases (combinationRuleOf properties).isEmpty <;> rfl

theorem combinationRuleOf_overlay (flat changes : Fields) :
    combinationRuleOf (flat.overlay (effective changes)) =
      (combinationRuleOf flat).overlay (combinationRuleOf changes) := by
  apply OrderedMap.ext_get?
  intro key
  rw [OrderedMap.get?_overlay, get?_combinationRuleOf, get?_combinationRuleOf,
    get?_combinationRuleOf, OrderedMap.get?_overlay, get?_effective]
  by_cases hkey : key ∈ combinationFields
  · rw [if_pos hkey, if_pos hkey, if_pos hkey, if_pos hkey]
    cases changes.get? key with
    | none => rfl
    | some value => cases hvalue : value.truthy <;> simp [Option.filter, hvalue]
  · rw [if_neg hkey, if_neg hkey, if_neg hkey, Option.none_or]

/-- The rule after changes is merged from the rule before and that of the changes. -/
theorem ruleItem?_overlay (flat changes : Fields) :
    ruleItem? (flat.overlay (effective changes)) =
      match ruleItem? changes with
      | some value => some (AlarmDocument.mergedValue (ruleItem? flat) value)
      | none => ruleItem? flat := by
  rw [ruleItem?, ruleItem?, ruleItem?, combinationRuleOf_overlay]
  generalize combinationRuleOf flat = rule
  generalize combinationRuleOf changes = changed
  rw [OrderedMap.isEmpty_overlay]
  cases hchanged : changed.isEmpty with
  | true =>
    rw [OrderedMap.overlay_of_isEmpty rule hchanged, Bool.and_true]
    rfl
  | false =>
    rw [Bool.and_false]
    cases hrule : rule.isEmpty with
    | true =>
      rw [OrderedMap.eq_empty_of_isEmpty hrule, OrderedMap.empty_overlay]
      exact congrArg some (AlarmDocument.mergedValue_none _).symm
    | false => exact congrArg some (AlarmDocument.mergedValue_ofFields rule changed).symm

/-- Merging reshaped changes into a reshaped body gives the reshaped body of the changes that take
effect. -/
theorem merge_reshapeCombination {flat changes : Fields}
    (hflat : flat.get? combinationRule = none) (hchanges : changes.get? combinationRule = none)
    (hplain : ∀ key value, key ∉ combinationFields → changes.get? key = some value →
      value.fields? = none) :
    AlarmDocument.merge (reshapeCombination flat) (reshapeCombination changes) =
      reshapeCombination (flat.overlay (effective changes)) := by
  have hnext : (flat.overlay (effective changes)).get? combinationRule = none := by
    rw [OrderedMap.get?_overlay, get?_effective, if_neg (by decide), hchanges, Option.none_or,
      hflat]
  apply OrderedMap.ext_get?
  intro key
  rw [AlarmDocument.get?_merge, get?_reshapeCombination_of_free hflat,
    get?_reshapeCombination_of_free hchanges, get?_reshapeCombination_of_free hnext]
  by_cases hrule : key = combinationRule
  · rw [if_pos hrule, if_pos hrule, if_pos hrule]
    refine Eq.trans ?_ (ruleItem?_overlay flat changes).symm
    cases ruleItem? changes <;> rfl
  · rw [if_neg hrule, if_neg hrule, if_neg hrule]
    by_cases hkey : key ∈ combinationFields
    · rw [if_pos hkey, if_pos hkey, if_pos hkey]
    · rw [if_neg hkey, if_neg hkey, if_neg hkey, OrderedMap.get?_overlay, get?_effective,
        if_neg hkey]
      cases hvalue : changes.get? key with
      | none => rw [Option.none_or]
      | some value =>
        rw [Option.some_or]
        dsimp only
        rw [AlarmDocument.mergedValue_of_plain _ (hplain key value hkey hvalue)]

end Payload

namespace CombinationAlarm

open Payload AlarmDocument

theorem nodup_names_combination : Schema.combination.names.Nodup := by decide

/-- The body of a creation before its rule is gathered. -/
def flatBody (context : Context) : Fields :=
  ((Actions.resolve context.resources (properties context)).insert "name"
    (.string context.physicalName)).insert typeField (.string combinationType)

theorem createPayload_eq (context : Context) :
    createPayload context = reshapeCombination (flatBody context) := rfl

theorem get?_flatBody (context : Context) (key : String) :
    (flatBody context).get? key =
      if key = typeField then some (.string combinationType)
      else if key = "name" then some (.string context.physicalName)
      else ((properties context).get? key).map (Actions.resolveValue context.resources key) := by
  rw [flatBody, OrderedMap.get?_insert, OrderedMap.get?_insert, Actions.get?_resolve]

/-- The names that a body of a combination may have. -/
abbrev bodyNames : List String :=
  typeField :: "name" :: Schema.combination.names

theorem get?_flatBody_eq_none (context : Context) {key : String} (hkey : key ∉ bodyNames) :
    (flatBody context).get? key = none := by
  have htype : key ≠ typeField := fun h ↦ hkey (h ▸ List.mem_cons_self)
  have hname : key ≠ "name" := fun h ↦ hkey (h ▸ List.mem_cons_of_mem _ List.mem_cons_self)
  rw [get?_flatBody, if_neg htype, if_neg hname]
  cases hvalue : (properties context).get? key with
  | none => rfl
  | some value =>
    have hdeclared : key ∈ Schema.combination.names :=
      Schema.mem_names_of_isSome nodup_names_combination (Option.isSome_of_eq_some hvalue)
    exact absurd (List.mem_cons_of_mem _ (List.mem_cons_of_mem _ hdeclared)) hkey

theorem effective_resolve (resources : StackResources) (changes : Fields) :
    effective (Actions.resolve resources changes) =
      Actions.resolve resources (effective changes) := by
  have hnotMem : ∀ name ∈ combinationFields, name ∉ actionLists := by decide
  apply OrderedMap.ext_get?
  intro key
  rw [get?_effective, Actions.get?_resolve, Actions.get?_resolve, get?_effective]
  by_cases hkey : key ∈ combinationFields
  · have hresolve := Actions.resolveValue_of_notMem resources (hnotMem key hkey)
    rw [if_pos hkey, if_pos hkey]
    cases changes.get? key with
    | none => rfl
    | some value => cases hvalue : value.truthy <;> simp [Option.filter, hvalue, hresolve]
  · rw [if_neg hkey, if_neg hkey]

theorem combinationRuleOf_resolve (resources : StackResources) (properties : Fields) :
    combinationRuleOf (Actions.resolve resources properties) = combinationRuleOf properties := by
  have hnotMem : ∀ name ∈ combinationFields, name ∉ actionLists := by decide
  apply OrderedMap.ext_get?
  intro key
  rw [get?_combinationRuleOf, get?_combinationRuleOf, Actions.get?_resolve]
  by_cases hkey : key ∈ combinationFields
  · rw [if_pos hkey, if_pos hkey]
    cases properties.get? key with
    | none => rfl
    | some value =>
      rw [Option.map_some, Actions.resolveValue_of_notMem resources (hnotMem key hkey)]
  · rw [if_neg hkey, if_neg hkey]

/-- Neither the name nor the type nor the resolved actions are for the rule. -/
theorem combinationRuleOf_flatBody (context : Context) :
    combinationRuleOf (flatBody context) = combinationRuleOf (properties context) := by
  have hnames : typeField ∉ combinationFields ∧ "name" ∉ combinationFields := by decide
  rw [flatBody, combinationRuleOf_insert _ hnames.1, combinationRuleOf_insert _ hnames.2,
    combinationRuleOf_resolve]

theorem get?_createPayload (context : Context) (key : String) :
    (createPayload context).get? key =
      if key = combinationRule then ruleItem? (flatBody context)
      else if key ∈ combinationFields then none else (flatBody context).get? key :=
  get?_reshapeCombination_of_free (get?_flatBody_eq_none context (by decide)) key

theorem get?_createPayload_eq_none (context : Context) {key : String} (hkey : key ∉ bodyNames)
    (hrule : key ≠ combinationRule) : (createPayload context).get? key = none := by
  rw [get?_createPayload, if_neg hrule, get?_flatBody_eq_none context hkey, ite_self]

/-- A creation without a rule is taken for one of an alarm on one meter, with an empty rule. -/
theorem ofFlat_createPayload (context : Context) :
    ofFlat (createPayload context) true =
      if (createPayload context).contains combinationRule then createPayload context
      else (createPayload context).insert thresholdRule (.ofFields .empty) := by
  have hfree : ∀ key ∈ ruleFields, (createPayload context).get? key = none := by
    have hnames : ∀ key ∈ ruleFields, key ∉ bodyNames ∧ key ≠ combinationRule := by decide
    intro key hkey
    exact get?_createPayload_eq_none context (hnames key hkey).1 (hnames key hkey).2
  have htype : (createPayload context).contains typeField = true := by
    rw [OrderedMap.contains_eq_isSome, get?_createPayload, if_neg (by decide), if_neg (by decide),
      get?_flatBody, if_pos rfl, Option.isSome_some]
  cases hrule : (createPayload context).contains combinationRule with
  | true => rw [ofFlat, hrule, if_pos rfl, if_pos rfl]
  | false =>
    rw [ofFlat_of_typed hfree hrule htype]
    rfl

section Declared

variable (context : Context) {changes : Fields}
  (hdeclared : ∀ entry ∈ changes.entries, entry.1 ∈ Schema.combination.names)
include hdeclared

theorem get?_eq_none_of_notMem {key : String} (hkey : key ∉ Schema.combination.names) :
    changes.get? key = none := by
  cases hvalue : changes.get? key with
  | none => rfl
  | some value => exact absurd (hdeclared _ (OrderedMap.get?_eq_some_iff.1 hvalue)) hkey

theorem get?_resolve_eq_none {key : String} (hkey : key ∉ Schema.combination.names) :
    (Actions.resolve context.resources changes).get? key = none := by
  rw [Actions.get?_resolve, get?_eq_none_of_notMem hdeclared hkey, Option.map_none]

theorem get?_changePayload (key : String) :
    (changePayload context changes).get? key =
      if key = combinationRule then ruleItem? (Actions.resolve context.resources changes)
      else if key ∈ combinationFields then none
      else (Actions.resolve context.resources changes).get? key :=
  get?_reshapeCombination_of_free (get?_resolve_eq_none context hdeclared (by decide)) key

theorem get?_changePayload_eq_none {key : String} (hkey : key ∉ Schema.combination.names)
    (hrule : key ≠ combinationRule) : (changePayload context changes).get? key = none := by
  rw [get?_changePayload context hdeclared, if_neg hrule,
    get?_resolve_eq_none context hdeclared hkey, ite_self]

theorem ofFlat_changePayload :
    ofFlat (changePayload context changes) false = changePayload context changes := by
  have hnames : ∀ key ∈ ruleFields, key ∉ Schema.combination.names ∧ key ≠ combinationRule := by
    decide
  apply ofFlat_of_free
  intro key hkey
  exact get?_changePayload_eq_none context hdeclared (hnames key hkey).1 (hnames key hkey).2

end Declared

section Changes

variable (context : Context) {changes : Fields} (hchanges : Schema.combination.Admits changes)
include hchanges

theorem admits_effective : Schema.combination.Admits (effective changes) := by
  intro entry hentry
  have hvalue : (effective changes).get? entry.1 = some entry.2 :=
    OrderedMap.get?_eq_some_iff.2 hentry
  apply hchanges
  rw [get?_effective] at hvalue
  apply OrderedMap.get?_eq_some_iff.1
  split at hvalue
  · exact (Option.filter_eq_some_iff.1 hvalue).1
  · exact hvalue

/-- Once the changes that take effect are set, the body is that of before with them written over
it. -/
theorem flatBody_setProperties :
    flatBody (context.setProperties (effective changes)) =
      (flatBody context).overlay (effective (Actions.resolve context.resources changes)) := by
  have heffective := admits_effective hchanges
  have hcollect : properties (context.setProperties (effective changes)) =
      (properties context).overlay (effective changes) :=
    Schema.collect_overlay nodup_names_combination context.properties heffective.mem_names
      heffective.isNull_eq_false
  apply OrderedMap.ext_get?
  intro key
  rw [get?_flatBody, OrderedMap.get?_overlay, get?_flatBody, hcollect, effective_resolve,
    Actions.get?_resolve, OrderedMap.get?_overlay]
  have hundeclared (hkey : key ∉ Schema.combination.names) : (effective changes).get? key = none :=
    get?_eq_none_of_notMem heffective.mem_names hkey
  by_cases htype : key = typeField
  · rw [hundeclared (by rw [htype]; decide)]
    rfl
  · by_cases hname : key = "name"
    · rw [hundeclared (by rw [hname]; decide)]
      rfl
    · rw [if_neg htype, if_neg htype, if_neg hname, if_neg hname, Option.map_or]
      rfl

/-- Merging the payload of an update into that of a creation gives the payload of a creation once
the changes that take effect are set. -/
theorem merge_changePayload :
    merge (createPayload context) (changePayload context changes) =
      createPayload (context.setProperties (effective changes)) := by
  have hnoMap : ∀ property ∈ Schema.combination, property.kind ≠ .map := by decide
  have hplain (key : String) (value : Json) (_ : key ∉ combinationFields)
      (hvalue : (Actions.resolve context.resources changes).get? key = some value) :
      value.fields? = none := by
    rw [Actions.get?_resolve] at hvalue
    obtain ⟨given, hgiven, rfl⟩ := Option.map_eq_some_iff.1 hvalue
    obtain ⟨property, hproperty, -, hadmits⟩ := hchanges _ (OrderedMap.get?_eq_some_iff.1 hgiven)
    exact Actions.fields?_resolveValue _ _
      (PropertyKind.fields?_of_admits hadmits (hnoMap property hproperty))
  rw [createPayload_eq, createPayload_eq, flatBody_setProperties context hchanges]
  exact merge_reshapeCombination (get?_flatBody_eq_none context (by decide))
    (get?_resolve_eq_none context hchanges.mem_names (by decide)) hplain

/-- A rule that is there stays there. -/
theorem contains_setProperties (h : (createPayload context).contains combinationRule = true) :
    (createPayload (context.setProperties (effective changes))).contains combinationRule =
      true := by
  rw [createPayload_eq] at h ⊢
  rw [contains_reshapeCombination (get?_flatBody_eq_none _ (by decide)), Bool.not_eq_true'] at h ⊢
  rw [flatBody_setProperties context hchanges, combinationRuleOf_overlay,
    OrderedMap.isEmpty_overlay, h, Bool.false_and]

end Changes

/-- The document of an alarm that was created in one context, with the properties of another in
force. -/
def document (start inForce : Context) : Fields :=
  if (createPayload start).contains combinationRule then createPayload inForce
  else (createPayload inForce).insert thresholdRule (.ofFields .empty)

theorem document_self (context : Context) :
    document context context = ofFlat (createPayload context) true :=
  (ofFlat_createPayload context).symm

/-- An alarm that was created without a rule keeps the empty one that it got instead. -/
theorem document_eq_insert {start : Context} (inForce : Context)
    (h : (createPayload start).contains combinationRule = false) :
    document start inForce =
      (ofFlat (createPayload inForce) true).insert thresholdRule (.ofFields .empty) := by
  rw [document, h, ofFlat_createPayload, if_neg Bool.false_ne_true]
  split
  · rfl
  · apply OrderedMap.ext_get?
    intro key
    rw [OrderedMap.get?_insert, OrderedMap.get?_insert, OrderedMap.get?_insert]
    split <;> rfl

/-- Unless an alarm without a rule got one later, its document is that of a creation. -/
theorem document_eq_ofFlat {start inForce : Context}
    (hkept : (createPayload start).contains combinationRule = true →
      (createPayload inForce).contains combinationRule = true)
    (h : (createPayload start).contains combinationRule = true ∨
      (createPayload inForce).contains combinationRule = false) :
    document start inForce = ofFlat (createPayload inForce) true := by
  rw [document, ofFlat_createPayload]
  rcases h with hstart | hnone
  · rw [hstart, hkept hstart]
  · have hstart : (createPayload start).contains combinationRule = false := by
      rw [Bool.eq_false_iff]
      intro hstart
      rw [hkept hstart] at hnone
      cases hnone
    rw [hstart, hnone]

theorem merge_document (start : Context) {context : Context} {changes : Fields}
    (hchanges : Schema.combination.Admits changes) :
    merge (document start context) (ofFlat (changePayload context changes) false) =
      document start (context.setProperties (effective changes)) := by
  have hrule : (changePayload context changes).get? thresholdRule = none :=
    get?_changePayload_eq_none context hchanges.mem_names (by decide) (by decide)
  rw [ofFlat_changePayload context hchanges.mem_names, document, document]
  split
  · exact merge_changePayload context hchanges
  · rw [merge_insert _ hrule, merge_changePayload context hchanges]

end CombinationAlarm

end MeteringAlarms
