import MeteringAlarms.Proofs.Payload.Combination

/-!
# The rules that a combination is sent

A creation sends the rule of the properties, and an update sends that of the changes, which has only
the fields that change.  A document that changes are merged into gathers the rules: of each field it
has the latest value.  Fields that changes are written over have the latest rule only.  So the two
have the same rule just while the latest one leaves out no field that was sent before.
-/

namespace MeteringAlarms

open AlarmDocument PropertyName

namespace Payload

/-- The rule that is sent with the properties, unless there is nothing in it. -/
def sentRule? (properties : Fields) : Option Fields :=
  let rule := combinationRuleOf properties
  if rule.isEmpty then none else some rule

theorem ruleItem?_eq (properties : Fields) :
    ruleItem? properties = (sentRule? properties).map .ofFields := by
  rw [ruleItem?, sentRule?]
  split <;> rfl

theorem sentRule?_of_isEmpty {properties : Fields} (h : properties.isEmpty = true) :
    sentRule? properties = none := by
  rw [sentRule?, if_pos]
  rw [OrderedMap.isEmpty_iff] at h ⊢
  intro key
  rw [get?_combinationRuleOf, h, Option.filter_none, ite_self]

/-- Rules written one over the other, the first of the list last. -/
def gathered : List Fields → Fields
  | [] => .empty
  | rule :: earlier => (gathered earlier).overlay rule

/-- The first rule that has a field decides its value. -/
theorem get?_gathered (rules : List Fields) (key : String) :
    (gathered rules).get? key = rules.findSome? (·.get? key) := by
  induction rules with
  | nil => rfl
  | cons rule earlier ih =>
    rw [gathered, OrderedMap.get?_overlay, ih, List.findSome?_cons]
    cases rule.get? key <;> rfl

/-- A rule is all that is gathered when it has all fields of those before it. -/
theorem gathered_cons_eq_iff {rule : Fields} {earlier : List Fields} :
    gathered (rule :: earlier) = rule ↔
      ∀ other ∈ earlier, ∀ name, (other.get? name).isSome → (rule.get? name).isSome := by
  constructor
  · intro h other hother name hsome
    cases hnone : rule.get? name with
    | some value => rfl
    | none =>
      have hgathered : (gathered (rule :: earlier)).get? name = none := by rw [h, hnone]
      rw [get?_gathered, List.findSome?_eq_none_iff] at hgathered
      rw [hgathered other (List.mem_cons_of_mem _ hother)] at hsome
      cases hsome
  · intro h
    apply OrderedMap.ext_get?
    intro name
    rw [get?_gathered, List.findSome?_cons]
    cases hvalue : rule.get? name with
    | some value => rfl
    | none =>
      dsimp only
      rw [List.findSome?_eq_none_iff]
      intro other hother
      rw [← Option.not_isSome_iff_eq_none]
      intro hsome
      have hpresent := h other hother name hsome
      rw [hvalue] at hpresent
      cases hpresent

theorem map_ofFields_eq_gathered (rule? : Option Fields) :
    rule?.map Json.ofFields =
      if rule?.toList.isEmpty then none else some (.ofFields (gathered rule?.toList)) := by
  cases rule? with
  | none => rfl
  | some rule => exact congrArg (some <| Json.ofFields ·) (OrderedMap.empty_overlay rule).symm

end Payload

namespace CombinationAlarm

open Payload

/-- What is left of the rules that were sent, the latest first.  Beside the rules the two bodies are
the same. -/
structure Keeps (context : Context) (sent : List Fields) (document fields : Fields) : Prop where
  merged : document.get? combinationRule =
    if sent.isEmpty then none else some (.ofFields (gathered sent))
  latest : fields.get? combinationRule = sent.head?.map .ofFields
  /-- A creation without a rule makes a document with an empty one on a meter, and that stays. -/
  empty : document.get? thresholdRule =
    if (sentRule? (properties context)).isSome then none else some (.ofFields .empty)
  unruled : fields.get? thresholdRule = none
  others : ∀ key, key ≠ combinationRule → key ≠ thresholdRule →
    document.get? key = fields.get? key

variable {context : Context} {sent : List Fields} {document fields changes : Fields}

/-- The two have the same rule just when the latest left out no field. -/
theorem Keeps.same_iff (h : Keeps context sent document fields) :
    document.get? combinationRule = fields.get? combinationRule ↔
      ∀ latest earlier, sent = latest :: earlier → ∀ other ∈ earlier, ∀ name,
        (other.get? name).isSome → (latest.get? name).isSome := by
  rw [h.merged, h.latest]
  cases sent with
  | nil =>
    constructor
    · rintro - latest earlier ⟨⟩
    · exact fun _ ↦ rfl
  | cons rule earlier =>
    rw [List.isEmpty_cons, if_neg Bool.false_ne_true, List.head?_cons, Option.map_some,
      Option.some_inj, ofFields_inj, gathered_cons_eq_iff]
    constructor
    · rintro hcovers latest earlier ⟨⟩
      exact hcovers
    · exact fun hcovers ↦ hcovers rule earlier rfl

/-- Changes with or without a rule are merged into the document and written over the fields. -/
theorem Keeps.change (h : Keeps context sent document fields) {rule? : Option Fields}
    (hrule : changes.get? combinationRule = rule?.map .ofFields)
    (hmeter : changes.get? thresholdRule = none)
    (hplain : ∀ key value, key ≠ combinationRule → changes.get? key = some value →
      value.fields? = none) :
    Keeps context (rule?.toList ++ sent) (merge document changes) (fields.overlay changes) := by
  refine ⟨?_, ?_, ?_, ?_, fun key hkey hthreshold ↦ ?_⟩
  · rw [get?_merge, hrule]
    cases rule? with
    | none => exact h.merged
    | some rule =>
      rw [Option.map_some]
      dsimp only
      rw [h.merged]
      cases sent with
      | nil => exact congrArg some ((mergedValue_none _).trans
          (congrArg Json.ofFields (OrderedMap.empty_overlay rule).symm))
      | cons latest earlier => exact congrArg some (mergedValue_ofFields _ rule)
  · rw [OrderedMap.get?_overlay, hrule, h.latest]
    cases rule? <;> rfl
  · rw [get?_merge, hmeter]
    exact h.empty
  · rw [OrderedMap.get?_overlay, hmeter, h.unruled, Option.or_none]
  · rw [get?_merge, OrderedMap.get?_overlay]
    cases hvalue : changes.get? key with
    | none => exact h.others key hkey hthreshold
    | some value => exact congrArg some (mergedValue_of_plain _ (hplain key value hkey hvalue))

theorem get?_combinationRule_createPayload (context : Context) :
    (createPayload context).get? combinationRule =
      (sentRule? (properties context)).map .ofFields := by
  rw [get?_createPayload, if_pos rfl, ← ruleItem?_eq, ruleItem?, ruleItem?,
    combinationRuleOf_flatBody]

/-- The bodies that a creation makes. -/
theorem keeps_createPayload (context : Context) :
    Keeps context (sentRule? (properties context)).toList (ofFlat (createPayload context) true)
      (createPayload context) := by
  have hrule := get?_combinationRule_createPayload context
  have hmerged := hrule.trans (map_ofFields_eq_gathered _)
  have hlatest : (createPayload context).get? combinationRule =
      (sentRule? (properties context)).toList.head?.map .ofFields := by
    rw [hrule, Option.head?_toList]
  have hunruled : (createPayload context).get? thresholdRule = none :=
    get?_createPayload_eq_none context (by decide) (by decide)
  have hcontains : (createPayload context).contains combinationRule =
      (sentRule? (properties context)).isSome := by
    rw [OrderedMap.contains_eq_isSome, hrule, Option.isSome_map]
  rw [ofFlat_createPayload, hcontains]
  split
  · rename_i hsome
    refine ⟨hmerged, hlatest, ?_, hunruled, fun _ _ _ ↦ rfl⟩
    rw [if_pos hsome, hunruled]
  · rename_i hnone
    refine ⟨?_, hlatest, ?_, hunruled, fun key _ hkey ↦ ?_⟩
    · rw [OrderedMap.get?_insert, if_neg (by decide), hmerged]
    · rw [OrderedMap.get?_insert, if_pos rfl, if_neg hnone]
    · rw [OrderedMap.get?_insert, if_neg hkey]

/-- The difference that a stack update hands to a combination: declared properties only, and no
object for those that all kinds of alarms share. -/
structure IsDiff (changes : Fields) : Prop where
  declared : ∀ entry ∈ changes.entries, entry.1 ∈ Schema.combination.names
  plain : ∀ entry ∈ changes.entries, entry.1 ∈ Schema.shared.names → entry.2.fields? = none

/-- The bodies after an update. -/
theorem Keeps.update (h : Keeps context sent document fields) (hchanges : IsDiff changes) :
    Keeps context ((sentRule? changes).toList ++ sent)
      (merge document (ofFlat (changePayload context changes) false))
      (fields.overlay (changePayload context changes)) := by
  have hshared : ∀ name ∈ Schema.combination.names, name ∉ combinationFields →
      name ∈ Schema.shared.names := by
    decide
  rw [ofFlat_changePayload context hchanges.declared]
  apply h.change
  · rw [get?_changePayload context hchanges.declared, if_pos rfl, ← ruleItem?_eq, ruleItem?,
      ruleItem?, combinationRuleOf_resolve]
  · exact get?_changePayload_eq_none context hchanges.declared (by decide) (by decide)
  · intro key value hkey hvalue
    rw [get?_changePayload context hchanges.declared, if_neg hkey] at hvalue
    split at hvalue
    · cases hvalue
    · rename_i hfield
      rw [Actions.get?_resolve] at hvalue
      obtain ⟨given, hgiven, rfl⟩ := Option.map_eq_some_iff.1 hvalue
      have hentry := OrderedMap.get?_eq_some_iff.1 hgiven
      exact Actions.fields?_resolveValue _ _
        (hchanges.plain _ hentry (hshared key (hchanges.declared _ hentry) hfield))

/-- What an alarm is switched with is nested already. -/
theorem ofFlat_enabled (value : Bool) :
    ofFlat (.ofList [(enabled, .bool value)]) false = .ofList [(enabled, .bool value)] := by
  have hnames : ∀ key ∈ ruleFields, key ≠ enabled := by decide
  apply ofFlat_of_free
  intro key hkey
  rw [OrderedMap.get?_ofList_singleton, if_neg (hnames key hkey)]

/-- The bodies after the alarm was switched off or on. -/
theorem Keeps.switch (h : Keeps context sent document fields) (value : Bool) :
    Keeps context sent (merge document (ofFlat (.ofList [(enabled, .bool value)]) false))
      (fields.overlay (.ofList [(enabled, .bool value)])) := by
  have hrule : (OrderedMap.ofList [(enabled, Json.bool value)]).get? combinationRule =
      (none : Option Fields).map .ofFields := by
    rw [OrderedMap.get?_ofList_singleton, if_neg (by decide), Option.map_none]
  have hmeter : (OrderedMap.ofList [(enabled, Json.bool value)]).get? thresholdRule = none := by
    rw [OrderedMap.get?_ofList_singleton, if_neg (by decide)]
  rw [ofFlat_enabled]
  refine h.change hrule hmeter fun key found _ hfound ↦ ?_
  rw [OrderedMap.get?_ofList_singleton] at hfound
  split at hfound
  · cases hfound
    rfl
  · cases hfound

end CombinationAlarm

end MeteringAlarms
