import MeteringAlarms.Proofs.Alarm.Document

/-!
# From nested documents back to flat bodies

Nesting a flat body moves the fields of its rule away and turns its metadata into a query, but
nothing is lost: the fields of the rule stand in it under their own names, each term of the query
says which field it compares with which value, and a rule and a type that no field asked for are
told by their own names.  So the flat body can be had back, and it is the same one whether or not
the nested body was a complete one.
-/

namespace MeteringAlarms.AlarmDocument

open PropertyName

/-! ## The way back -/

/-- The field and the value that an equality term compares. -/
def comparedBy? (term : Json) : Option (String × Json) := do
  let entries ← term.fields?
  let field ← (entries.get? "field").bind Json.string?
  let value ← entries.get? "value"
  some (field, value)

/-- The metadata whose query has the given terms. -/
def metadataOf (query : Json) : Json :=
  match query with
  | .array terms => .ofEntries (terms.filterMap comparedBy?)
  | _ => .ofFields .empty

/-- The flat body of a nested one. -/
def toFlat (nested : Fields) : Fields :=
  match (nested.get? thresholdRule).bind Json.fields? with
  | some rule =>
    let flat := ((nested.erase thresholdRule).erase typeField).overlay (rule.erase query)
    match rule.get? query with
    | some terms => flat.insert matchingMetadata (metadataOf terms)
    | none => flat
  | none => nested

theorem comparedBy?_equalityTerm (field : String) (value : Json) :
    comparedBy? (equalityTerm field value) = some (field, value) := by
  rw [comparedBy?, equalityTerm, Json.ofEntries, fields?_ofFields]
  simp [OrderedMap.get?_ofList, Entries.find?, Json.string?]

theorem metadataOf_queryOf (metadata : Fields) :
    metadataOf (queryOf (.ofFields metadata)) = .ofFields metadata := by
  have hterms : (metadata.entries.map fun entry ↦ equalityTerm entry.1 entry.2).filterMap
      comparedBy? = metadata.entries := by
    rw [List.filterMap_map]
    refine (List.filterMap_congr fun entry _ ↦ ?_).trans List.filterMap_some
    exact comparedBy?_equalityTerm entry.1 entry.2
  rw [queryOf, fields?_ofFields, Option.getD_some]
  change Json.ofEntries ((metadata.entries.map fun entry ↦ equalityTerm entry.1 entry.2).filterMap
    comparedBy?) = _
  rw [hterms, Json.ofEntries, OrderedMap.ofList_entries]

/-- A flat body, whose metadata is a map if it has any. -/
structure IsFlatBody (flat : Fields) : Prop extends IsFlat flat where
  metadata : ∀ value, flat.get? matchingMetadata = some value → ∃ entries, value = .ofFields entries

variable {flat : Fields}

theorem isEmpty_nestedRule_iff (hquery : flat.get? query = none) :
    (nestedRule flat).isEmpty = true ↔ ∀ key ∈ ruleFields, flat.get? key = none := by
  constructor
  · intro hempty key hkey
    have hnone (name : String) := OrderedMap.isEmpty_iff.1 hempty name
    simp only [nestedRule, get?_ruleOf_withQuery hquery] at hnone
    rcases List.mem_cons.1 hkey with rfl | hfield
    · have hmetadata := hnone query
      rw [if_pos rfl, Option.map_eq_none_iff] at hmetadata
      exact hmetadata
    · by_cases hname : key = query
      · rw [hname, hquery]
      · have hvalue := hnone key
        rwa [if_neg hname, if_pos hfield] at hvalue
  · intro hfree
    rw [nestedRule_of_free hfree]
    rfl

/-- A nested body has a rule just when it is complete or a field of a rule is given. -/
theorem hasRule_iff (hflat : IsFlat flat) (complete : Bool) :
    (complete || !(nestedRule flat).isEmpty) = true ↔
      complete = true ∨ ∃ key ∈ ruleFields, flat.contains key = true := by
  rw [Bool.or_eq_true, Bool.not_eq_true', ← Bool.not_eq_true, isEmpty_nestedRule_iff hflat.query]
  simp only [OrderedMap.contains_eq_isSome, Option.isSome_iff_ne_none, not_forall, exists_prop,
    ne_eq]

theorem get?_ofFlat_rule (hflat : IsFlat flat) (complete : Bool) :
    (ofFlat flat complete).get? thresholdRule =
      if complete = true ∨ ∃ key ∈ ruleFields, flat.contains key = true then
        some (.ofFields (nestedRule flat))
      else none := by
  rw [get?_ofFlat hflat, if_pos rfl, if_neg (by decide : thresholdRule ∉ ruleFields), hflat.rule]
  exact if_congr (hasRule_iff hflat complete) rfl rfl

theorem get?_ofFlat_type (hflat : IsFlat flat) (complete : Bool) :
    (ofFlat flat complete).get? typeField =
      if complete = true ∨ ∃ key ∈ ruleFields, flat.contains key = true then
        some (.string thresholdType)
      else none := by
  rw [get?_ofFlat hflat, if_neg (by decide : typeField ≠ thresholdRule), if_pos rfl,
    if_neg (by decide : typeField ∉ ruleFields), hflat.type]
  exact if_congr (hasRule_iff hflat complete) rfl rfl

/-- Beside the rule and its type stands what the rule does not take. -/
theorem get?_ofFlat_other (hflat : IsFlat flat) (complete : Bool) {key : String}
    (hrule : key ≠ thresholdRule) (htype : key ≠ typeField) :
    (ofFlat flat complete).get? key = if key ∈ ruleFields then none else flat.get? key := by
  rw [get?_ofFlat hflat, if_neg hrule, if_neg htype, ite_self]

theorem get?_erase_ofFlat (hflat : IsFlat flat) (complete : Bool) (key : String) :
    (((ofFlat flat complete).erase thresholdRule).erase typeField).get? key =
      if key ∈ ruleFields then none else flat.get? key := by
  rw [OrderedMap.get?_erase, OrderedMap.get?_erase]
  by_cases htype : key = typeField
  · rw [if_pos htype, htype, hflat.type]
    rfl
  · rw [if_neg htype]
    by_cases hrule : key = thresholdRule
    · rw [if_pos hrule, hrule, hflat.rule]
      rfl
    · rw [if_neg hrule, get?_ofFlat_other hflat complete hrule htype]

/-- The rule and what stands beside it make up the flat body again, but for the metadata. -/
theorem overlay_nestedRule (hflat : IsFlat flat) (complete : Bool) :
    (((ofFlat flat complete).erase thresholdRule).erase typeField).overlay
      ((nestedRule flat).erase query) = flat.erase matchingMetadata := by
  apply OrderedMap.ext_get?
  intro key
  rw [OrderedMap.get?_overlay, get?_erase_ofFlat hflat, OrderedMap.get?_erase,
    OrderedMap.get?_erase, nestedRule, get?_ruleOf_withQuery hflat.query]
  by_cases hfield : key ∈ thresholdFields
  · have hmetadata : key ≠ matchingMetadata := by
      rintro rfl
      exact absurd hfield (by decide)
    have hkey : key ∈ ruleFields := List.mem_cons_of_mem _ hfield
    rw [if_pos hfield, if_pos hkey, if_neg hmetadata, Option.or_none]
    by_cases hquery : key = query
    · rw [if_pos hquery, hquery, hflat.query]
    · rw [if_neg hquery, if_neg hquery]
  · have hquery : key ≠ query := by
      rintro rfl
      exact hfield (by decide)
    rw [if_neg hquery, if_neg hquery, if_neg hfield, Option.none_or]
    exact if_congr (List.mem_cons.trans (or_iff_left hfield)) rfl rfl

theorem toFlat_ofFlat (hflat : IsFlatBody flat) (complete : Bool) :
    toFlat (ofFlat flat complete) = flat := by
  have hplain := hflat.toIsFlat
  cases hrule : complete || !(nestedRule flat).isEmpty with
  | true =>
    have hfields : ((ofFlat flat complete).get? thresholdRule).bind Json.fields? =
        some (nestedRule flat) := by
      rw [get?_ofFlat hplain, if_pos hrule, if_pos rfl, Option.bind_some, fields?_ofFields]
    have hquery : (nestedRule flat).get? query = (flat.get? matchingMetadata).map queryOf := by
      rw [nestedRule, get?_ruleOf_withQuery hplain.query, if_pos rfl]
    rw [toFlat, hfields]
    dsimp only
    rw [overlay_nestedRule hplain complete, hquery]
    cases hvalue : flat.get? matchingMetadata with
    | none => exact OrderedMap.erase_of_get?_eq_none hvalue
    | some value =>
      obtain ⟨metadata, rfl⟩ := hflat.metadata value hvalue
      dsimp only [Option.map_some]
      rw [metadataOf_queryOf, OrderedMap.insert_erase_of_get?_eq_some hvalue]
  | false =>
    obtain ⟨rfl, hempty⟩ : complete = false ∧ (nestedRule flat).isEmpty = true := by
      simpa using hrule
    rw [ofFlat_of_free ((isEmpty_nestedRule_iff hplain.query).1 hempty), toFlat, hplain.rule]
    rfl

/-- The rule of a flat body has its fields and, if there is metadata, the query. -/
theorem nestedRule_fields (hflat : IsFlat flat) :
    (∀ key, key ≠ query → (nestedRule flat).get? key =
      if key ∈ thresholdFields then flat.get? key else none) ∧
    (flat.get? matchingMetadata = none → (nestedRule flat).get? query = none) ∧
    ∀ metadata, flat.get? matchingMetadata = some (.ofFields metadata) →
      (nestedRule flat).get? query = some (.array (metadata.entries.map fun (field, value) ↦
        .ofEntries [("field", .string field), ("op", .string "eq"), ("value", value)])) := by
  have hrule := get?_ruleOf_withQuery hflat.query
  refine ⟨fun key hkey ↦ ?_, fun hnone ↦ ?_, fun metadata hmetadata ↦ ?_⟩
  · rw [nestedRule, hrule, if_neg hkey]
  · rw [nestedRule, hrule, if_pos rfl, hnone, Option.map_none]
  · rw [nestedRule, hrule, if_pos rfl, hmetadata, Option.map_some, queryOf, fields?_ofFields]
    rfl

/-- Nesting a flat body can be undone, so no other flat body has the same nested form.  None of the
fields of the rule stays at the top, and every other entry does.  There are a rule and a type just
when the body is a complete one or has a field of a rule; the rule then has these fields and, if
there is metadata, the query with one equality term for each entry, in the order of the keys. -/
theorem ofFlat_loses_nothing (hflat : IsFlatBody flat) (complete : Bool) :
    toFlat (ofFlat flat complete) = flat ∧
    (∀ other otherComplete, IsFlatBody other →
      ofFlat other otherComplete = ofFlat flat complete → other = flat) ∧
    (∀ key ∈ ruleFields, (ofFlat flat complete).get? key = none) ∧
    (∀ key, key ∉ ruleFields → key ≠ thresholdRule → key ≠ typeField →
      (ofFlat flat complete).get? key = flat.get? key) ∧
    ((ofFlat flat complete).contains thresholdRule = true ↔
      complete = true ∨ ∃ key ∈ ruleFields, flat.contains key = true) ∧
    ((ofFlat flat complete).contains typeField = true ↔
      complete = true ∨ ∃ key ∈ ruleFields, flat.contains key = true) ∧
    ∀ value, (ofFlat flat complete).get? thresholdRule = some value →
      ∃ rule, value = .ofFields rule ∧
        (∀ key, key ≠ query →
          rule.get? key = if key ∈ thresholdFields then flat.get? key else none) ∧
        (flat.get? matchingMetadata = none → rule.get? query = none) ∧
        ∀ metadata, flat.get? matchingMetadata = some (.ofFields metadata) →
          rule.get? query = some (.array (metadata.entries.map fun (field, value) ↦
            .ofEntries [("field", .string field), ("op", .string "eq"), ("value", value)])) := by
  have hplain := hflat.toIsFlat
  refine ⟨toFlat_ofFlat hflat complete, fun other otherComplete hother hsame ↦ ?_,
    fun key hkey ↦ ?_, fun key hkey hrule htype ↦ ?_, ?_, ?_, fun value hvalue ↦ ?_⟩
  · rw [← toFlat_ofFlat hother otherComplete, hsame, toFlat_ofFlat hflat complete]
  · have hrule : key ≠ thresholdRule := by
      rintro rfl
      exact absurd hkey (by decide)
    have htype : key ≠ typeField := by
      rintro rfl
      exact absurd hkey (by decide)
    rw [get?_ofFlat_other hplain complete hrule htype, if_pos hkey]
  · rw [get?_ofFlat_other hplain complete hrule htype, if_neg hkey]
  · rw [OrderedMap.contains_eq_isSome, get?_ofFlat_rule hplain]
    exact Option.isSome_ite
  · rw [OrderedMap.contains_eq_isSome, get?_ofFlat_type hplain]
    exact Option.isSome_ite
  · rw [get?_ofFlat_rule hplain, Option.ite_none_right_eq_some, Option.some.injEq] at hvalue
    exact ⟨nestedRule flat, hvalue.2.symm, nestedRule_fields hplain⟩

/-- The changes of the metadata and the threshold of an alarm that is switched off. -/
theorem ofFlat_loses_nothing_of_three_changes :
    let metadata : Fields :=
      .ofList [("metadata.metering.a", .ofNat 1), ("metadata.metering.b", .null)]
    let changes : Fields := .ofList [("enabled", .bool false),
      ("matching_metadata", .ofFields metadata), ("threshold", .ofNat 80)]
    IsFlatBody changes ∧ toFlat (ofFlat changes false) = changes ∧
    (ofFlat changes false).get? "enabled" = some (.bool false) ∧
    (ofFlat changes false).get? "threshold" = none ∧
    ∃ rule, (ofFlat changes false).get? thresholdRule = some (.ofFields rule) ∧
      rule.get? "threshold" = some (.ofNat 80) ∧
      rule.get? query = some (.array [
        .ofEntries [("field", .string "metadata.metering.a"), ("op", .string "eq"),
          ("value", .ofNat 1)],
        .ofEntries [("field", .string "metadata.metering.b"), ("op", .string "eq"),
          ("value", .null)]]) := by
  intro metadata changes
  have hmetadata : changes.get? matchingMetadata = some (.ofFields metadata) := by decide +kernel
  have henabled : changes.get? "enabled" = some (.bool false) := by decide +kernel
  have hthreshold : changes.get? "threshold" = some (.ofNat 80) := by decide +kernel
  have hentries : metadata.entries = [("metadata.metering.a", .ofNat 1),
      ("metadata.metering.b", .null)] := by decide +kernel
  have hflat : IsFlatBody changes := by
    refine ⟨⟨by decide +kernel, by decide +kernel, by decide +kernel, by decide +kernel⟩, ?_⟩
    intro value hvalue
    exact ⟨metadata, Option.some.inj (hvalue.symm.trans hmetadata)⟩
  obtain ⟨hback, -, hmoved, hkept, hrule, -, hfields⟩ := ofFlat_loses_nothing hflat false
  have hcontains := hrule.2 (Or.inr ⟨"threshold", by decide, by decide +kernel⟩)
  obtain ⟨value, hvalue⟩ := Option.isSome_iff_exists.1 hcontains
  obtain ⟨rule, rfl, hnamed, -, hquery⟩ := hfields value hvalue
  refine ⟨hflat, hback, (hkept "enabled" (by decide) (by decide) (by decide)).trans henabled,
    hmoved "threshold" (by decide), rule, hvalue, ?_, ?_⟩
  · exact (hnamed "threshold" (by decide)).trans hthreshold
  · have hterms := hquery metadata hmetadata
    rw [hentries] at hterms
    exact hterms

end MeteringAlarms.AlarmDocument
