import MeteringAlarms.Alarm.Document
import MeteringAlarms.Proofs.Data.OrderedMap

/-!
# Merging nested documents

A flat body is nested field by field, so is the document that changes are merged into, and the two
commute: nesting the changes of an alarm on one meter and merging them one level deep gives the
nested form of the flat fields with the changes written over them.  It takes that the fields that
stay at the top are no objects when they change, since an object would be merged into an object
where the flat form has it replaced.
-/

namespace MeteringAlarms.AlarmDocument

open PropertyName

/-! ## Look-ups in nested forms -/

theorem fields?_ofFields (fields : Fields) : (Json.ofFields fields).fields? = some fields :=
  congrArg some (OrderedMap.ofList_entries fields)

theorem ofFields_inj {left right : Fields} :
    Json.ofFields left = .ofFields right ↔ left = right := by
  refine ⟨fun h ↦ ?_, congrArg _⟩
  have hfields := congrArg Json.fields? h
  rwa [fields?_ofFields, fields?_ofFields, Option.some_inj] at hfields

theorem get?_withQuery (flat : Fields) (key : String) :
    (withQuery flat).get? key =
      if key = query then ((flat.get? matchingMetadata).map queryOf).or (flat.get? query)
      else if key = matchingMetadata then none else flat.get? key := by
  rw [withQuery]
  cases hmetadata : flat.get? matchingMetadata with
  | none =>
    by_cases hquery : key = query
    · rw [if_pos hquery, hquery]
      rfl
    · by_cases hkey : key = matchingMetadata
      · rw [if_neg hquery, if_pos hkey, hkey, hmetadata]
      · rw [if_neg hquery, if_neg hkey]
  | some metadata => simp

theorem get?_ruleOf (body : Fields) (key : String) :
    (ruleOf body).get? key = if key ∈ thresholdFields then body.get? key else none :=
  OrderedMap.get?_ofList_names thresholdFields body.get? key (by decide)

/-- The flat fields that move into the rule, as they are or as its query. -/
def ruleFields : List String :=
  matchingMetadata :: thresholdFields

/-- What is left of a flat body beside its rule. -/
theorem get?_others (flat : Fields) (key : String) :
    (thresholdFields.foldl OrderedMap.erase (withQuery flat)).get? key =
      if key ∈ ruleFields then none else flat.get? key := by
  rw [OrderedMap.get?_foldl_erase, get?_withQuery]
  by_cases hfield : key ∈ thresholdFields
  · have hkey : key ∈ ruleFields := List.mem_cons_of_mem _ hfield
    rw [if_pos hfield, if_pos hkey]
  · have hquery : key ≠ query := by
      rintro rfl
      exact hfield (by decide)
    rw [if_neg hfield, if_neg hquery]
    by_cases hmetadata : key = matchingMetadata
    · have hkey : key ∈ ruleFields := List.mem_cons.2 (Or.inl hmetadata)
      rw [if_pos hmetadata, if_pos hkey]
    · have hother : key ∉ ruleFields := fun h ↦ (List.mem_cons.1 h).elim hmetadata hfield
      rw [if_neg hmetadata, if_neg hother]

/-- Nesting leaves alone what is not of the rule, whatever else there is. -/
theorem get?_ofFlat_of_beside (flat : Fields) (complete : Bool) {key : String}
    (hfield : key ∉ ruleFields) (hrule : key ≠ thresholdRule) (htype : key ≠ typeField) :
    (ofFlat flat complete).get? key = flat.get? key := by
  have hothers : (thresholdFields.foldl OrderedMap.erase (withQuery flat)).get? key =
      flat.get? key := by
    rw [get?_others, if_neg hfield]
  rw [ofFlat]
  dsimp only
  split
  · rfl
  · split
    · rw [OrderedMap.get?_insert, if_neg hrule]
      split
      · exact hothers
      · rw [OrderedMap.get?_insert, if_neg htype, hothers]
    · exact hothers

/-- The rule of a flat body, which has no query of its own. -/
theorem get?_ruleOf_withQuery {flat : Fields} (hquery : flat.get? query = none) (key : String) :
    (ruleOf (withQuery flat)).get? key =
      if key = query then (flat.get? matchingMetadata).map queryOf
      else if key ∈ thresholdFields then flat.get? key else none := by
  rw [get?_ruleOf, get?_withQuery]
  by_cases hkey : key = query
  · have hfield : key ∈ thresholdFields := by
      rw [hkey]
      decide
    rw [if_pos hfield, if_pos hkey, if_pos hkey, hquery, Option.or_none]
  · rw [if_neg hkey, if_neg hkey]
    by_cases hfield : key ∈ thresholdFields
    · have hmetadata : key ≠ matchingMetadata := by
        rintro rfl
        exact absurd hfield (by decide)
      rw [if_pos hfield, if_pos hfield, if_neg hmetadata]
    · rw [if_neg hfield, if_neg hfield]

/-- A flat body has none of the names that are the nested form's own. -/
structure IsFlat (fields : Fields) : Prop where
  combination : fields.get? Payload.combinationRule = none
  rule : fields.get? thresholdRule = none
  type : fields.get? typeField = none
  query : fields.get? query = none

/-- The rule of a flat body in full. -/
def nestedRule (flat : Fields) : Fields :=
  ruleOf (withQuery flat)

theorem get?_ofFlat {flat : Fields} (hflat : IsFlat flat) (complete : Bool) (key : String) :
    (ofFlat flat complete).get? key =
      if complete || !(nestedRule flat).isEmpty then
        if key = thresholdRule then some (.ofFields (nestedRule flat))
        else if key = typeField then some (.string thresholdType)
        else if key ∈ ruleFields then none else flat.get? key
      else if key ∈ ruleFields then none else flat.get? key := by
  have hcombination : flat.contains Payload.combinationRule = false := by
    rw [OrderedMap.contains_eq_isSome, hflat.combination, Option.isSome_none]
  have htype : (thresholdFields.foldl OrderedMap.erase (withQuery flat)).contains typeField =
      false := by
    rw [OrderedMap.contains_eq_isSome, get?_others, if_neg (by decide), hflat.type,
      Option.isSome_none]
  rw [ofFlat, hcombination, if_neg Bool.false_ne_true]
  dsimp only
  rw [htype, if_neg Bool.false_ne_true, nestedRule]
  split
  · rw [OrderedMap.get?_insert, OrderedMap.get?_insert, get?_others]
  · rw [get?_others]

/-- A body without fields of a rule stays as it is beside the rule. -/
theorem others_of_free {flat : Fields} (hfree : ∀ key ∈ ruleFields, flat.get? key = none) :
    thresholdFields.foldl OrderedMap.erase (withQuery flat) = flat := by
  apply OrderedMap.ext_get?
  intro key
  rw [get?_others]
  split
  · rename_i hkey
    exact (hfree key hkey).symm
  · rfl

theorem nestedRule_of_free {flat : Fields} (hfree : ∀ key ∈ ruleFields, flat.get? key = none) :
    nestedRule flat = .empty := by
  apply OrderedMap.ext_get?
  intro key
  rw [nestedRule, get?_ruleOf_withQuery (hfree query (by decide))]
  by_cases hquery : key = query
  · rw [if_pos hquery, hfree matchingMetadata (by decide)]
    rfl
  · rw [if_neg hquery]
    split
    · rename_i hfield
      exact hfree key (List.mem_cons_of_mem _ hfield)
    · rfl

/-- Changes without fields of a rule are nested already. -/
theorem ofFlat_of_free {flat : Fields} (hfree : ∀ key ∈ ruleFields, flat.get? key = none) :
    ofFlat flat false = flat := by
  have hrule : ruleOf (withQuery flat) = .empty := nestedRule_of_free hfree
  rw [ofFlat]
  dsimp only
  rw [others_of_free hfree, hrule]
  split <;> rfl

/-- A complete body that has a type and no fields of a rule gets an empty rule. -/
theorem ofFlat_of_typed {flat : Fields} (hfree : ∀ key ∈ ruleFields, flat.get? key = none)
    (hcombination : flat.contains Payload.combinationRule = false)
    (htype : flat.contains typeField = true) :
    ofFlat flat true = flat.insert thresholdRule (.ofFields .empty) := by
  have hrule : ruleOf (withQuery flat) = .empty := nestedRule_of_free hfree
  rw [ofFlat, hcombination, if_neg Bool.false_ne_true]
  dsimp only
  rw [others_of_free hfree, hrule, htype, if_pos rfl]
  rfl

/-! ## Look-ups in merged documents -/

/-- What a change makes of a field. -/
def mergedValue (current? : Option Json) (value : Json) : Json :=
  match value.fields?, current?.bind Json.fields? with
  | some nested, some current => .ofFields (current.overlay nested)
  | _, _ => value

theorem mergedValue_none (value : Json) : mergedValue none value = value := by
  rw [mergedValue]
  cases value.fields? <;> rfl

theorem mergedValue_ofFields (current nested : Fields) :
    mergedValue (some (.ofFields current)) (.ofFields nested) =
      .ofFields (current.overlay nested) := by
  rw [mergedValue, fields?_ofFields, Option.bind_some, fields?_ofFields]

theorem mergedValue_of_plain (current? : Option Json) {value : Json} (h : value.fields? = none) :
    mergedValue current? value = value := by
  rw [mergedValue, h]

theorem mergeEntry_eq_insert (document : Fields) (name : String) (value : Json) :
    mergeEntry document name value =
      document.insert name (mergedValue (document.get? name) value) := by
  rw [mergeEntry, mergedValue]
  cases value.fields? with
  | none => rfl
  | some nested => cases (document.get? name).bind Json.fields? <;> rfl

theorem get?_foldl_mergeEntry {entries : List (String × Json)}
    (hnodup : (entries.map Prod.fst).Nodup) (document : Fields) (key : String) :
    (entries.foldl (fun document (name, value) ↦ mergeEntry document name value) document).get?
        key =
      match Entries.find? key entries with
      | some value => some (mergedValue (document.get? key) value)
      | none => document.get? key := by
  induction entries generalizing document with
  | nil => rfl
  | cons entry entries ih =>
    obtain ⟨name, value⟩ := entry
    rw [List.map_cons, List.nodup_cons] at hnodup
    rw [List.foldl_cons, ih hnodup.2]
    dsimp only
    rw [mergeEntry_eq_insert, OrderedMap.get?_insert, Entries.find?]
    by_cases hkey : key = name
    · have hrest : Entries.find? key entries = none := by
        apply Entries.find?_eq_none_of_forall_ne
        intro entry hentry heq
        exact hnodup.1 (List.mem_map.2 ⟨entry, hentry, heq.symm.trans hkey⟩)
      rw [hrest, if_pos hkey, if_pos hkey, hkey]
    · rw [if_neg hkey, if_neg hkey]

theorem get?_merge (document changes : Fields) (key : String) :
    (merge document changes).get? key =
      match changes.get? key with
      | some value => some (mergedValue (document.get? key) value)
      | none => document.get? key :=
  get?_foldl_mergeEntry changes.ascending.nodup_keys document key

/-- A field that does not change may as well be written afterwards. -/
theorem merge_insert (document : Fields) {changes : Fields} {name : String}
    (h : changes.get? name = none) (value : Json) :
    merge (document.insert name value) changes = (merge document changes).insert name value := by
  apply OrderedMap.ext_get?
  intro key
  rw [get?_merge, OrderedMap.get?_insert, OrderedMap.get?_insert]
  by_cases hkey : key = name
  · rw [hkey, h, if_pos rfl, if_pos rfl]
  · rw [if_neg hkey, if_neg hkey, get?_merge]

/-! ## Merging commutes with nesting -/

/-- Changes to a flat body: flat themselves, and no object takes the place of a field that stays at
the top. -/
structure IsFlatChange (changes : Fields) : Prop extends IsFlat changes where
  plain : ∀ key value, key ∉ ruleFields → changes.get? key = some value → value.fields? = none

variable {flat changes : Fields}

theorem IsFlat.overlay (hflat : IsFlat flat) (hchanges : IsFlat changes) :
    IsFlat (flat.overlay changes) := by
  refine ⟨?_, ?_, ?_, ?_⟩
  · rw [OrderedMap.get?_overlay, hflat.combination, hchanges.combination, Option.or_none]
  · rw [OrderedMap.get?_overlay, hflat.rule, hchanges.rule, Option.or_none]
  · rw [OrderedMap.get?_overlay, hflat.type, hchanges.type, Option.or_none]
  · rw [OrderedMap.get?_overlay, hflat.query, hchanges.query, Option.or_none]

/-- The rule of the changed fields is the rule with the rule of the changes written over it. -/
theorem nestedRule_overlay (hflat : IsFlat flat) (hchanges : IsFlat changes) :
    nestedRule (flat.overlay changes) = (nestedRule flat).overlay (nestedRule changes) := by
  apply OrderedMap.ext_get?
  intro key
  rw [OrderedMap.get?_overlay, nestedRule, nestedRule, nestedRule,
    get?_ruleOf_withQuery (hflat.overlay hchanges).query, get?_ruleOf_withQuery hflat.query,
    get?_ruleOf_withQuery hchanges.query, OrderedMap.get?_overlay, OrderedMap.get?_overlay]
  by_cases hquery : key = query
  · rw [if_pos hquery, if_pos hquery, if_pos hquery, Option.map_or]
  · rw [if_neg hquery, if_neg hquery, if_neg hquery]
    by_cases hfield : key ∈ thresholdFields
    · rw [if_pos hfield, if_pos hfield, if_pos hfield]
    · rw [if_neg hfield, if_neg hfield, if_neg hfield, Option.or_none]

/-- Merging nested changes into a nested document gives the nested form of the changed fields. -/
theorem merge_ofFlat (hflat : IsFlat flat) (hchanges : IsFlatChange changes) :
    merge (ofFlat flat true) (ofFlat changes false) = ofFlat (flat.overlay changes) true := by
  have hchanged := hchanges.toIsFlat
  have hdocument := get?_ofFlat hflat true
  have hresult := get?_ofFlat (hflat.overlay hchanged) true
  simp only [Bool.true_or, if_true] at hdocument hresult
  -- Beside the rule and the type, a change takes the place of what was there.
  have hother (key : String) (hrule : key ≠ thresholdRule) (htype : key ≠ typeField) :
      (match if key ∈ ruleFields then none else changes.get? key with
        | some value => some (mergedValue ((ofFlat flat true).get? key) value)
        | none => (ofFlat flat true).get? key) = (ofFlat (flat.overlay changes) true).get? key := by
    rw [hdocument, hresult, if_neg hrule, if_neg hrule, if_neg htype, if_neg htype]
    by_cases hfield : key ∈ ruleFields
    · rw [if_pos hfield, if_pos hfield, if_pos hfield]
    · rw [if_neg hfield, if_neg hfield, if_neg hfield, OrderedMap.get?_overlay]
      cases hvalue : changes.get? key with
      | none => rw [Option.none_or]
      | some value =>
        rw [Option.some_or]
        dsimp only
        rw [mergedValue_of_plain _ (hchanges.plain key value hfield hvalue)]
  apply OrderedMap.ext_get?
  intro key
  rw [get?_merge, get?_ofFlat hchanged]
  cases hempty : (nestedRule changes).isEmpty with
  | true =>
    simp only [Bool.not_true, Bool.or_false, Bool.false_eq_true, if_false]
    by_cases hrule : key = thresholdRule
    · rw [hrule, if_neg (by decide), hchanged.rule, hdocument, hresult, if_pos rfl, if_pos rfl,
        nestedRule_overlay hflat hchanged, OrderedMap.overlay_of_isEmpty _ hempty]
    · by_cases htype : key = typeField
      · rw [htype, if_neg (by decide), hchanged.type, hdocument, hresult]
        rfl
      · exact hother key hrule htype
  | false =>
    simp only [Bool.not_false, Bool.or_true, if_true]
    by_cases hrule : key = thresholdRule
    · rw [if_pos hrule, hresult, hdocument, if_pos hrule, if_pos hrule]
      dsimp only
      rw [mergedValue_ofFields, nestedRule_overlay hflat hchanged]
    · rw [if_neg hrule]
      by_cases htype : key = typeField
      · rw [if_pos htype, hresult, if_neg hrule, if_pos htype]
        rfl
      · rw [if_neg htype]
        exact hother key hrule htype

/-! ## Changes side by side -/

/-- A value has all of another one: it is the same, or an object with all of its entries. -/
def Covers (current value : Json) : Prop :=
  current = value ∨ ∃ fields nested, current.fields? = some fields ∧ value.fields? = some nested ∧
    ∀ name entry, nested.get? name = some entry → fields.get? name = some entry

theorem covers_ofFields_iff {fields nested : Fields} :
    Covers (.ofFields fields) (.ofFields nested) ↔
      ∀ name entry, nested.get? name = some entry → fields.get? name = some entry := by
  refine ⟨?_, fun h ↦ Or.inr ⟨fields, nested, fields?_ofFields _, fields?_ofFields _, h⟩⟩
  rintro (hsame | ⟨fields', nested', hfields, hnested, hentries⟩)
  · rw [ofFields_inj.1 hsame]
    exact fun _ _ hentry ↦ hentry
  · rw [fields?_ofFields, Option.some.injEq] at hfields hnested
    rw [hfields, hnested]
    exact hentries

/-- A document has everything that changes write. -/
def Shows (document changes : Fields) : Prop :=
  ∀ key value, changes.get? key = some value →
    ∃ current, document.get? key = some current ∧ Covers current value

/-- Two changes of a document write to no place together, unless they write the same there. -/
def Compatible (left right : Fields) : Prop :=
  ∀ key value other, left.get? key = some value → right.get? key = some other →
    value = other ∨ ∃ nested others, value.fields? = some nested ∧ other.fields? = some others ∧
      ∀ name, nested.get? name = none ∨ others.get? name = none

theorem covers_mergedValue (current? : Option Json) (value : Json) :
    Covers (mergedValue current? value) value := by
  rw [mergedValue]
  cases hnested : value.fields? with
  | none => exact Or.inl rfl
  | some nested =>
    cases current?.bind Json.fields? with
    | none => exact Or.inl rfl
    | some current =>
      refine Or.inr ⟨_, nested, fields?_ofFields _, hnested, fun name entry hentry ↦ ?_⟩
      rw [OrderedMap.get?_overlay, hentry, Option.some_or]

/-- What is merged into a document is there. -/
theorem shows_merge (document changes : Fields) : Shows (merge document changes) changes := by
  intro key value hvalue
  refine ⟨mergedValue (document.get? key) value, ?_, covers_mergedValue _ _⟩
  rw [get?_merge, hvalue]

/-- It stays there when changes that are compatible are merged in. -/
theorem Shows.merge {document left right : Fields} (h : Shows document left)
    (hcompatible : Compatible left right) : Shows (merge document right) left := by
  intro key value hvalue
  obtain ⟨current, hcurrent, hcovers⟩ := h key value hvalue
  rw [get?_merge]
  cases hother : right.get? key with
  | none => exact ⟨current, hcurrent, hcovers⟩
  | some other =>
    refine ⟨mergedValue (document.get? key) other, rfl, ?_⟩
    rcases hcompatible key value other hvalue hother with
      rfl | ⟨nested, others, hnested, hothers, hapart⟩
    · exact covers_mergedValue _ _
    · have hfields : ∃ fields, current.fields? = some fields ∧
          ∀ name entry, nested.get? name = some entry → fields.get? name = some entry := by
        rcases hcovers with rfl | ⟨fields, nested', hfields, hnested', hentries⟩
        · exact ⟨nested, hnested, fun _ _ hentry ↦ hentry⟩
        · rw [hnested, Option.some.injEq] at hnested'
          rw [← hnested'] at hentries
          exact ⟨fields, hfields, hentries⟩
      obtain ⟨fields, hfields, hentries⟩ := hfields
      refine Or.inr ⟨fields.overlay others, nested, ?_, hnested, fun name entry hentry ↦ ?_⟩
      · rw [mergedValue, hothers, hcurrent, Option.bind_some, hfields]
        exact fields?_ofFields _
      · have hfree : others.get? name = none := by
          rcases hapart name with hnone | hfree
          · rw [hnone] at hentry
            cases hentry
          · exact hfree
        rw [OrderedMap.get?_overlay, hfree, Option.none_or, hentries name entry hentry]

/-- Changes that do not name what nesting writes itself: the rule, its type and its query. -/
structure IsUnnested (changes : Fields) : Prop where
  rule : changes.get? thresholdRule = none
  type : changes.get? typeField = none
  query : changes.get? query = none

/-- Nested changes hold the rule, its type and the fields beside it. -/
theorem get?_ofFlat_cases {flat : Fields} (hflat : IsUnnested flat) {key : String} {value : Json}
    (h : (ofFlat flat false).get? key = some value) :
    key = thresholdRule ∧ value = .ofFields (nestedRule flat) ∨
    key = typeField ∧ value = .string thresholdType ∨
    key ≠ thresholdRule ∧ key ≠ typeField ∧ flat.get? key = some value := by
  -- Beside the rule and the type, nested changes are the flat ones.
  have hbeside (h : flat.get? key = some value) :
      key ≠ thresholdRule ∧ key ≠ typeField ∧ flat.get? key = some value := by
    refine ⟨?_, ?_, h⟩
    · rintro rfl
      rw [hflat.rule] at h
      cases h
    · rintro rfl
      rw [hflat.type] at h
      cases h
  have hother (h : (if key ∈ ruleFields then none else flat.get? key) = some value) :
      key ≠ thresholdRule ∧ key ≠ typeField ∧ flat.get? key = some value := by
    split at h
    · cases h
    · exact hbeside h
  cases hcombination : flat.get? Payload.combinationRule with
  | some rule =>
    have hcontains : flat.contains Payload.combinationRule = true := by
      rw [OrderedMap.contains_eq_isSome, hcombination, Option.isSome_some]
    rw [ofFlat, if_pos hcontains] at h
    exact Or.inr (Or.inr (hbeside h))
  | none =>
    rw [get?_ofFlat ⟨hcombination, hflat.rule, hflat.type, hflat.query⟩] at h
    split at h
    · split at h
      · exact Or.inl ⟨‹_›, (Option.some.inj h).symm⟩
      · split at h
        · exact Or.inr (Or.inl ⟨‹_›, (Option.some.inj h).symm⟩)
        · exact Or.inr (Or.inr (hother h))
    · exact Or.inr (Or.inr (hother h))

/-- Changes of different properties are nested as compatible ones: at most, both give the type. -/
theorem compatible_ofFlat {left right : Fields} (hleft : IsUnnested left)
    (hright : IsUnnested right)
    (hapart : ∀ key, left.get? key = none ∨ right.get? key = none) :
    Compatible (ofFlat left false) (ofFlat right false) := by
  intro key value other hvalue hother
  rcases get?_ofFlat_cases hleft hvalue with
    ⟨rfl, rfl⟩ | ⟨rfl, rfl⟩ | ⟨hrule, htype, hvalue⟩
  · rcases get?_ofFlat_cases hright hother with ⟨-, rfl⟩ | ⟨htype, -⟩ | ⟨hrule, -, -⟩
    · refine Or.inr ⟨_, _, fields?_ofFields _, fields?_ofFields _, fun name ↦ ?_⟩
      rw [nestedRule, nestedRule, get?_ruleOf_withQuery hleft.query,
        get?_ruleOf_withQuery hright.query]
      by_cases hquery : name = query
      · rw [if_pos hquery, if_pos hquery]
        exact (hapart matchingMetadata).imp (congrArg _) (congrArg _)
      · rw [if_neg hquery, if_neg hquery]
        by_cases hfield : name ∈ thresholdFields
        · rw [if_pos hfield, if_pos hfield]
          exact hapart name
        · rw [if_neg hfield]
          exact Or.inl rfl
    · exact absurd htype (by decide)
    · exact absurd rfl hrule
  · rcases get?_ofFlat_cases hright hother with ⟨hrule, -⟩ | ⟨-, rfl⟩ | ⟨-, htype, -⟩
    · exact absurd hrule (by decide)
    · exact Or.inl rfl
    · exact absurd rfl htype
  · rcases get?_ofFlat_cases hright hother with ⟨hrule', -⟩ | ⟨htype', -⟩ | ⟨-, -, hother⟩
    · exact absurd hrule' hrule
    · exact absurd htype' htype
    · rcases hapart key with hnone | hnone
      · rw [hnone] at hvalue
        cases hvalue
      · rw [hnone] at hother
        cases hother

/-- A type is given beside a field of a rule, and a query beside the metadata that make one: the
properties differ, and yet both write to one place. -/
theorem not_compatible_ofFlat_of_named :
    ¬Compatible (ofFlat (.ofList [(typeField, .string "event")]) false)
      (ofFlat (.ofList [(threshold, .number (.int 80))]) false) ∧
    ¬Compatible (ofFlat (.ofList [(query, .array [])]) false)
      (ofFlat (.ofList [(matchingMetadata, .ofEntries [("state", .string "up")])]) false) := by
  refine ⟨fun hcompatible ↦ ?_, fun hcompatible ↦ ?_⟩
  · rcases hcompatible typeField (.string "event") (.string thresholdType) (by decide) (by decide)
      with hsame | ⟨nested, -, hnested, -⟩
    · exact absurd hsame (by decide)
    · cases hnested
  · let term := equalityTerm "state" (.string "up")
    rcases hcompatible thresholdRule (.ofFields (.ofList [(query, .array [])]))
      (.ofFields (.ofList [(query, .array [term])])) (by decide) (by decide) with
      hsame | ⟨nested, others, hnested, hothers, hapart⟩
    · exact absurd hsame (by decide)
    · rw [fields?_ofFields, Option.some.injEq] at hnested hothers
      rcases hapart query with hnone | hnone
      · rw [← hnested, OrderedMap.get?_ofList_singleton, if_pos rfl] at hnone
        cases hnone
      · rw [← hothers, OrderedMap.get?_ofList_singleton, if_pos rfl] at hnone
        cases hnone

end MeteringAlarms.AlarmDocument
