import MeteringAlarms.Proofs.Payload.Threshold
import MeteringAlarms.Proofs.Remote.Mirror

/-!
# Nested payloads of alarms on one meter

The fields of an alarm on one meter are its name and its declared properties, and none of these is a
name that the nested form adds.  So the fields that such alarms are stored with, and the changes
that updates and switches make to them, merge as documents just as they do flat.
-/

namespace MeteringAlarms.ThresholdAlarm

open AlarmDocument PropertyName

/-- The fields that an alarm on one meter may have. -/
abbrev bodyNames : List String :=
  "name" :: Schema.threshold.names

def IsBody (fields : Fields) : Prop :=
  ∀ key, (fields.get? key).isSome → key ∈ bodyNames

/-- Changes that put no object in the place of a field that stays outside the rule. -/
structure IsBodyChange (changes : Fields) : Prop where
  body : IsBody changes
  plain : ∀ key value, key ∉ ruleFields → changes.get? key = some value → value.fields? = none

variable {fields changes : Fields}

theorem IsBody.get?_eq_none (h : IsBody fields) {key : String} (hkey : key ∉ bodyNames) :
    fields.get? key = none := by
  cases hvalue : fields.get? key with
  | none => rfl
  | some value =>
    have hsome : (fields.get? key).isSome := by rw [hvalue, Option.isSome_some]
    exact absurd (h key hsome) hkey

theorem IsBody.isFlat (h : IsBody fields) : IsFlat fields where
  combination := h.get?_eq_none (by decide)
  rule := h.get?_eq_none (by decide)
  type := h.get?_eq_none (by decide)
  query := h.get?_eq_none (by decide)

theorem IsBody.overlay (hfields : IsBody fields) (hchanges : IsBody changes) :
    IsBody (fields.overlay changes) := by
  intro key hkey
  rw [OrderedMap.get?_overlay, Option.isSome_or, Bool.or_eq_true] at hkey
  exact hkey.elim (hchanges key) (hfields key)

/-- Merging such changes into the documents of such alarms. -/
theorem mergeLaw : MergeLaw IsBody IsBodyChange where
  commutes hflat hchanges := merge_ofFlat hflat.isFlat ⟨hchanges.body.isFlat, hchanges.plain⟩
  overlay hflat hchanges := hflat.overlay hchanges.body
  withoutId hflat := by
    rw [get?_ofFlat hflat.isFlat, Bool.true_or, if_pos rfl, if_neg (by decide),
      if_neg (by decide), if_neg (by decide)]
    exact hflat.get?_eq_none (by decide)

/-- The difference that a stack update hands to an alarm: declared properties only, and no object
for those that all kinds of alarms share. -/
structure IsDiff (changes : Fields) : Prop where
  declared : ∀ entry ∈ changes.entries, entry.1 ∈ Schema.threshold.names
  plain : ∀ entry ∈ changes.entries, entry.1 ∈ Schema.shared.names → entry.2.fields? = none

theorem mem_shared_of_notMem_ruleFields :
    ∀ name ∈ Schema.threshold.names, name ∉ ruleFields → name ∈ Schema.shared.names := by
  decide

theorem isBody_createPayload (context : Context) : IsBody (createPayload context) := by
  intro key hkey
  rw [get?_createPayload] at hkey
  by_cases hname : key = "name"
  · rw [hname]
    exact List.mem_cons_self
  · rw [if_neg hname, Option.isSome_map] at hkey
    exact List.mem_cons_of_mem _ (Schema.mem_names_of_isSome Schema.nodup_names_threshold hkey)

theorem isBodyChange_changePayload (context : Context) (hchanges : IsDiff changes) :
    IsBodyChange (changePayload context changes) := by
  have hdeclared {key : String} {value : Json} (hvalue : changes.get? key = some value) :
      key ∈ Schema.threshold.names :=
    hchanges.declared _ (OrderedMap.get?_eq_some_iff.1 hvalue)
  refine ⟨fun key hkey ↦ ?_, fun key value hkey hvalue ↦ ?_⟩
  · rw [get?_changePayload, Option.isSome_map] at hkey
    obtain ⟨value, hvalue⟩ := Option.isSome_iff_exists.1 hkey
    exact List.mem_cons_of_mem _ (hdeclared hvalue)
  · rw [get?_changePayload] at hvalue
    obtain ⟨given, hgiven, rfl⟩ := Option.map_eq_some_iff.1 hvalue
    have hmetadata : key ≠ matchingMetadata := by
      rintro rfl
      exact hkey List.mem_cons_self
    have hshared := mem_shared_of_notMem_ruleFields key (hdeclared hgiven) hkey
    have hplain := hchanges.plain _ (OrderedMap.get?_eq_some_iff.1 hgiven) hshared
    rw [Payload.thresholdValue, if_neg hmetadata]
    exact Actions.fields?_resolveValue _ _ hplain

/-- What a suspended or resumed alarm is sent. -/
theorem isBodyChange_enabled (value : Bool) :
    IsBodyChange (.ofList [(enabled, .bool value)]) := by
  refine ⟨fun key hkey ↦ ?_, fun key found _ hfound ↦ ?_⟩
  · rw [OrderedMap.get?_ofList_singleton] at hkey
    by_cases henabled : key = enabled
    · rw [henabled]
      decide
    · rw [if_neg henabled] at hkey
      cases hkey
  · rw [OrderedMap.get?_ofList_singleton] at hfound
    by_cases henabled : key = enabled
    · rw [if_pos henabled, Option.some_inj] at hfound
      rw [← hfound]
      rfl
    · rw [if_neg henabled] at hfound
      cases hfound

end MeteringAlarms.ThresholdAlarm
