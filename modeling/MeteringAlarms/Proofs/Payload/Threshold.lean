import MeteringAlarms.Adapter.Threshold
import MeteringAlarms.Proofs.Payload.Actions
import MeteringAlarms.Proofs.Template.Schema

/-!
# Payloads of alarms on one meter, field by field

A payload has the fields of the properties that it is made from, each with a value that depends on
that property and on the meter only, and only the value of the matching metadata depends on the
meter.  So the payload of a creation, patched with the payload of an update, is the payload of a
creation from the changed properties, provided the two agree on the meter wherever it matters.
-/

namespace MeteringAlarms

open PropertyName

theorem Schema.nodup_names_threshold : Schema.threshold.names.Nodup := by decide

namespace Payload

/-- The value that a property gets in the payload of an alarm on one meter. -/
def thresholdValue (resources : StackResources) (meter? : Option String) (name : String)
    (value : Json) : Json :=
  if name = matchingMetadata then
    match value.fields? with
    | some metadata => .ofFields (Metadata.qualifyAll (Meter.metadataNamespace meter?) metadata)
    | none => value
  else Actions.resolveValue resources name value

theorem threshold_eq_mapValues (resources : StackResources) (properties : Fields)
    (meter? : Option String) :
    threshold resources properties meter? =
      properties.mapValues (thresholdValue resources meter?) := by
  apply OrderedMap.ext_get?
  intro key
  rw [OrderedMap.get?_mapValues, threshold]
  by_cases hkey : key = matchingMetadata
  · subst hkey
    cases hvalue : properties.get? matchingMetadata with
    | none => simp [Actions.resolve, hvalue]
    | some value =>
      cases hfields : value.fields? with
      | none =>
        have hresolve := Actions.resolveValue_of_notMem resources
          (by decide : matchingMetadata ∉ actionLists) value
        simp [Actions.resolve, hvalue, hfields, thresholdValue, hresolve]
      | some metadata => simp [hfields, thresholdValue]
  · have hother : thresholdValue resources meter? key = Actions.resolveValue resources key :=
      funext fun value ↦ if_neg hkey
    cases (properties.get? matchingMetadata).bind Json.fields? with
    | none => simp [Actions.resolve, hother]
    | some metadata => simp [Actions.resolve, hother, hkey]

end Payload

namespace ThresholdAlarm

theorem meterOf?_collect (given : Fields) :
    meterOf? (Schema.threshold.collect given) = meterOf? given := by
  have hmeter : (Schema.threshold.collect given).get? meterName =
      (given.get? meterName).filter (!·.isNull) := by
    have hfind : Schema.threshold.find? (·.name = meterName) = Schema.threshold[2]? := rfl
    rw [Schema.get?_collect Schema.nodup_names_threshold, hfind]
    change ((given.get? meterName).filter (!·.isNull) <|> none) = _
    cases (given.get? meterName).filter (!·.isNull) <;> rfl
  rw [meterOf?, meterOf?, hmeter]
  rcases given.get? meterName with _ | value
  · rfl
  · cases value <;> rfl

theorem get?_createPayload (context : Context) (key : String) :
    (createPayload context).get? key =
      if key = "name" then some (.string context.physicalName)
      else ((Schema.threshold.collect context.properties).get? key).map
        (Payload.thresholdValue context.resources (meterOf? context.properties) key) := by
  rw [createPayload, OrderedMap.get?_insert, Payload.threshold_eq_mapValues,
    OrderedMap.get?_mapValues, properties, meterOf?_collect]

theorem get?_changePayload (context : Context) (changes : Fields) (key : String) :
    (changePayload context changes).get? key =
      (changes.get? key).map (Payload.thresholdValue context.resources
        (meterOf? changes <|> meterOf? context.properties) key) := by
  rw [changePayload, Payload.threshold_eq_mapValues, OrderedMap.get?_mapValues]

/-- Changes that a template makes to an alarm on one meter: declared properties with values, and
the matching metadata whenever the meter changes, whose namespace it has. -/
structure IsRevision (changes : Fields) : Prop where
  declared : ∀ entry ∈ changes.entries, entry.1 ∈ Schema.threshold.names
  notNull : ∀ entry ∈ changes.entries, entry.2.isNull = false
  meter : ∀ value ∈ changes.get? meterName, value.string?.isSome
  metadata : changes.contains meterName → changes.contains matchingMetadata

variable {context : Context} {changes : Fields}

theorem meterOf?_overlay (hchanges : IsRevision changes) (given : Fields) :
    meterOf? (given.overlay changes) = (meterOf? changes <|> meterOf? given) := by
  rw [meterOf?, meterOf?, meterOf?, OrderedMap.get?_overlay]
  cases hvalue : changes.get? meterName with
  | none => rfl
  | some value =>
    have hstring := hchanges.meter value hvalue
    rcases hmeter : value.string? with _ | meter
    · simp [hmeter] at hstring
    · simp [hmeter]

/-- The meter matters to the matching metadata only, and that changes along with the meter. -/
theorem thresholdValue_of_unchanged (hchanges : IsRevision changes) (resources : StackResources)
    (given : Fields) {name : String} (hnone : changes.get? name = none) :
    Payload.thresholdValue resources (meterOf? (given.overlay changes)) name =
      Payload.thresholdValue resources (meterOf? given) name := by
  funext value
  by_cases hname : name = matchingMetadata
  · subst hname
    have hmeter : changes.get? meterName = none := by
      cases hmeter : changes.get? meterName with
      | none => rfl
      | some meter =>
        have hmetadata := hchanges.metadata (by simp [OrderedMap.contains_eq_isSome, hmeter])
        simp [OrderedMap.contains_eq_isSome, hnone] at hmetadata
    rw [meterOf?_overlay hchanges, meterOf?, hmeter]
    rfl
  · rw [Payload.thresholdValue, if_neg hname, Payload.thresholdValue, if_neg hname]

/-- A creation's payload patched by an update's is a creation's payload after the changes. -/
theorem createPayload_overlay_changePayload (hchanges : IsRevision changes) :
    (createPayload context).overlay (changePayload context changes) =
      createPayload (context.setProperties changes) := by
  apply OrderedMap.ext_get?
  intro key
  have hcollect := Schema.collect_overlay Schema.nodup_names_threshold context.properties
    hchanges.declared hchanges.notNull
  rw [OrderedMap.get?_overlay, get?_changePayload, get?_createPayload, get?_createPayload,
    ← meterOf?_overlay hchanges, Context.setProperties, hcollect, OrderedMap.get?_overlay]
  cases hvalue : changes.get? key with
  | none =>
    rw [Option.map_none, Option.none_or, Option.none_or,
      thresholdValue_of_unchanged hchanges _ _ hvalue]
  | some value =>
    have hkey : key ≠ "name" := by
      rintro rfl
      have hname : "name" ∈ Schema.threshold.names :=
        hchanges.declared _ (OrderedMap.get?_eq_some_iff.1 hvalue)
      exact absurd hname (by decide)
    rw [if_neg hkey, if_neg hkey]
    rfl

end ThresholdAlarm

end MeteringAlarms
