import MeteringAlarms.Payload.Basic

/-!
# Alarm documents of the remote service

The remote service nests what resources keep flat: the fields of a threshold in `threshold_rule`,
and matching metadata as a `query` of equality terms within it. A body with a rule of a combination
has the nested shape already. Changes are merged into a stored document one level deep, so a change
of the threshold keeps the other fields of its rule.
-/

namespace MeteringAlarms.AlarmDocument

abbrev typeField : String := "type"
abbrev thresholdRule : String := "threshold_rule"
abbrev thresholdType : String := "threshold"
abbrev combinationType : String := "combination"
abbrev query : String := "query"

/-- The fields that move into `threshold_rule`. -/
def thresholdFields : List String :=
  [PropertyName.meterName, PropertyName.comparisonOperator, PropertyName.threshold,
    PropertyName.statistic, PropertyName.evaluationPeriods, PropertyName.period, query]

/-- The condition that a metadata field equals a value. -/
def equalityTerm (field : String) (value : Json) : Json :=
  .ofEntries [("field", .string field), ("op", .string "eq"), ("value", value)]

/-- One term for each entry of the metadata; nothing that is not an object gives a term. -/
def queryOf (metadata : Json) : Json :=
  .array ((metadata.fields?.getD .empty).entries.map fun (field, value) ↦ equalityTerm field value)

/-- The flat body with its metadata replaced by the query. -/
def withQuery (flat : Fields) : Fields :=
  match flat.get? PropertyName.matchingMetadata with
  | some metadata => (flat.erase PropertyName.matchingMetadata).insert query (queryOf metadata)
  | none => flat

/-- The rule that the threshold fields of a body give. -/
def ruleOf (body : Fields) : Fields :=
  .ofList (thresholdFields.filterMap fun name ↦ (body.get? name).map (name, ·))

/--
The nested form of a flat body. A complete body always gets a type and a rule, and a body of changes
only when a field of the rule is among them. A type that is given stays.
-/
def ofFlat (flat : Fields) (complete : Bool) : Fields :=
  if flat.contains Payload.combinationRule then flat
  else
    let body := withQuery flat
    let rule := ruleOf body
    let others := thresholdFields.foldl OrderedMap.erase body
    if complete || !rule.isEmpty then
      let typed :=
        if others.contains typeField then others
        else others.insert typeField (.string thresholdType)
      typed.insert thresholdRule (.ofFields rule)
    else others

/-- Writes one change: an object over an object entry by entry, anything else in its place. -/
def mergeEntry (document : Fields) (name : String) (value : Json) : Fields :=
  match value.fields?, (document.get? name).bind Json.fields? with
  | some nested, some current => document.insert name (.ofFields (current.overlay nested))
  | _, _ => document.insert name value

def merge (document changes : Fields) : Fields :=
  changes.entries.foldl (fun document (name, value) ↦ mergeEntry document name value) document

end MeteringAlarms.AlarmDocument
