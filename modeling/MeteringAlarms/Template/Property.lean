import MeteringAlarms.Json.Basic
import MeteringAlarms.Template.Terms

/-!
# The declared properties of alarm resources

Each kind of alarm declares its properties: the kind of value, whether a template must set it,
whether a stack update may change it in place, and the value it takes when it is left out. Only
names, requirements and defaults matter to this library; the rest is shown to whoever asks.
-/

namespace MeteringAlarms

inductive PropertyKind where
  | string | boolean | integer | number | list | map
  deriving DecidableEq

inductive Constraint where
  | oneOf (names : List String)
  | atLeastItems (count : Nat)
  deriving DecidableEq

structure Property where
  name : String
  kind : PropertyKind
  description : String
  required : Bool := false
  updatable : Bool := true
  default? : Option Json := none
  constraints : List Constraint := []

/-- The properties that a kind of alarm declares, in order. -/
abbrev Schema := List Property

namespace PropertyName

abbrev description : String := "description"
abbrev enabled : String := "enabled"
abbrev alarmActions : String := "alarm_actions"
abbrev okActions : String := "ok_actions"
abbrev insufficientDataActions : String := "insufficient_data_actions"
abbrev repeatActions : String := "repeat_actions"
abbrev comparisonOperator : String := "comparison_operator"
abbrev evaluationPeriods : String := "evaluation_periods"
abbrev meterName : String := "meter_name"
abbrev period : String := "period"
abbrev statistic : String := "statistic"
abbrev threshold : String := "threshold"
abbrev matchingMetadata : String := "matching_metadata"
abbrev alarmIds : String := "alarm_ids"
abbrev operator : String := "operator"

/-- The properties whose values are lists of actions. -/
def actionLists : List String := [alarmActions, okActions, insufficientDataActions]

end PropertyName

namespace Schema

/-- The properties that every kind of alarm has. -/
def shared : Schema := [
  { name := PropertyName.description, kind := .string
    description := "Description for the alarm." },
  { name := PropertyName.enabled, kind := .boolean
    description := "True if alarm evaluation/actioning is enabled."
    default? := some (.bool true) },
  { name := PropertyName.alarmActions, kind := .list
    description := "A list of URLs (webhooks) to invoke when state transitions to alarm." },
  { name := PropertyName.okActions, kind := .list
    description := "A list of URLs (webhooks) to invoke when state transitions to ok." },
  { name := PropertyName.insufficientDataActions, kind := .list
    description :=
      "A list of URLs (webhooks) to invoke when state transitions to insufficient-data." },
  { name := PropertyName.repeatActions, kind := .boolean
    description :=
      "False to trigger actions when the threshold is reached AND the alarm's state has " ++
        "changed. By default, actions are called each time the threshold is reached."
    default? := some (.bool true) }]

/-- The properties of an alarm that compares one meter with a threshold. -/
def threshold : Schema := [
  { name := PropertyName.comparisonOperator, kind := .string
    description := "Operator used to compare specified statistic with threshold."
    constraints := [.oneOf (Comparison.all.map Comparison.name)] },
  { name := PropertyName.evaluationPeriods, kind := .integer
    description := "Number of periods to evaluate over." },
  { name := PropertyName.meterName, kind := .string
    description := "Meter name watched by the alarm."
    required := true, updatable := false },
  { name := PropertyName.period, kind := .integer
    description := "Period (seconds) to evaluate over." },
  { name := PropertyName.statistic, kind := .string
    description := "Meter statistic to evaluate."
    constraints := [.oneOf (Statistic.all.map Statistic.name)] },
  { name := PropertyName.threshold, kind := .number
    description := "Threshold to evaluate against."
    required := true },
  { name := PropertyName.matchingMetadata, kind := .map
    description :=
      "Meter should match this resource metadata (key=value) additionally to the meter_name."
    updatable := false, default? := some (.object []) }] ++ shared

/-- The properties of an alarm that combines other alarms. -/
def combination : Schema := [
  { name := PropertyName.alarmIds, kind := .list
    description := "List of alarm identifiers to combine."
    required := true, constraints := [.atLeastItems 1] },
  { name := PropertyName.operator, kind := .string
    description := "Operator used to combine the alarms."
    constraints := [.oneOf (Connective.all.map Connective.name)] }] ++ shared

def names (schema : Schema) : List String :=
  schema.map Property.name

/--
The declared properties with a value: the given one unless it is null, else the default. A property
with neither is left out, and so is everything that is not declared.
-/
def collect (schema : Schema) (given : Fields) : Fields :=
  OrderedMap.ofList <| schema.filterMap fun property ↦
    ((given.get? property.name).filter (!·.isNull) <|> property.default?).map (property.name, ·)

end Schema

end MeteringAlarms
