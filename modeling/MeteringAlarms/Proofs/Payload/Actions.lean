import MeteringAlarms.Payload.Actions
import MeteringAlarms.Proofs.Data.OrderedMap

/-!
# Resolved actions

Actions are resolved property by property, and of all properties only the action lists change.
-/

namespace MeteringAlarms.Actions

variable (resources : StackResources)

theorem get?_resolve (properties : Fields) (name : String) :
    (resolve resources properties).get? name =
      (properties.get? name).map (resolveValue resources name) :=
  OrderedMap.get?_mapValues properties _ name

theorem resolveValue_of_notMem {name : String} (hname : name ∉ PropertyName.actionLists)
    (value : Json) : resolveValue resources name value = value := by
  cases value with
  | array actions =>
    rw [resolveValue, if_neg]
    simpa using hname
  | _ => rfl

/-- Resolving actions makes no objects. -/
theorem fields?_resolveValue (name : String) {value : Json} (hvalue : value.fields? = none) :
    (resolveValue resources name value).fields? = none := by
  cases value with
  | array actions =>
    rw [resolveValue]
    split <;> rfl
  | _ => exact hvalue

end MeteringAlarms.Actions
