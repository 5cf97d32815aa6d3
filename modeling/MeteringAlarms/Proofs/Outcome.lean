import MeteringAlarms.Failure

/-!
# Outcomes of the same kind

Two services that stand for each other need not fail with the same words.  What has to be the same
is the kind of failure, since callers tell failures apart by their kind.
-/

namespace MeteringAlarms

/-- Two outcomes: successes with related values, or failures of the same kind. -/
inductive SameOutcome {α β : Type} (R : α → β → Prop) : Except Failure α → Except Failure β → Prop
  | ok {left : α} {right : β} (related : R left right) : SameOutcome R (.ok left) (.ok right)
  | error {left right : Failure} (kind : left.ctorIdx = right.ctorIdx) :
      SameOutcome R (.error left) (.error right)

/-- What is gone is told by the kind of the failure. -/
theorem Failure.isMissing_eq_of_ctorIdx {left right : Failure}
    (kind : left.ctorIdx = right.ctorIdx) : left.isMissing = right.isMissing := by
  cases left <;> cases right <;> first | rfl | cases kind

theorem SameOutcome.ignoreMissing {left right : Except Failure Unit}
    (h : SameOutcome (fun _ _ ↦ True) left right) :
    SameOutcome (fun _ _ ↦ True) (ignoreMissing left) (ignoreMissing right) := by
  cases h with
  | ok related => exact .ok related
  | @error left right kind =>
    rw [MeteringAlarms.ignoreMissing, MeteringAlarms.ignoreMissing,
      Failure.isMissing_eq_of_ctorIdx kind]
    cases right.isMissing with
    | true => exact .ok trivial
    | false => exact .error kind

end MeteringAlarms
