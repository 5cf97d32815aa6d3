import MeteringAlarms.Proofs.Adapter.Runs
import MeteringAlarms.Proofs.Outcome

/-!
# Rules apart from their times

Two stores in memory that hold the same rules up to the times at which they were made answer alike
and keep doing so.
-/

namespace MeteringAlarms

namespace WatchRule

/-- The rule made at the beginning of time. -/
def undated (rule : WatchRule) : WatchRule :=
  .made rule.name rule.rule rule.stackId rule.state ⟨0, 0⟩

theorem name_eq_of_undated {left right : WatchRule} (h : left.undated = right.undated) :
    left.name = right.name := by
  have hname : left.undated.name = right.undated.name := by rw [h]
  exact hname

end WatchRule

namespace RuleBook

/-- The same rules under the same names, up to their times. -/
def SameUpToTimes (left right : RuleBook) : Prop :=
  ∀ name, (left.get? name).map WatchRule.undated = (right.get? name).map WatchRule.undated

variable {left right : RuleBook}

theorem SameUpToTimes.isSome (h : SameUpToTimes left right) (name : String) :
    (left.get? name).isSome = (right.get? name).isSome := by
  have hname := congrArg Option.isSome (h name)
  rw [Option.isSome_map, Option.isSome_map] at hname
  exact hname

theorem SameUpToTimes.create (h : SameUpToTimes left right) {rule rule' : WatchRule}
    (hrule : rule.undated = rule'.undated) :
    SameOutcome (fun _ _ ↦ True) (RuleBook.create rule left).1 (RuleBook.create rule' right).1 ∧
      SameUpToTimes (RuleBook.create rule left).2 (RuleBook.create rule' right).2 := by
  have hname := WatchRule.name_eq_of_undated hrule
  have hsome := h.isSome rule.name
  rw [RuleBook.create, RuleBook.create, OrderedMap.contains_eq_isSome,
    OrderedMap.contains_eq_isSome, ← hname, hsome]
  cases (right.get? rule.name).isSome with
  | true => exact ⟨.error rfl, h⟩
  | false =>
    refine ⟨.ok trivial, fun other ↦ ?_⟩
    rw [if_neg Bool.false_ne_true, if_neg Bool.false_ne_true, OrderedMap.get?_insert,
      OrderedMap.get?_insert]
    by_cases hother : other = rule.name
    · rw [if_pos hother, if_pos hother, Option.map_some, Option.map_some, hrule]
    · rw [if_neg hother, if_neg hother]
      exact h other

theorem SameUpToTimes.destroy (h : SameUpToTimes left right) (name : String) :
    SameOutcome (fun _ _ ↦ True) (RuleBook.destroy name left).1 (RuleBook.destroy name right).1 ∧
      SameUpToTimes (RuleBook.destroy name left).2 (RuleBook.destroy name right).2 := by
  have hsome := h.isSome name
  rw [RuleBook.destroy, RuleBook.destroy, OrderedMap.contains_eq_isSome,
    OrderedMap.contains_eq_isSome, hsome]
  cases (right.get? name).isSome with
  | true =>
    refine ⟨.ok trivial, fun other ↦ ?_⟩
    rw [if_pos rfl, if_pos rfl, OrderedMap.get?_erase, OrderedMap.get?_erase]
    by_cases hother : other = name
    · rw [if_pos hother, if_pos hother]
    · rw [if_neg hother, if_neg hother]
      exact h other
  | false => exact ⟨.error rfl, h⟩

theorem SameUpToTimes.removeRule (h : SameUpToTimes left right) (name : String) :
    SameOutcome (fun _ _ ↦ True)
        ((ThresholdAlarm.removeRule RuleBook.store name).on left).1
        ((ThresholdAlarm.removeRule RuleBook.store name).on right).1 ∧
      SameUpToTimes ((ThresholdAlarm.removeRule RuleBook.store name).on left).2
        ((ThresholdAlarm.removeRule RuleBook.store name).on right).2 := by
  have hname := h name
  cases hleft : left.get? name with
  | none =>
    cases hright : right.get? name with
    | none =>
      rw [removeRule_of_none hleft, removeRule_of_none hright]
      exact ⟨.error rfl, h⟩
    | some rule' =>
      rw [hleft, hright] at hname
      cases hname
  | some rule =>
    cases hright : right.get? name with
    | none =>
      rw [hleft, hright] at hname
      cases hname
    | some rule' =>
      rw [hleft, hright, Option.map_some, Option.map_some] at hname
      rw [removeRule_eq_destroy hleft, removeRule_eq_destroy hright,
        WatchRule.name_eq_of_undated (Option.some.inj hname)]
      exact h.destroy rule'.name

end RuleBook

end MeteringAlarms
