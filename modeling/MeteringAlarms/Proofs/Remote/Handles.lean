import MeteringAlarms.Proofs.Adapter.Runs
import MeteringAlarms.Proofs.Outcome

/-!
# Handles on two services

Two alarm services that stand for each other hand out ids of their own.  Handles correspond when
they are of resources in the same state and the alarms, if there are any, were handed out in the
same place.  The callbacks that ask nothing but the alarm service keep this whatever else the two
services have in common, as long as their operations on corresponding alarms keep that.
-/

namespace MeteringAlarms

/-- Ids that grow by a letter each time are told apart. -/
theorem injective_ofList_replicate (letter : Char) :
    Function.Injective fun n ↦ String.ofList (List.replicate n letter) := by
  intro m n heq
  have hletters : List.replicate m letter = List.replicate n letter := String.ofList_injective heq
  simpa using congrArg List.length hletters

/-- Handles of resources in the same state, with corresponding alarms or with none. -/
structure Handle.Corresponds (leftId rightId : Nat → String) (left right : Handle) : Prop where
  state : left.state = right.state
  alarmId : ∃ n? : Option Nat, left.alarmId? = n?.map leftId ∧ right.alarmId? = n?.map rightId

namespace Handle.Corresponds

variable {leftId rightId : Nat → String} {left right : Handle}

theorem attached (n : Nat) :
    Corresponds leftId rightId (.attached (leftId n)) (.attached (rightId n)) :=
  ⟨rfl, some n, rfl, rfl⟩

theorem withState (h : Corresponds leftId rightId left right) (state : LifecycleState) :
    Corresponds leftId rightId { left with state } { right with state } :=
  ⟨rfl, h.alarmId⟩

/-- Either both have no alarm, or they have corresponding ones. -/
theorem alarmId_cases (h : Corresponds leftId rightId left right) :
    left.alarmId? = none ∧ right.alarmId? = none ∨
      ∃ n, left.alarmId? = some (leftId n) ∧ right.alarmId? = some (rightId n) := by
  obtain ⟨_ | n, hleft, hright⟩ := h.alarmId
  · exact Or.inl ⟨hleft, hright⟩
  · exact Or.inr ⟨n, hleft, hright⟩

end Handle.Corresponds

namespace Callback

variable {α β ρ σ : Type} {leftId rightId : Nat → String} {handle handle' : Handle}
  {alarms : AlarmService (StateM α)} {alarms' : AlarmService (StateM β)}
  {store : RuleStore (StateM ρ)} {store' : RuleStore (StateM σ)}
  {left : α} {right : β} {rules : ρ} {rules' : σ} {Kept : α → β → Prop}

/-- What a callback that asks only the alarm service leaves on both sides; `before` is the handle of
the first side, and the rules stay. -/
structure AsksAlarms (leftId rightId : Nat → String) (Kept : α → β → Prop) (before : Handle)
    (rules : ρ) (rules' : σ) (left : Except Failure Unit × Handle × α × ρ)
    (right : Except Failure Unit × Handle × β × σ) : Prop where
  outcome : SameOutcome (fun _ _ ↦ True) left.1 right.1
  handle : left.2.1.Corresponds leftId rightId right.2.1
  alarmId : left.2.1.alarmId? = before.alarmId?
  alarms : Kept left.2.2.1 right.2.2.1
  rules : left.2.2.2 = rules
  rules' : right.2.2.2 = rules'

/-- Switching an alarm leaves the service as updating it does. -/
theorem alarms_switch (enabled : Bool) (state : LifecycleState) {id : String}
    (hid : handle.alarmId? = some id) :
    ((switch (Services.join alarms store).alarms enabled state).on handle (left, rules)).2.2.1 =
      ((alarms.update id (.ofList [(PropertyName.enabled, .bool enabled)])).on left).2 := by
  rw [on_switch, hid]
  dsimp only
  rw [Services.join_update]
  split <;> rfl

variable (store store' rules rules')
  (hhandle : handle.Corresponds leftId rightId handle') (hkept : Kept left right)
include hhandle hkept

theorem asksAlarms_switch (enabled : Bool) (state : LifecycleState)
    (hupdate : ∀ n, handle.alarmId? = some (leftId n) →
      let changes : Fields := .ofList [(PropertyName.enabled, .bool enabled)]
      SameOutcome (fun _ _ ↦ True) ((alarms.update (leftId n) changes).on left).1
          ((alarms'.update (rightId n) changes).on right).1 ∧
        Kept ((alarms.update (leftId n) changes).on left).2
          ((alarms'.update (rightId n) changes).on right).2) :
    AsksAlarms leftId rightId Kept handle rules rules'
      ((switch (Services.join alarms store).alarms enabled state).on handle (left, rules))
      ((switch (Services.join alarms' store').alarms enabled state).on
        handle' (right, rules')) := by
  rw [on_switch, on_switch]
  rcases hhandle.alarmId_cases with ⟨hid, hid'⟩ | ⟨n, hid, hid'⟩
  · rw [hid, hid']
    exact ⟨.ok trivial, hhandle, rfl, hkept, rfl, rfl⟩
  · obtain ⟨houtcome, hupdated⟩ := hupdate n hid
    rw [hid, hid']
    dsimp only
    rw [Services.join_update, Services.join_update]
    generalize (alarms.update (leftId n) _).on left = onLeft at houtcome hupdated ⊢
    generalize (alarms'.update (rightId n) _).on right = onRight at houtcome hupdated ⊢
    obtain ⟨outcome, left'⟩ := onLeft
    obtain ⟨outcome', right'⟩ := onRight
    cases houtcome with
    | ok _ => exact ⟨.ok trivial, ⟨rfl, some n, rfl, rfl⟩, hid.symm, hupdated, rfl, rfl⟩
    | error kind => exact ⟨.error kind, hhandle, rfl, hupdated, rfl, rfl⟩

theorem asksAlarms_delete
    (hdelete : ∀ n, handle.alarmId? = some (leftId n) →
      SameOutcome (fun _ _ ↦ True) ((alarms.delete (leftId n)).on left).1
          ((alarms'.delete (rightId n)).on right).1 ∧
        Kept ((alarms.delete (leftId n)).on left).2 ((alarms'.delete (rightId n)).on right).2) :
    AsksAlarms leftId rightId Kept handle rules rules'
      ((CombinationAlarm.delete (.join alarms store)).on handle (left, rules))
      ((CombinationAlarm.delete (.join alarms' store')).on handle' (right, rules')) := by
  rw [CombinationAlarm.on_delete, CombinationAlarm.on_delete, on_removeAlarm, on_removeAlarm]
  rcases hhandle.alarmId_cases with ⟨hid, hid'⟩ | ⟨n, hid, hid'⟩
  · rw [hid, hid']
    exact ⟨.ok trivial, hhandle.withState _, rfl, hkept, rfl, rfl⟩
  · obtain ⟨houtcome, hdeleted⟩ := hdelete n hid
    have hignored := houtcome.ignoreMissing
    rw [hid, hid']
    dsimp only
    rw [Services.join_delete, Services.join_delete]
    dsimp only
    generalize ignoreMissing ((alarms.delete (leftId n)).on left).1 = outcome at hignored ⊢
    generalize ignoreMissing ((alarms'.delete (rightId n)).on right).1 = outcome' at hignored ⊢
    cases hignored with
    | ok _ => exact ⟨.ok trivial, hhandle.withState _, rfl, hdeleted, rfl, rfl⟩
    | error kind => exact ⟨.error kind, hhandle, rfl, hdeleted, rfl, rfl⟩

end Callback

end MeteringAlarms
