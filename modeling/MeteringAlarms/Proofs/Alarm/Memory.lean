import MeteringAlarms.Alarm.Memory
import MeteringAlarms.Proofs.Data.OrderedMap

/-!
# The cases of the alarm service in memory

Each operation of `AlarmMemory` either is refused because the service is switched off, or fails for
want of the alarm and leaves only its entry in the journal, or has its effect.  The lemmas give
outcome and new state of each case in full.
-/

namespace MeteringAlarms.AlarmMemory

variable (newId : Nat → String) (id : String) (payload changes : Fields) (memory : AlarmMemory)

/-- Switches the service on or off. -/
def setAvailable (available : Bool) (memory : AlarmMemory) : AlarmMemory :=
  { memory with unavailable := !available }

theorem create_cases :
    memory.unavailable = true ∧ memory.create newId payload = (.error refusal, memory) ∨
    memory.unavailable = false ∧
      memory.create newId payload =
        (.ok ⟨newId memory.issued, payload⟩,
          { memory.record (.create payload) with
            alarms := memory.alarms.insert (newId memory.issued) payload
            issued := memory.issued + 1 }) := by
  cases h : memory.unavailable with
  | true => exact Or.inl ⟨rfl, by simp [create, h]⟩
  | false => exact Or.inr ⟨rfl, by simp [create, h]⟩

theorem update_of_get?_eq_some {fields : Fields} (havailable : memory.unavailable = false)
    (hfields : memory.alarms.get? id = some fields) :
    memory.update id changes =
      (.ok (), { memory.record (.update id changes) with
        alarms := memory.alarms.insert id (fields.overlay changes) }) := by
  simp [update, record, havailable, hfields]

theorem update_cases :
    memory.unavailable = true ∧ memory.update id changes = (.error refusal, memory) ∨
    memory.unavailable = false ∧ memory.alarms.get? id = none ∧
      memory.update id changes =
        (.error (.alarmMissing id), memory.record (.update id changes)) ∨
    memory.unavailable = false ∧ ∃ fields, memory.alarms.get? id = some fields ∧
      memory.update id changes =
        (.ok (), { memory.record (.update id changes) with
          alarms := memory.alarms.insert id (fields.overlay changes) }) := by
  cases h : memory.unavailable with
  | true => exact Or.inl ⟨rfl, by simp [update, h]⟩
  | false =>
    refine Or.inr ?_
    cases hfields : memory.alarms.get? id with
    | none => exact Or.inl ⟨rfl, rfl, by simp [update, record, h, hfields]⟩
    | some fields =>
      exact Or.inr ⟨rfl, fields, rfl, update_of_get?_eq_some id changes memory h hfields⟩

/-- An update either fails and leaves the alarms as they are, or lays the changes over the fields of
an alarm. -/
theorem update_effect :
    (memory.update id changes).2.issued = memory.issued ∧
    ((∃ failure, (memory.update id changes).1 = .error failure ∧
        (memory.update id changes).2.alarms = memory.alarms) ∨
      ∃ fields, (memory.update id changes).1 = .ok () ∧ memory.alarms.get? id = some fields ∧
        (memory.update id changes).2.alarms =
          memory.alarms.insert id (fields.overlay changes)) := by
  rcases memory.update_cases id changes with
    ⟨_, hstep⟩ | ⟨_, _, hstep⟩ | ⟨_, fields, hfields, hstep⟩
  · rw [hstep]
    exact ⟨rfl, Or.inl ⟨_, rfl, rfl⟩⟩
  · rw [hstep]
    exact ⟨rfl, Or.inl ⟨_, rfl, rfl⟩⟩
  · rw [hstep]
    exact ⟨rfl, Or.inr ⟨fields, rfl, hfields, rfl⟩⟩

theorem delete_cases :
    memory.unavailable = true ∧ memory.delete id = (.error refusal, memory) ∨
    memory.unavailable = false ∧ memory.alarms.get? id = none ∧
      memory.delete id = (.error (.alarmMissing id), memory.record (.delete id)) ∨
    memory.unavailable = false ∧ (memory.alarms.get? id).isSome ∧
      memory.delete id =
        (.ok (), { memory.record (.delete id) with alarms := memory.alarms.erase id }) := by
  cases h : memory.unavailable with
  | true => exact Or.inl ⟨rfl, by simp [delete, h]⟩
  | false =>
    refine Or.inr ?_
    cases hfields : memory.alarms.get? id with
    | none =>
      refine Or.inl ⟨rfl, rfl, ?_⟩
      simp [delete, record, h, OrderedMap.contains_eq_isSome, hfields]
    | some fields =>
      refine Or.inr ⟨rfl, rfl, ?_⟩
      simp [delete, record, h, OrderedMap.contains_eq_isSome, hfields]

end MeteringAlarms.AlarmMemory
