import MeteringAlarms.Proofs.Rule.Keeping

/-!
# Creations are all or nothing

The creation of an alarm on one meter has two effects, one on the alarm service and one on the rule
store, and the second may fail after the first was made.  Then the new alarm is removed again: a
creation that fails, for whatever reason, leaves alarms, rules and handle as they were, and one that
succeeds adds one alarm and one rule.  That takes that the id of the new alarm is not in use.
-/

namespace MeteringAlarms.ThresholdAlarm

open RuleKeeping

variable (newId : Nat → String) (keeping : RuleKeeping) (verdict : Verdict) (context : Context)
  (now : Timestamp) (handle : Handle) (memory : AlarmMemory) (rules : RuleBook) (folder : Folder)

/-- The service after it has made an alarm and removed it again. -/
def withdrawn (payload : Fields) : AlarmMemory :=
  ((memory.create newId payload).2.delete (newId memory.issued)).2

variable {memory} in
theorem alarms_withdrawn (payload : Fields)
    (hfresh : memory.alarms.get? (newId memory.issued) = none) :
    (withdrawn newId memory payload).alarms = memory.alarms := by
  rw [withdrawn]
  rcases memory.create_cases newId payload with ⟨hdown, hcreate⟩ | ⟨_, hcreate⟩
  · rw [hcreate]
    simp [AlarmMemory.delete, hdown]
  · rw [hcreate]
    dsimp only
    rcases AlarmMemory.delete_cases (newId memory.issued)
        { memory.record (.create payload) with
          alarms := memory.alarms.insert (newId memory.issued) payload
          issued := memory.issued + 1 } with ⟨_, hdelete⟩ | ⟨_, hnone, _⟩ | ⟨_, _, hdelete⟩
    · rename_i havailable hdown
      exact absurd hdown (by simp [AlarmMemory.record, havailable])
    · simp at hnone
    · rw [hdelete]
      exact OrderedMap.erase_insert_of_get?_eq_none hfresh payload

/-- The four ways in which a creation may end. -/
theorem creation_cases :
    (memory.unavailable = true ∧
      (create (.overMemory newId (keeping.store verdict)) context now).on handle
          (memory, rules, folder) =
        (.error AlarmMemory.refusal, handle, memory, rules, folder)) ∨
    (memory.unavailable = false ∧ (rules.get? context.physicalName).isSome ∧
      (create (.overMemory newId (keeping.store verdict)) context now).on handle
          (memory, rules, folder) =
        (.error (.ruleExists context.physicalName), handle,
          withdrawn newId memory (createPayload context), rules, folder)) ∨
    (memory.unavailable = false ∧ rules.get? context.physicalName = none ∧
      keeping.lasts verdict = false ∧ ∃ files, keeping.SameFiles files folder ∧
        (create (.overMemory newId (keeping.store verdict)) context now).on handle
            (memory, rules, folder) =
          (.error Snapshot.storageFailure, handle,
            withdrawn newId memory (createPayload context), rules, files)) ∨
    (memory.unavailable = false ∧ rules.get? context.physicalName = none ∧
      keeping.lasts verdict = true ∧
        (create (.overMemory newId (keeping.store verdict)) context now).on handle
            (memory, rules, folder) =
          (.ok (), .attached (newId memory.issued),
            (memory.create newId (createPayload context)).2,
            rules.insert context.physicalName (watchRule context now),
            keeping.keep (rules.insert context.physicalName (watchRule context now)) folder)) := by
  have hname : (watchRule context now).name = context.physicalName := rfl
  rw [on_create, Services.overMemory_create, withdrawn]
  rcases memory.create_cases newId (createPayload context) with ⟨hdown, hcreate⟩ | ⟨hup, hcreate⟩
  · rw [hcreate]
    exact Or.inl ⟨hdown, rfl⟩
  · refine Or.inr ?_
    rw [hcreate]
    dsimp only
    rw [Services.overMemory_createRule]
    rcases keeping.create_cases verdict (watchRule context now) rules folder with
      ⟨htaken, hrule⟩ | ⟨hfree, hlasts, hrule⟩ | ⟨hfree, hlasts, files, hsame, hrule⟩
    · rw [hrule]
      exact Or.inl ⟨hup, htaken, rfl⟩
    · rw [hrule]
      exact Or.inr (Or.inr ⟨hup, hfree, hlasts, rfl⟩)
    · rw [hrule]
      exact Or.inr (Or.inl ⟨hup, hfree, hlasts, files, hsame, rfl⟩)

/-- A creation succeeds just when the service is available, the name is free and the rules can be
kept.  It then adds one alarm with the fields of its payload, whose id the handle remembers, and one
delegated rule of its name that holds the properties as they were collected, and changes nothing
else.  A creation that fails says why, and the stored alarms, the rules, the files that hold them
and the resource are those from before it. -/
theorem create_all_or_nothing {resource : Resource} (htype : resource.type = .threshold)
    (hfresh : memory.alarms.get? (newId memory.issued) = none) :
    let context := resource.context
    let name := context.physicalName
    let after := resource.perform (.overMemory newId (keeping.store verdict)) now .create
      (memory, rules, folder)
    (after.1 = .ok () ↔
      memory.unavailable = false ∧ rules.get? name = none ∧ keeping.lasts verdict = true) ∧
    (after.1 = .ok () → ∃ id rule, memory.alarms.get? id = none ∧
      after.2.1 = { resource with handle := ⟨some id, .active⟩ } ∧
      after.2.2.1.alarms = memory.alarms.insert id (createPayload context) ∧
      rule.name = name ∧ rule.rule = .ofFields (Schema.threshold.collect context.properties) ∧
      rule.stackId = context.stackId ∧ rule.state = .delegated ∧ rules.get? name = none ∧
      after.2.2.2 = (rules.insert name rule, keeping.keep (rules.insert name rule) folder)) ∧
    (∀ failure, after.1 = .error failure →
      failure = (if memory.unavailable then AlarmMemory.refusal
        else if rules.contains name then .ruleExists name else Snapshot.storageFailure) ∧
      after.2.1 = resource ∧ after.2.2.1.alarms = memory.alarms ∧ after.2.2.2.1 = rules ∧
      keeping.SameFiles after.2.2.2.2 folder) := by
  obtain ⟨type, context, handle⟩ := resource
  obtain rfl : type = .threshold := htype
  intro context' name after
  have halarms := alarms_withdrawn newId (createPayload context) hfresh
  have hafter : after =
      match (create (.overMemory newId (keeping.store verdict)) context now).on handle
        (memory, rules, folder) with
      | (outcome, handle, world) => (outcome, ⟨.threshold, context, handle⟩, world) := rfl
  rw [hafter]
  rcases creation_cases newId keeping verdict context now handle memory rules folder with
    ⟨hdown, hstep⟩ | ⟨hup, htaken, hstep⟩ | ⟨hup, hfree, hfails, files, hsame, hstep⟩ |
      ⟨hup, hfree, hlasts, hstep⟩
  · rw [hstep]
    refine ⟨by simp [hdown], by simp, ?_⟩
    rintro failure ⟨⟩
    exact ⟨by rw [if_pos hdown], rfl, rfl, rfl, SameFiles.refl keeping folder⟩
  · rw [hstep]
    refine ⟨by simp [name, context', Option.isSome_iff_ne_none.1 htaken], by simp, ?_⟩
    rintro failure ⟨⟩
    refine ⟨?_, rfl, halarms, rfl, SameFiles.refl keeping folder⟩
    rw [hup, if_neg Bool.false_ne_true, OrderedMap.contains_eq_isSome, if_pos htaken]
  · rw [hstep]
    refine ⟨by simp [hfails], by simp, ?_⟩
    rintro failure ⟨⟩
    refine ⟨?_, rfl, halarms, rfl, hsame⟩
    rw [hup, if_neg Bool.false_ne_true, OrderedMap.contains_eq_isSome, hfree, Option.isSome_none,
      if_neg Bool.false_ne_true]
  · rw [hstep]
    refine ⟨⟨fun _ ↦ ⟨hup, hfree, hlasts⟩, fun _ ↦ rfl⟩, fun _ ↦ ?_, by simp⟩
    refine ⟨newId memory.issued, watchRule context now, hfresh, rfl, ?_, rfl, rfl, rfl, rfl, hfree,
      rfl⟩
    dsimp only
    rw [AlarmMemory.create, hup, if_neg Bool.false_ne_true]

/-- A second creation of a resource that has an alarm, under a name that is free again, fails when
the snapshot of the rules cannot be renamed, and the resource keeps the alarm that it has. -/
theorem create_all_or_nothing_of_failed_rename :
    let newId (n : Nat) := String.ofList (List.replicate n 'a')
    let resource : Resource :=
      ⟨.threshold, ⟨"OS::Ceilometer::Alarm", "own", "stack", .empty, .empty⟩, .attached "a"⟩
    let memory : AlarmMemory := { alarms := .ofList [("a", .empty)], issued := 2 }
    let other : WatchRule := .made "other" .null "stack" .normal ⟨0, 0⟩
    let after := resource.perform
      (.overMemory newId ((RuleKeeping.snapshot "rules").store ⟨true, none, false, true⟩)) ⟨1, 0⟩
      .create (memory, .ofList [("other", other)], .empty)
    memory.alarms.get? (newId memory.issued) = none ∧
    after.1 = .error Snapshot.storageFailure ∧ after.2.1 = resource ∧
    after.2.2.1.alarms = memory.alarms ∧ after.2.2.2.1 = .ofList [("other", other)] := by
  intro newId resource memory other after
  have htype : resource.type = .threshold := rfl
  have hfresh : memory.alarms.get? (newId memory.issued) = none := rfl
  have houtcome : after.1 = .error Snapshot.storageFailure := rfl
  obtain ⟨-, -, hfailed⟩ :=
    create_all_or_nothing newId (.snapshot "rules") ⟨true, none, false, true⟩ ⟨1, 0⟩ memory
      (.ofList [("other", other)]) .empty htype hfresh
  obtain ⟨-, hresource, halarms, hrules, -⟩ := hfailed _ houtcome
  exact ⟨hfresh, houtcome, hresource, halarms, hrules⟩

end MeteringAlarms.ThresholdAlarm
