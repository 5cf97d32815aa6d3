import MeteringAlarms.Proofs.Adapter.Runs
import MeteringAlarms.Proofs.Payload.Threshold

/-!
# Updates against creations

An alarm on one meter that is created once and then updated step by step, each update followed by
the same change of the template's properties, holds at every point what a creation from the
properties of that point would send.  The invariant is that equation itself; one update keeps it
because patching a creation's payload gives a creation's payload.
-/

namespace MeteringAlarms

variable {ω ρ : Type}

/-- Carries out an update and sets the changed properties, for each of the given changes in turn,
each at its own time; `none` once an update fails. -/
def Resource.revise? (services : Services (StateM ω)) :
    List (Timestamp × Fields) → Resource → ω → Option (Resource × ω)
  | [], resource, world => some (resource, world)
  | (now, changes) :: later, resource, world =>
    match resource.perform services now (.update changes) world with
    | (.ok (), resource, world) =>
      revise? services later
        { resource with context := resource.context.setProperties changes } world
    | (.error _, _, _) => none

namespace ThresholdAlarm

variable (newId : Nat → String) (store : RuleStore (StateM ρ)) (now : Timestamp)

/-- The resource has an alarm on a service that is switched on, and the alarm holds what a creation
would send now. -/
structure IsCurrent (resource : Resource) (memory : AlarmMemory) : Prop where
  type : resource.type = .threshold
  available : memory.unavailable = false
  alarm : ∃ id, resource.handle.alarmId? = some id ∧
    memory.alarms.get? id = some (createPayload resource.context)

/-- A creation that succeeds leaves an alarm that is current. -/
theorem isCurrent_of_create {resource created : Resource} {memory memory' : AlarmMemory}
    {rules rules' : ρ} (htype : resource.type = .threshold)
    (hcreate : resource.perform (.overMemory newId store) now .create (memory, rules) =
      (.ok (), created, memory', rules')) :
    IsCurrent created memory' := by
  obtain ⟨type, context, handle⟩ := resource
  obtain rfl : type = .threshold := htype
  rw [Resource.perform_eq] at hcreate
  simp only [LifecycleEvent.handle, on_create, Services.overMemory_create] at hcreate
  rcases memory.create_cases newId (createPayload context) with ⟨_, hstep⟩ | ⟨havailable, hstep⟩
  · simp [hstep] at hcreate
  · simp only [hstep, Services.overMemory_createRule] at hcreate
    rcases hrule : (store.create (watchRule context now)).on rules with ⟨_ | _, rules''⟩
    · simp [hrule] at hcreate
    · simp only [hrule, Prod.mk.injEq] at hcreate
      obtain ⟨-, rfl, rfl, -⟩ := hcreate
      refine ⟨rfl, havailable, newId memory.issued, rfl, ?_⟩
      simp

/-- An update of a current alarm succeeds, and the alarm is current once the properties follow. -/
theorem isCurrent_of_update {resource : Resource} {memory : AlarmMemory} (rules : ρ)
    {changes : Fields} (hcurrent : IsCurrent resource memory) (hchanges : IsRevision changes) :
    ∃ memory',
      resource.perform (.overMemory newId store) now (.update changes) (memory, rules) =
        (.ok (), resource, memory', rules) ∧
      IsCurrent { resource with context := resource.context.setProperties changes } memory' := by
  obtain ⟨type, context, handle⟩ := resource
  obtain ⟨htype, havailable, id, hid, hfields⟩ := hcurrent
  obtain rfl : type = .threshold := htype
  dsimp only at hid hfields ⊢
  rw [Resource.perform_eq, LifecycleEvent.on_update]
  dsimp only
  rw [hid]
  cases hempty : changes.isEmpty with
  | true =>
    refine ⟨memory, rfl, rfl, havailable, id, hid, ?_⟩
    rw [Context.setProperties, OrderedMap.overlay_of_isEmpty _ hempty]
    exact hfields
  | false =>
    rcases memory.update_cases id (changePayload context changes) with
      ⟨hdown, _⟩ | ⟨_, hnone, _⟩ | ⟨_, fields, hsome, hstep⟩
    · rw [havailable] at hdown
      cases hdown
    · rw [hfields] at hnone
      cases hnone
    · obtain rfl : createPayload context = fields := Option.some.inj (hfields.symm.trans hsome)
      refine ⟨(memory.update id (changePayload context changes)).2, ?_, rfl, ?_, id, hid, ?_⟩
      · simp only [Bool.false_eq_true, if_false, ResourceType.changePayload,
          Services.overMemory_update, hstep]
      · rw [hstep]
        exact havailable
      · rw [hstep, OrderedMap.get?_insert, if_pos rfl,
          createPayload_overlay_changePayload hchanges]

/-- All updates of a current alarm succeed and leave it current. -/
theorem isCurrent_of_revise? {revisions : List (Timestamp × Fields)}
    (hrevisions : ∀ revision ∈ revisions, IsRevision revision.2) {resource : Resource}
    {memory : AlarmMemory} (rules : ρ) (hcurrent : IsCurrent resource memory) :
    ∃ resource' memory',
      resource.revise? (.overMemory newId store) revisions (memory, rules) =
        some (resource', memory', rules) ∧
      IsCurrent resource' memory' := by
  induction revisions generalizing resource memory with
  | nil => exact ⟨resource, memory, rfl, hcurrent⟩
  | cons revision revisions ih =>
    obtain ⟨now, changes⟩ := revision
    have hchanges : IsRevision changes := hrevisions (now, changes) List.mem_cons_self
    obtain ⟨memory', hstep, hnext⟩ := isCurrent_of_update newId store now rules hcurrent hchanges
    rw [Resource.revise?, hstep]
    exact ih (fun later hlater ↦ hrevisions later (List.mem_cons_of_mem _ hlater)) hnext

/-- Patching the alarm step by step gives what a creation from the changed properties would send.
Every update of the run succeeds, since nothing switches the service off. -/
theorem alarm_fields_eq_createPayload {resource created : Resource}
    {memory memory' : AlarmMemory} {rules rules' : ρ} (htype : resource.type = .threshold)
    (hcreate : resource.perform (.overMemory newId store) now .create (memory, rules) =
      (.ok (), created, memory', rules'))
    {revisions : List (Timestamp × Fields)}
    (hrevisions : ∀ revision ∈ revisions, IsRevision revision.2) :
    ∃ revised memory'' id,
      created.revise? (.overMemory newId store) revisions (memory', rules') =
        some (revised, memory'', rules') ∧
      revised.handle.alarmId? = some id ∧
      memory''.alarms.get? id = some (createPayload revised.context) := by
  have hcurrent := isCurrent_of_create newId store now htype hcreate
  obtain ⟨revised, memory'', hrun, -, -, id, hid, hfields⟩ :=
    isCurrent_of_revise? newId store hrevisions rules' hcurrent
  exact ⟨revised, memory'', id, hrun, hid, hfields⟩

open PropertyName in
/-- An alarm on the processors of some servers that comes to watch the size of images. -/
theorem alarm_fields_eq_createPayload_of_new_meter :
    let newId (n : Nat) := String.ofList (List.replicate n 'a')
    let tier : Json := .ofFields (.ofList [("tier", .string "web")])
    let resource : Resource := ⟨.threshold, ⟨"OS::Ceilometer::Alarm", "own", "stack",
      .ofList [(meterName, .string "cpu_util"), ("threshold", .string "70"),
        (matchingMetadata, tier), ("alarm_actions", .array [.string "hook"])],
      .ofList [("hook", .ofList [("AlarmUrl", .string "http://hook")])]⟩, {}⟩
    let created := { resource with handle := .attached "" }
    let first := resource.perform (.inMemory newId) ⟨0, 0⟩ .create ({}, .empty)
    let revisions : List (Timestamp × Fields) :=
      [(⟨1, 0⟩, .ofList [("threshold", .string "90"), (enabled, .bool false)]),
        (⟨2, 0⟩, .ofList [(meterName, .string "image.size"), (matchingMetadata, tier)])]
    first = (.ok (), created, first.2.2) ∧
    (∀ revision ∈ revisions, IsRevision revision.2) ∧
    ∃ revised memory id,
      created.revise? (.inMemory newId) revisions first.2.2 = some (revised, memory, first.2.2.2) ∧
      revised.handle.alarmId? = some id ∧
      memory.alarms.get? id = some (createPayload revised.context) := by
  intro newId tier resource created first revisions
  have hcreate : first = (.ok (), created, first.2.2) := rfl
  have hrevisions : ∀ revision ∈ revisions, IsRevision revision.2 := by
    intro revision hrevision
    rcases List.mem_cons.1 hrevision with rfl | hrevision
    · exact ⟨by decide, by decide, by decide, by decide⟩
    · obtain rfl := List.mem_singleton.1 hrevision
      exact ⟨by decide, by decide, by decide, by decide⟩
  exact ⟨hcreate, hrevisions,
    alarm_fields_eq_createPayload newId RuleBook.store ⟨0, 0⟩ rfl hcreate hrevisions⟩

end ThresholdAlarm

end MeteringAlarms
