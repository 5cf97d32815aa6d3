import MeteringAlarms.Json.Printer
import MeteringAlarms.Proofs.Payload.Nested
import MeteringAlarms.Proofs.Remote.Handles
import MeteringAlarms.Proofs.Rule.Undated

/-!
# Agreement of the remote service with the service in memory

A run of an alarm on one meter over the client of a service that keeps to the interface, and the
same run over the service in memory, agree after every step.  What carries the induction is that the
server mirrors the memory, that the handles name corresponding alarms, and that the rules are the
same up to their times; each callback keeps this and ends with outcomes of the same kind.
-/

namespace MeteringAlarms

/-- The services of a deployment with remote alarms and with rules in memory. -/
abbrev Services.overServer (remote : RemoteAlarms) (write : Fields → String)
    (newId : Nat → String) : Services (StateM (AlarmServer × RuleBook)) :=
  join (remote.client write newId) RuleBook.store

namespace ThresholdAlarm

/-- What a callback leaves on both sides: an outcome, a handle, and the state of the services. -/
structure Simulates (serverId memoryId : Nat → String)
    (left : Except Failure Unit × Handle × AlarmServer × RuleBook)
    (right : Except Failure Unit × Handle × AlarmMemory × RuleBook) : Prop where
  outcome : SameOutcome (fun _ _ ↦ True) left.1 right.1
  handle : left.2.1.Corresponds serverId memoryId right.2.1
  alarms : Mirrors serverId memoryId IsBody left.2.2.1 right.2.2.1
  rules : left.2.2.2.SameUpToTimes right.2.2.2

theorem Simulates.of_asksAlarms {serverId memoryId : Nat → String} {handle : Handle}
    {rules rules' : RuleBook} {left : Except Failure Unit × Handle × AlarmServer × RuleBook}
    {right : Except Failure Unit × Handle × AlarmMemory × RuleBook}
    (h : Callback.AsksAlarms serverId memoryId (Mirrors serverId memoryId IsBody) handle rules
      rules' left right) (hrules : rules.SameUpToTimes rules') :
    Simulates serverId memoryId left right := by
  refine ⟨h.outcome, h.handle, h.alarms, ?_⟩
  rw [h.rules, h.rules']
  exact hrules

theorem undated_watchRule (context : Context) (now now' : Timestamp) :
    (watchRule context now).undated = (watchRule context now').undated := rfl

section Callbacks

variable {serverId memoryId : Nat → String} {remote : RemoteAlarms} {write : Fields → String}
  {context : Context} {handle handle' : Handle} {server : AlarmServer} {memory : AlarmMemory}
  {rules rules' : RuleBook}

/-- A creation answers what the creation of its alarm answers: taking the alarm back answers no
document. -/
theorem answered_create (hsend : remote.CanSend) (now : Timestamp) :
    ((create (.overServer remote write serverId) context now).on handle
        (server, rules)).2.2.1.answered =
      (((remote.client write serverId).create (createPayload context)).on server).2.answered := by
  rw [on_create, Services.join_create]
  rcases ((remote.client write serverId).create (createPayload context)).on server with
    ⟨failure | alarm, server'⟩
  · rfl
  · dsimp only
    rw [Services.join_createRule]
    rcases (RuleBook.store.create (watchRule context now)).on rules with ⟨failure | _, rules'⟩
    · exact remote.answered_delete write serverId server' hsend alarm.id
    · rfl

variable (hserver : Function.Injective serverId) (hmemory : Function.Injective memoryId)
  (hsend : remote.CanSend)
  (hhandle : handle.Corresponds serverId memoryId handle')
  (halarms : Mirrors serverId memoryId IsBody server memory)
  (hrules : rules.SameUpToTimes rules')
include hserver hmemory hsend hhandle halarms hrules

theorem simulates_create (now now' : Timestamp)
    (hreads : RemoteAlarms.ReadsAnswers write
      ((create (.overServer remote write serverId) context now).on handle (server, rules)).2.2.1) :
    Simulates serverId memoryId
      ((create (.overServer remote write serverId) context now).on handle (server, rules))
      ((create (.inMemory memoryId) context now').on handle' (memory, rules')) := by
  rw [RemoteAlarms.ReadsAnswers, answered_create hsend] at hreads
  obtain ⟨halarm, hcreated⟩ :=
    halarms.create hserver hmemory hsend mergeLaw (isBody_createPayload context) hreads
  obtain ⟨hregistered, hbooks⟩ := hrules.create (undated_watchRule context now now')
  have hcreate (rule : WatchRule) (book : RuleBook) :
      (RuleBook.store.create rule).on book = RuleBook.create rule book := rfl
  rw [on_create, on_create, Services.join_create, Services.overMemory_create]
  generalize ((remote.client write serverId).create (createPayload context)).on server = left
    at halarm hcreated ⊢
  generalize memory.create memoryId (createPayload context) = right at halarm hcreated ⊢
  obtain ⟨left, server'⟩ := left
  obtain ⟨right, memory'⟩ := right
  cases halarm with
  | error kind => exact ⟨.error kind, hhandle, hcreated, hrules⟩
  | @ok alarm alarm' related =>
    obtain ⟨n, hid, hid'⟩ : ∃ n, alarm.id = serverId n ∧ alarm'.id = memoryId n := ⟨_, related⟩
    dsimp only at hcreated ⊢
    rw [Services.join_createRule, Services.overMemory_createRule, hcreate, hcreate]
    generalize RuleBook.create (watchRule context now) rules = left at hregistered hbooks ⊢
    generalize RuleBook.create (watchRule context now') rules' = right at hregistered hbooks ⊢
    obtain ⟨left, book⟩ := left
    obtain ⟨right, book'⟩ := right
    cases hregistered with
    | ok _ =>
      dsimp only
      rw [hid, hid']
      exact ⟨.ok trivial, .attached n, hcreated, hbooks⟩
    | error kind =>
      dsimp only
      rw [Services.join_delete, Services.overMemory_delete, hid, hid']
      obtain ⟨-, hremoved⟩ := hcreated.delete hserver hmemory hsend mergeLaw n
      exact ⟨.error kind, hhandle, hremoved, hbooks⟩

theorem simulates_update {changes : Fields} (hchanges : IsDiff changes) (now now' : Timestamp)
    (hreads : RemoteAlarms.ReadsAnswers write
      (((LifecycleEvent.update changes).handle .threshold (.overServer remote write serverId)
        context now).on handle (server, rules)).2.2.1) :
    Simulates serverId memoryId
      (((LifecycleEvent.update changes).handle .threshold (.overServer remote write serverId)
        context now).on handle (server, rules))
      (((LifecycleEvent.update changes).handle .threshold (.inMemory memoryId)
        context now').on handle' (memory, rules')) := by
  rw [LifecycleEvent.on_update] at hreads ⊢
  rw [LifecycleEvent.on_update]
  cases hempty : changes.isEmpty with
  | true => exact ⟨.ok trivial, hhandle, halarms, hrules⟩
  | false =>
    rw [hempty] at hreads
    rcases hhandle.alarmId_cases with ⟨hid, hid'⟩ | ⟨n, hid, hid'⟩
    · rw [hid, hid']
      exact ⟨.error rfl, hhandle, halarms, hrules⟩
    · rw [hid] at hreads ⊢
      rw [hid']
      obtain ⟨houtcome, hupdated⟩ := halarms.update hserver hmemory hsend mergeLaw n
        (isBodyChange_changePayload context hchanges) hreads
      exact ⟨houtcome, hhandle, hupdated, hrules⟩

theorem simulates_switch (enabled : Bool) (state : LifecycleState)
    (hreads : RemoteAlarms.ReadsAnswers write
      ((Callback.switch (Services.overServer remote write serverId).alarms enabled state).on
        handle (server, rules)).2.2.1) :
    Simulates serverId memoryId
      ((Callback.switch (Services.overServer remote write serverId).alarms enabled state).on
        handle (server, rules))
      ((Callback.switch (Services.inMemory memoryId).alarms enabled state).on
        handle' (memory, rules')) := by
  refine .of_asksAlarms (Callback.asksAlarms_switch _ _ _ _ hhandle halarms enabled state
    fun n hid ↦ ?_) hrules
  rw [Callback.alarms_switch enabled state hid] at hreads
  exact halarms.update hserver hmemory hsend mergeLaw n (isBodyChange_enabled enabled) hreads

/-- The removal of the alarm, once its rule is gone. -/
theorem simulates_removal :
    Simulates serverId memoryId
      ((CombinationAlarm.delete (.overServer remote write serverId)).on handle (server, rules))
      ((CombinationAlarm.delete (.inMemory memoryId)).on handle' (memory, rules')) :=
  .of_asksAlarms (Callback.asksAlarms_delete _ _ _ _ hhandle halarms
    fun n _ ↦ halarms.delete hserver hmemory hsend mergeLaw n) hrules

theorem simulates_delete :
    Simulates serverId memoryId
      ((delete (.overServer remote write serverId) context).on handle (server, rules))
      ((delete (.inMemory memoryId) context).on handle' (memory, rules')) := by
  obtain ⟨houtcome, hbooks⟩ := hrules.removeRule context.physicalName
  have hignored := houtcome.ignoreMissing
  rw [on_delete, on_delete, Services.join_removeRule, Services.overMemory_removeRule]
  dsimp only
  generalize ignoreMissing ((removeRule RuleBook.store context.physicalName).on rules).1 = left
    at hignored ⊢
  generalize ignoreMissing ((removeRule RuleBook.store context.physicalName).on rules').1 = right
    at hignored ⊢
  cases hignored with
  | ok _ => exact simulates_removal hserver hmemory hsend hhandle halarms hbooks
  | error kind => exact ⟨.error kind, hhandle, halarms, hbooks⟩

/-- Every callback, where updates bring differences that a stack may hand to the alarm. -/
theorem simulates_handle (event : LifecycleEvent)
    (hevent : ∀ changes, event = .update changes → IsDiff changes) (now now' : Timestamp)
    (hreads : RemoteAlarms.ReadsAnswers write
      ((event.handle .threshold (.overServer remote write serverId) context now).on
        handle (server, rules)).2.2.1) :
    Simulates serverId memoryId
      ((event.handle .threshold (.overServer remote write serverId) context now).on
        handle (server, rules))
      ((event.handle .threshold (.inMemory memoryId) context now').on
        handle' (memory, rules')) := by
  cases event with
  | create => exact simulates_create hserver hmemory hsend hhandle halarms hrules now now' hreads
  | update changes =>
    exact simulates_update hserver hmemory hsend hhandle halarms hrules (hevent changes rfl) now
      now' hreads
  | suspend => exact simulates_switch hserver hmemory hsend hhandle halarms hrules false _ hreads
  | resume => exact simulates_switch hserver hmemory hsend hhandle halarms hrules true _ hreads
  | delete => exact simulates_delete hserver hmemory hsend hhandle halarms hrules

end Callbacks

/-- The same callbacks, with outcomes of the same kind. -/
def SameHistory (left right : List (LifecycleEvent × Except Failure Unit)) : Prop :=
  List.Forall₂ (fun left right ↦ left.1 = right.1 ∧ SameOutcome (fun _ _ ↦ True) left.2 right.2)
    left right

/-- What the two runs have in common after a step: the callbacks so far, the state of the resource
and the alarm that it has, the rules up to their times, and the alarms, whose documents are the
nested forms of the fields in memory, apart from the id. -/
structure Agrees (serverId memoryId : Nat → String) (left : Moment (AlarmServer × RuleBook))
    (right : Moment (AlarmMemory × RuleBook)) : Prop where
  history : SameHistory left.history right.history
  handle : left.resource.handle.Corresponds serverId memoryId right.resource.handle
  rules : left.world.2.SameUpToTimes right.world.2
  documents : ∀ n, (left.world.1.documents.get? (serverId n)).map (·.erase Alarm.idField) =
    (right.world.1.alarms.get? (memoryId n)).map (AlarmDocument.ofFlat · true)
  serverIds : ∀ id, (left.world.1.documents.get? id).isSome → ∃ n, serverId n = id
  memoryIds : ∀ id, (right.world.1.alarms.get? id).isSome → ∃ n, memoryId n = id

/-- What the two runs keep, from which the next step agrees. -/
structure Coupled (serverId memoryId : Nat → String) (context : Context)
    (left : Moment (AlarmServer × RuleBook)) (right : Moment (AlarmMemory × RuleBook)) : Prop where
  history : SameHistory left.history right.history
  resource : left.resource = ⟨.threshold, context, left.resource.handle⟩
  resource' : right.resource = ⟨.threshold, context, right.resource.handle⟩
  handle : left.resource.handle.Corresponds serverId memoryId right.resource.handle
  alarms : Mirrors serverId memoryId IsBody left.world.1 right.world.1
  rules : left.world.2.SameUpToTimes right.world.2

section Runs

variable {serverId memoryId : Nat → String} {remote : RemoteAlarms} {write : Fields → String}
  {context : Context} {left : Moment (AlarmServer × RuleBook)}
  {right : Moment (AlarmMemory × RuleBook)}

theorem Coupled.agrees (h : Coupled serverId memoryId context left right) :
    Agrees serverId memoryId left right where
  history := h.history
  handle := h.handle
  rules := h.rules
  documents n := by
    rw [h.alarms.documents, Option.map_map]
    cases hfields : right.world.1.alarms.get? (memoryId n) with
    | none => rfl
    | some fields =>
      exact congrArg some (mergeLaw.erase_stored _ (h.alarms.stored n fields hfields))
  serverIds id hid := by
    obtain ⟨n, _, hn⟩ := h.alarms.serverIds id hid
    exact ⟨n, hn⟩
  memoryIds id hid := by
    obtain ⟨n, _, hn⟩ := h.alarms.memoryIds id hid
    exact ⟨n, hn⟩

variable (hserver : Function.Injective serverId) (hmemory : Function.Injective memoryId)
  (hsend : remote.CanSend)
include hserver hmemory hsend

/-- One step of both runs, each at a time of its own. -/
theorem Coupled.take (h : Coupled serverId memoryId context left right) (step : Step)
    (hstep : ∀ changes, step = .callback (.update changes) → IsDiff changes)
    (now now' : Timestamp)
    (hreads : RemoteAlarms.ReadsAnswers write
      (step.take (.overServer remote write serverId)
        (fun available world ↦ (world.1.setAvailable available, world.2)) now left).world.1) :
    Coupled serverId memoryId context
      (step.take (.overServer remote write serverId)
        (fun available world ↦ (world.1.setAvailable available, world.2)) now left)
      (step.take (.inMemory memoryId)
        (fun available world ↦ (world.1.setAvailable available, world.2)) now' right) := by
  cases step with
  | switch available =>
    exact ⟨h.history, h.resource, h.resource', h.handle, h.alarms.setAvailable available, h.rules⟩
  | callback event =>
    obtain ⟨history, resource, server, rules⟩ := left
    obtain ⟨history', resource', memory, rules'⟩ := right
    obtain ⟨hhistory, hresource, hresource', hhandle, halarms, hrules⟩ := h
    dsimp only at hresource hresource' hhandle halarms hrules
    rw [hresource] at hreads ⊢
    rw [hresource']
    have hnext := simulates_handle hserver hmemory hsend hhandle halarms hrules event
      (fun changes hevent ↦ hstep changes (congrArg Step.callback hevent)) now now' hreads
    exact ⟨.cons ⟨rfl, hnext.outcome⟩ hhistory, rfl, rfl, hnext.handle, hnext.alarms, hnext.rules⟩

theorem Coupled.trace (steps : List Step)
    (hsteps : ∀ changes, .callback (.update changes) ∈ steps → IsDiff changes)
    (clock clock' : Nat → Timestamp) (h : Coupled serverId memoryId context left right)
    (hreads : ∀ moment ∈ Step.trace (.overServer remote write serverId)
      (fun available world ↦ (world.1.setAvailable available, world.2)) clock steps left,
      RemoteAlarms.ReadsAnswers write moment.world.1) :
    List.Forall₂ (Agrees serverId memoryId)
      (Step.trace (.overServer remote write serverId)
        (fun available world ↦ (world.1.setAvailable available, world.2)) clock steps left)
      (Step.trace (.inMemory memoryId)
        (fun available world ↦ (world.1.setAvailable available, world.2)) clock' steps right) := by
  have hdiffs : ∀ step ∈ steps, ∀ changes, step = .callback (.update changes) → IsDiff changes :=
    fun step hstep changes heq ↦ hsteps changes (heq ▸ hstep)
  refine Step.forall₂_trace h hdiffs hreads (fun _ _ ↦ Coupled.agrees) ?_
  intro step left right now now' hstep hcoupled hnext
  exact hcoupled.take hserver hmemory hsend step hstep now now' hnext

end Runs

/-- The moments of a new alarm over a service that keeps to the interface and has no alarms yet. -/
def serverRun (remote : RemoteAlarms) (write : Fields → String) (serverId : Nat → String)
    (context : Context) (rules : RuleBook) (clock : Nat → Timestamp) (steps : List Step) :
    List (Moment (AlarmServer × RuleBook)) :=
  Step.trace (.overServer remote write serverId)
    (fun available world ↦ (world.1.setAvailable available, world.2)) clock steps
    { resource := { type := .threshold, context }, world := ({}, rules) }

/-- The moments of a new alarm over the service in memory. -/
def memoryRun (memoryId : Nat → String) (context : Context) (rules : RuleBook)
    (clock : Nat → Timestamp) (steps : List Step) : List (Moment (AlarmMemory × RuleBook)) :=
  Step.trace (.inMemory memoryId)
    (fun available world ↦ (world.1.setAvailable available, world.2)) clock steps
    { resource := { type := .threshold, context }, world := ({}, rules) }

/-- Callbacks of an alarm on one meter, at any times and with the service switched off and on
between them, agree after every step over a service that keeps to the interface and over the service
in memory, provided that the documents which that service answers are read as they are. -/
theorem remote_agrees_with_memory {remote : RemoteAlarms} (hsend : remote.CanSend)
    {serverId memoryId : Nat → String} (hserver : Function.Injective serverId)
    (hmemory : Function.Injective memoryId) (write : Fields → String) (context : Context)
    (rules : RuleBook) {steps : List Step}
    (hsteps : ∀ changes, .callback (.update changes) ∈ steps → IsDiff changes)
    (serverClock memoryClock : Nat → Timestamp)
    (hreads : ∀ moment ∈ serverRun remote write serverId context rules serverClock steps,
      RemoteAlarms.ReadsAnswers write moment.world.1) :
    List.Forall₂ (Agrees serverId memoryId)
      (serverRun remote write serverId context rules serverClock steps)
      (memoryRun memoryId context rules memoryClock steps) := by
  have halarms : Mirrors serverId memoryId IsBody {} {} := by
    refine ⟨rfl, rfl, fun n ↦ rfl, fun n fields hfields ↦ ?_, fun id hid ↦ ?_, fun id hid ↦ ?_⟩
    · cases hfields
    · cases hid
    · cases hid
  have hstart : Coupled serverId memoryId context
      { resource := { type := .threshold, context }, world := ({}, rules) }
      { resource := { type := .threshold, context }, world := ({}, rules) } :=
    ⟨.nil, rfl, rfl, ⟨rfl, none, rfl, rfl⟩, halarms, fun _ ↦ rfl⟩
  exact hstart.trace hserver hmemory hsend steps hsteps serverClock memoryClock hreads

open PropertyName in
/-- A new alarm whose threshold changes, and whose suspension fails since the service is away. -/
theorem remote_agrees_with_memory_of_new_threshold :
    let remote : RemoteAlarms := ⟨"http://alarms", none⟩
    let newId (n : Nat) := String.ofList (List.replicate n 'a')
    let write (document : Fields) := (Json.ofFields document).compact
    let context : Context := ⟨"OS::Ceilometer::Alarm", "own", "stack",
      .ofList [("threshold", .string "70")], .empty⟩
    let steps : List Step := [.callback .create,
      .callback (.update (.ofList [("threshold", .string "90"), (description, .null)])),
      .switch false, .callback .suspend]
    let clock (n : Nat) : Timestamp := ⟨n, 0⟩
    let clock' (n : Nat) : Timestamp := ⟨n, 1⟩
    remote.CanSend ∧
    (∀ changes, .callback (.update changes) ∈ steps → IsDiff changes) ∧
    (∀ moment ∈ serverRun remote write newId context .empty clock steps,
      RemoteAlarms.ReadsAnswers write moment.world.1) ∧
    List.Forall₂ (Agrees newId newId) (serverRun remote write newId context .empty clock steps)
      (memoryRun newId context .empty clock' steps) := by
  intro remote newId write context steps clock clock'
  have hsend : remote.CanSend := by
    unfold RemoteAlarms.CanSend
    decide +kernel
  have hsteps : ∀ changes, .callback (.update changes) ∈ steps → IsDiff changes := by
    intro changes hchanges
    obtain rfl : changes = .ofList [("threshold", .string "90"), (description, .null)] := by
      simpa [steps] using hchanges
    exact ⟨by decide, by decide⟩
  have hreads : ∀ moment ∈ serverRun remote write newId context .empty clock steps,
      RemoteAlarms.ReadsAnswers write moment.world.1 := by
    unfold RemoteAlarms.ReadsAnswers
    decide +kernel
  have hinjective : Function.Injective newId := injective_ofList_replicate 'a'
  exact ⟨hsend, hsteps, hreads, remote_agrees_with_memory hsend hinjective hinjective write context
    .empty hsteps clock clock' hreads⟩

end ThresholdAlarm

end MeteringAlarms
