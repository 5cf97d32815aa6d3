import MeteringAlarms.Proofs.Payload.SentRules
import MeteringAlarms.Proofs.Remote.Agreement

/-!
# Combinations over the remote service and in memory

A run of a combination over the client of a service that keeps to the interface, and the same run
over the service in memory, go through the same outcomes and states.  What the rules of the alarm
come to is not the same, since the client merges a rule that is sent into that of the document, and
in memory it takes the place of the rule before.  The rules that were sent are a ghost beside the
runs, which their histories determine: the document has all of them gathered, and the fields in
memory have the latest.
-/

namespace MeteringAlarms

variable {ρ σ : Type}

namespace CombinationAlarm

open AlarmDocument Payload
open ThresholdAlarm (SameHistory)

/-- The rules that the alarm of a resource was sent, the latest first: those of the updates since it
was created and that of its creation, as far as they had one to send. -/
def sentRules (context : Context) : List (LifecycleEvent × Except Failure Unit) → List Fields
  | [] => []
  | (.create, .ok ()) :: _ => (sentRule? (properties context)).toList
  | (.update changes, .ok ()) :: earlier => (sentRule? changes).toList ++ sentRules context earlier
  | _ :: earlier => sentRules context earlier

/-- The server tracks the memory, and on both sides the alarm of a resource, if it has one, keeps
the rules that were sent. -/
def TracksRules (serverId memoryId : Nat → String) (context : Context) (sent : List Fields)
    (id? : Option String) (server : AlarmServer) (memory : AlarmMemory) : Prop :=
  ∃ Related, Tracks serverId memoryId Related server memory ∧
    ∀ n, id? = some (serverId n) → Related n = Keeps context sent

namespace TracksRules

variable {serverId memoryId : Nat → String} {remote : RemoteAlarms} {write : Fields → String}
  {context : Context} {sent : List Fields} {id? : Option String} {server : AlarmServer}
  {memory : AlarmMemory}

theorem setAvailable (h : TracksRules serverId memoryId context sent id? server memory)
    (available : Bool) :
    TracksRules serverId memoryId context sent id? (server.setAvailable available)
      (memory.setAvailable available) := by
  obtain ⟨Related, htracks, hcurrent⟩ := h
  exact ⟨Related, htracks.setAvailable available, hcurrent⟩

variable (hserver : Function.Injective serverId) (hmemory : Function.Injective memoryId)
  (hsend : remote.CanSend)
include hserver hmemory hsend

/-- Updating the alarm, where the rules that were sent depend on the outcome. -/
theorem update {n : Nat}
    (h : TracksRules serverId memoryId context sent (some (serverId n)) server memory)
    (sentAfter : Except Failure Unit → List Fields)
    (herror : ∀ failure, sentAfter (.error failure) = sent) {changes : Fields}
    (hfree : (ofFlat changes false).get? Alarm.idField = none)
    (hkeeps : ∀ document fields, Keeps context sent document fields →
      Keeps context (sentAfter (.ok ())) (merge document (ofFlat changes false))
        (fields.overlay changes))
    (hreads : RemoteAlarms.ReadsAnswers write
      (((remote.client write serverId).update (serverId n) changes).on server).2) :
    let left := ((remote.client write serverId).update (serverId n) changes).on server
    let right := memory.update (memoryId n) changes
    SameOutcome (fun _ _ ↦ True) left.1 right.1 ∧
      TracksRules serverId memoryId context (sentAfter left.1) (some (serverId n)) left.2
        right.2 := by
  intro left right
  obtain ⟨Related, htracks, hcurrent⟩ := h
  have hmerge (body fields : Fields) (hbody : body.get? Alarm.idField = none)
      (hrelated : Related n body fields) :
      (merge body (ofFlat changes false)).get? Alarm.idField = none ∧
        Keeps context (sentAfter (.ok ())) (merge body (ofFlat changes false))
          (fields.overlay changes) := by
    rw [hcurrent n rfl] at hrelated
    refine ⟨?_, hkeeps body fields hrelated⟩
    rw [get?_merge, hfree, hbody]
  have hupdated : Tracked serverId memoryId _ _ _ left right :=
    htracks.update hserver hmemory hsend n hmerge hreads
  clear_value left right
  cases hupdated with
  | error kind tracks =>
    rw [herror]
    exact ⟨.error kind, Related, tracks, hcurrent⟩
  | ok _ tracks =>
    refine ⟨.ok trivial, _, tracks, fun k hk ↦ ?_⟩
    obtain rfl : n = k := hserver (Option.some.inj hk)
    exact Function.update_self _ _ _

theorem delete (h : TracksRules serverId memoryId context sent id? server memory) (n : Nat) :
    let left := ((remote.client write serverId).delete (serverId n)).on server
    let right := memory.delete (memoryId n)
    SameOutcome (fun _ _ ↦ True) left.1 right.1 ∧
      TracksRules serverId memoryId context sent id? left.2 right.2 := by
  intro left right
  obtain ⟨Related, htracks, hcurrent⟩ := h
  have hremoved : Tracked serverId memoryId _ _ _ left right :=
    htracks.delete hserver hmemory hsend n
  clear_value left right
  cases hremoved with
  | error kind tracks => exact ⟨.error kind, Related, tracks, hcurrent⟩
  | ok _ tracks => exact ⟨.ok trivial, Related, tracks, hcurrent⟩

end TracksRules

/-- What a callback leaves on both sides: an outcome, a handle, and the state of the services, where
the alarm keeps the rules that went to it up to that outcome. -/
structure Simulates (serverId memoryId : Nat → String) (context : Context)
    (sent : Except Failure Unit → List Fields)
    (left : Except Failure Unit × Handle × AlarmServer × ρ)
    (right : Except Failure Unit × Handle × AlarmMemory × σ) : Prop where
  outcome : SameOutcome (fun _ _ ↦ True) left.1 right.1
  handle : left.2.1.Corresponds serverId memoryId right.2.1
  alarms : TracksRules serverId memoryId context (sent left.1) left.2.1.alarmId? left.2.2.1
    right.2.2.1

theorem Simulates.of_asksAlarms {serverId memoryId : Nat → String} {context : Context}
    {sent : List Fields} {handle : Handle} {rules : ρ} {rules' : σ}
    {left : Except Failure Unit × Handle × AlarmServer × ρ}
    {right : Except Failure Unit × Handle × AlarmMemory × σ}
    (h : Callback.AsksAlarms serverId memoryId
      (TracksRules serverId memoryId context sent handle.alarmId?) handle rules rules' left right) :
    Simulates serverId memoryId context (fun _ ↦ sent) left right := by
  refine ⟨h.outcome, h.handle, ?_⟩
  rw [h.alarmId]
  exact h.alarms

section Callbacks

variable {serverId memoryId : Nat → String} {remote : RemoteAlarms} {write : Fields → String}
  {context : Context} {handle handle' : Handle} {server : AlarmServer} {memory : AlarmMemory}
  {store : RuleStore (StateM ρ)} {store' : RuleStore (StateM σ)} {rules : ρ} {rules' : σ}
  {history : List (LifecycleEvent × Except Failure Unit)}

/-- A creation answers what the creation of its alarm answers. -/
theorem server_create (alarms : AlarmService (StateM AlarmServer)) :
    ((create (.join alarms store) context).on handle (server, rules)).2.2.1 =
      ((alarms.create (createPayload context)).on server).2 := by
  rw [on_create, Services.join_create]
  rcases (alarms.create (createPayload context)).on server with ⟨_ | _, _⟩ <;> rfl

variable (hserver : Function.Injective serverId) (hmemory : Function.Injective memoryId)
  (hsend : remote.CanSend)
  (hhandle : handle.Corresponds serverId memoryId handle')
  (halarms : TracksRules serverId memoryId context (sentRules context history) handle.alarmId?
    server memory)
include hserver hmemory hsend hhandle halarms

theorem simulates_create
    (hreads : RemoteAlarms.ReadsAnswers write
      ((create (.join (remote.client write serverId) store) context).on
        handle (server, rules)).2.2.1) :
    Simulates serverId memoryId context
      (fun outcome ↦ sentRules context ((.create, outcome) :: history))
      ((create (.join (remote.client write serverId) store) context).on handle (server, rules))
      ((create (.overMemory memoryId store') context).on handle' (memory, rules')) := by
  obtain ⟨Related, htracks, hcurrent⟩ := halarms
  have hkeeps := keeps_createPayload context
  have hid : (ofFlat (createPayload context) true).get? Alarm.idField = none := by
    rw [hkeeps.others _ (by decide) (by decide),
      get?_createPayload_eq_none context (by decide) (by decide)]
  rw [server_create] at hreads
  rw [on_create, on_create, Services.join_create, Services.overMemory_create]
  have hcreated := htracks.create hserver hmemory hsend hid hkeeps hreads
  generalize ((remote.client write serverId).create (createPayload context)).on server = left
    at hcreated ⊢
  generalize memory.create memoryId (createPayload context) = right at hcreated ⊢
  cases hcreated with
  | error kind tracks => exact ⟨.error kind, hhandle, Related, tracks, hcurrent⟩
  | @ok alarm alarm' server' memory' agree tracks =>
    obtain ⟨hid, hid'⟩ := agree
    dsimp only
    rw [hid, hid']
    refine ⟨.ok trivial, .attached _, _, tracks, fun n hn ↦ ?_⟩
    obtain rfl : server.issued = n := hserver (Option.some.inj hn)
    exact Function.update_self _ _ _

theorem simulates_update {changes : Fields} (hchanges : IsDiff changes) (now now' : Timestamp)
    (hreads : RemoteAlarms.ReadsAnswers write
      (((LifecycleEvent.update changes).handle .combination
        (.join (remote.client write serverId) store) context now).on
          handle (server, rules)).2.2.1) :
    Simulates serverId memoryId context
      (fun outcome ↦ sentRules context ((.update changes, outcome) :: history))
      (((LifecycleEvent.update changes).handle .combination
        (.join (remote.client write serverId) store) context now).on handle (server, rules))
      (((LifecycleEvent.update changes).handle .combination
        (.overMemory memoryId store') context now').on handle' (memory, rules')) := by
  have hpayload : ResourceType.combination.changePayload context changes =
      changePayload context changes := rfl
  have hfree : (ofFlat (changePayload context changes) false).get? Alarm.idField = none := by
    rw [ofFlat_changePayload context hchanges.declared,
      get?_changePayload_eq_none context hchanges.declared (by decide) (by decide)]
  rw [LifecycleEvent.on_update] at hreads ⊢
  rw [LifecycleEvent.on_update]
  cases hempty : changes.isEmpty with
  | true =>
    refine ⟨.ok trivial, hhandle, ?_⟩
    rw [if_pos rfl, sentRules, sentRule?_of_isEmpty hempty]
    exact halarms
  | false =>
    rw [hempty] at hreads
    rcases hhandle.alarmId_cases with ⟨hid, hid'⟩ | ⟨n, hid, hid'⟩
    · rw [hid, hid']
      exact ⟨.error rfl, hhandle, halarms⟩
    · rw [hid] at hreads halarms ⊢
      rw [hid']
      obtain ⟨houtcome, hupdated⟩ := halarms.update hserver hmemory hsend
        (fun outcome ↦ sentRules context ((.update changes, outcome) :: history)) (fun _ ↦ rfl)
        hfree (fun _ _ hkeeps ↦ hkeeps.update hchanges) hreads
      rw [← hid] at hupdated
      exact ⟨houtcome, hhandle, hupdated⟩

theorem simulates_switch (enabled : Bool) (state : LifecycleState)
    (hreads : RemoteAlarms.ReadsAnswers write
      ((Callback.switch (Services.join (remote.client write serverId) store).alarms enabled
        state).on handle (server, rules)).2.2.1) :
    Simulates serverId memoryId context (fun _ ↦ sentRules context history)
      ((Callback.switch (Services.join (remote.client write serverId) store).alarms enabled
        state).on handle (server, rules))
      ((Callback.switch (Services.overMemory memoryId store').alarms enabled state).on
        handle' (memory, rules')) := by
  have hfree : (ofFlat (.ofList [(PropertyName.enabled, .bool enabled)]) false).get?
      Alarm.idField = none := by
    rw [ofFlat_enabled, OrderedMap.get?_ofList_singleton, if_neg (by decide)]
  refine .of_asksAlarms (Callback.asksAlarms_switch _ _ _ _ hhandle halarms enabled state
    fun n hid ↦ ?_)
  rw [Callback.alarms_switch enabled state hid] at hreads
  rw [hid] at halarms ⊢
  exact halarms.update hserver hmemory hsend (fun _ ↦ sentRules context history) (fun _ ↦ rfl)
    hfree (fun _ _ hkeeps ↦ hkeeps.switch _) hreads

theorem simulates_delete :
    Simulates serverId memoryId context (fun _ ↦ sentRules context history)
      ((delete (.join (remote.client write serverId) store)).on handle (server, rules))
      ((delete (.overMemory memoryId store')).on handle' (memory, rules')) :=
  .of_asksAlarms (Callback.asksAlarms_delete _ _ _ _ hhandle halarms
    fun n _ ↦ halarms.delete hserver hmemory hsend n)

variable (store' rules') in
/-- Every callback, where updates bring differences that a stack may hand to the alarm. -/
theorem simulates_handle (event : LifecycleEvent)
    (hevent : ∀ changes, event = .update changes → IsDiff changes) (now now' : Timestamp)
    (hreads : RemoteAlarms.ReadsAnswers write
      ((event.handle .combination (.join (remote.client write serverId) store) context now).on
        handle (server, rules)).2.2.1) :
    Simulates serverId memoryId context
      (fun outcome ↦ sentRules context ((event, outcome) :: history))
      ((event.handle .combination (.join (remote.client write serverId) store) context now).on
        handle (server, rules))
      ((event.handle .combination (.overMemory memoryId store') context now').on
        handle' (memory, rules')) := by
  cases event with
  | create => exact simulates_create hserver hmemory hsend hhandle halarms hreads
  | update changes =>
    exact simulates_update hserver hmemory hsend hhandle halarms (hevent changes rfl) now now'
      hreads
  | suspend => exact simulates_switch hserver hmemory hsend hhandle halarms false _ hreads
  | resume => exact simulates_switch hserver hmemory hsend hhandle halarms true _ hreads
  | delete => exact simulates_delete hserver hmemory hsend hhandle halarms

end Callbacks

/-- What the alarm on both sides shows of the rules that were sent, the latest first.  The document
has them gathered and the fields in memory have the latest, so they have the same rule just when the
latest leaves out no field of those before.  The document of a creation without a rule has an empty
rule on a meter besides, which the fields in memory never have, and that is all they differ in. -/
structure ShowsRules (context : Context) (sent : List Fields) (document fields : Fields) :
    Prop where
  merged : document.get? combinationRule =
    if sent.isEmpty then none else some (.ofFields (gathered sent))
  latest : fields.get? combinationRule = sent.head?.map .ofFields
  same_iff : document.get? combinationRule = fields.get? combinationRule ↔
    ∀ latest earlier, sent = latest :: earlier → ∀ other ∈ earlier, ∀ name,
      (other.get? name).isSome → (latest.get? name).isSome
  empty : document.get? thresholdRule =
    if (sentRule? (properties context)).isSome then none else some (.ofFields .empty)
  unruled : fields.get? thresholdRule = none
  others : ∀ key, key ≠ combinationRule → key ≠ thresholdRule → key ≠ Alarm.idField →
    document.get? key = fields.get? key

theorem Keeps.showsRules {context : Context} {sent : List Fields} {id : String}
    {document fields : Fields} (h : IsDocument id (Keeps context sent) document fields) :
    ShowsRules context sent document fields := by
  have hbody (key : String) (hkey : key ≠ Alarm.idField) :
      (document.erase Alarm.idField).get? key = document.get? key := by
    rw [OrderedMap.get?_erase, if_neg hkey]
  have hrule := hbody combinationRule (by decide)
  have hmeter := hbody thresholdRule (by decide)
  refine ⟨hrule.symm.trans h.body.merged, h.body.latest, ?_, hmeter.symm.trans h.body.empty,
    h.body.unruled, fun key hkey hthreshold hid ↦ ?_⟩
  · rw [← hrule]
    exact h.body.same_iff
  · rw [← hbody key hid]
    exact h.body.others key hkey hthreshold

/-- What the two runs have in common after a step: the callbacks so far with the kinds of their
outcomes, the state of the resource and the alarm that it has, and what that alarm shows of the
rules that were sent, if it is there. -/
structure Agrees (serverId memoryId : Nat → String) (context : Context)
    (left : Moment (AlarmServer × ρ)) (right : Moment (AlarmMemory × σ)) : Prop where
  history : SameHistory left.history right.history
  handle : left.resource.handle.Corresponds serverId memoryId right.resource.handle
  alarm : ∀ id id', left.resource.handle.alarmId? = some id →
    right.resource.handle.alarmId? = some id' →
    Option.Rel (ShowsRules context (sentRules context left.history))
      (left.world.1.documents.get? id) (right.world.1.alarms.get? id')

/-- What the two runs keep, from which the next step agrees. -/
structure Coupled (serverId memoryId : Nat → String) (context : Context)
    (left : Moment (AlarmServer × ρ)) (right : Moment (AlarmMemory × σ)) : Prop where
  history : SameHistory left.history right.history
  resource : left.resource = ⟨.combination, context, left.resource.handle⟩
  resource' : right.resource = ⟨.combination, context, right.resource.handle⟩
  handle : left.resource.handle.Corresponds serverId memoryId right.resource.handle
  alarms : TracksRules serverId memoryId context (sentRules context left.history)
    left.resource.handle.alarmId? left.world.1 right.world.1

section Runs

variable {serverId memoryId : Nat → String} {remote : RemoteAlarms} {write : Fields → String}
  {context : Context} {left : Moment (AlarmServer × ρ)} {right : Moment (AlarmMemory × σ)}
  {store : RuleStore (StateM ρ)} {store' : RuleStore (StateM σ)}

theorem Coupled.agrees (h : Coupled serverId memoryId context left right) :
    Agrees serverId memoryId context left right := by
  refine ⟨h.history, h.handle, fun id id' hid hid' ↦ ?_⟩
  obtain ⟨Related, htracks, hcurrent⟩ := h.alarms
  rcases h.handle.alarmId_cases with ⟨hnone, -⟩ | ⟨n, hn, hn'⟩
  · rw [hid] at hnone
    cases hnone
  · obtain rfl : id = serverId n := Option.some.inj (hid.symm.trans hn)
    obtain rfl : id' = memoryId n := Option.some.inj (hid'.symm.trans hn')
    have halarm := htracks.alarms n
    rw [hcurrent n hid] at halarm
    generalize left.world.1.documents.get? (serverId n) = document? at halarm ⊢
    generalize right.world.1.alarms.get? (memoryId n) = fields? at halarm ⊢
    cases halarm with
    | none => exact .none
    | some hdocument => exact .some (Keeps.showsRules hdocument)

variable (hserver : Function.Injective serverId) (hmemory : Function.Injective memoryId)
  (hsend : remote.CanSend)
include hserver hmemory hsend

variable (store') in
/-- One step of both runs, each at a time of its own. -/
theorem Coupled.take (h : Coupled serverId memoryId context left right) (step : Step)
    (hstep : ∀ changes, step = .callback (.update changes) → IsDiff changes)
    (now now' : Timestamp)
    (hreads : RemoteAlarms.ReadsAnswers write
      (step.take (.join (remote.client write serverId) store)
        (fun available world ↦ (world.1.setAvailable available, world.2)) now left).world.1) :
    Coupled serverId memoryId context
      (step.take (.join (remote.client write serverId) store)
        (fun available world ↦ (world.1.setAvailable available, world.2)) now left)
      (step.take (.overMemory memoryId store')
        (fun available world ↦ (world.1.setAvailable available, world.2)) now' right) := by
  cases step with
  | switch available =>
    exact ⟨h.history, h.resource, h.resource', h.handle, h.alarms.setAvailable available⟩
  | callback event =>
    obtain ⟨history, resource, server, rules⟩ := left
    obtain ⟨history', resource', memory, rules'⟩ := right
    obtain ⟨hhistory, hresource, hresource', hhandle, halarms⟩ := h
    dsimp only at hresource hresource' hhandle halarms
    rw [hresource] at hreads ⊢
    rw [hresource']
    have hnext := simulates_handle store' rules' hserver hmemory hsend hhandle halarms event
      (fun changes hevent ↦ hstep changes (congrArg Step.callback hevent)) now now' hreads
    exact ⟨.cons ⟨rfl, hnext.outcome⟩ hhistory, rfl, rfl, hnext.handle, hnext.alarms⟩

theorem Coupled.trace (steps : List Step)
    (hsteps : ∀ changes, .callback (.update changes) ∈ steps → IsDiff changes)
    (clock clock' : Nat → Timestamp) (h : Coupled serverId memoryId context left right)
    (hreads : ∀ moment ∈ Step.trace (.join (remote.client write serverId) store)
      (fun available world ↦ (world.1.setAvailable available, world.2)) clock steps left,
      RemoteAlarms.ReadsAnswers write moment.world.1) :
    List.Forall₂ (Agrees serverId memoryId context)
      (Step.trace (.join (remote.client write serverId) store)
        (fun available world ↦ (world.1.setAvailable available, world.2)) clock steps left)
      (Step.trace (.overMemory memoryId store')
        (fun available world ↦ (world.1.setAvailable available, world.2)) clock' steps right) := by
  have hdiffs : ∀ step ∈ steps, ∀ changes, step = .callback (.update changes) → IsDiff changes :=
    fun step hstep changes heq ↦ hsteps changes (heq ▸ hstep)
  refine Step.forall₂_trace h hdiffs hreads (fun _ _ ↦ Coupled.agrees) ?_
  intro step left right now now' hstep hcoupled hnext
  exact hcoupled.take store' hserver hmemory hsend step hstep now now' hnext

end Runs

/-- The moments of a new combination over a service that keeps to the interface and has no alarms
yet. -/
def serverRun (remote : RemoteAlarms) (write : Fields → String) (serverId : Nat → String)
    (store : RuleStore (StateM ρ)) (context : Context) (rules : ρ) (clock : Nat → Timestamp)
    (steps : List Step) : List (Moment (AlarmServer × ρ)) :=
  Step.trace (.join (remote.client write serverId) store)
    (fun available world ↦ (world.1.setAvailable available, world.2)) clock steps
    { resource := { type := .combination, context }, world := ({}, rules) }

/-- The moments of a new combination over the service in memory. -/
def memoryRun (memoryId : Nat → String) (store : RuleStore (StateM σ)) (context : Context)
    (rules : σ) (clock : Nat → Timestamp) (steps : List Step) :
    List (Moment (AlarmMemory × σ)) :=
  Step.trace (.overMemory memoryId store)
    (fun available world ↦ (world.1.setAvailable available, world.2)) clock steps
    { resource := { type := .combination, context }, world := ({}, rules) }

/-- Callbacks of a combination, at any times and with the service switched off and on between them,
have outcomes of the same kind and leave the resource in the same state after every step over a
service that keeps to the interface and over the service in memory, provided that the documents
which that service answers are read as they are.  Both sides have the alarm or neither has, and both
or neither have a rule: the server of each field the latest value that was sent since the creation,
the memory the latest rule that was sent.  Nothing else differs but that the document of a creation
without a rule has an empty rule on a meter. -/
theorem remote_gathers_rules {remote : RemoteAlarms} (hsend : remote.CanSend)
    {serverId memoryId : Nat → String} (hserver : Function.Injective serverId)
    (hmemory : Function.Injective memoryId) (write : Fields → String)
    (store : RuleStore (StateM ρ)) (store' : RuleStore (StateM σ)) (context : Context) (rules : ρ)
    (rules' : σ) {steps : List Step}
    (hsteps : ∀ changes, .callback (.update changes) ∈ steps → IsDiff changes)
    (serverClock memoryClock : Nat → Timestamp)
    (hreads : ∀ moment ∈ serverRun remote write serverId store context rules serverClock steps,
      RemoteAlarms.ReadsAnswers write moment.world.1) :
    List.Forall₂ (Agrees serverId memoryId context)
      (serverRun remote write serverId store context rules serverClock steps)
      (memoryRun memoryId store' context rules' memoryClock steps) := by
  have htracks : Tracks serverId memoryId (fun _ ↦ Keeps context []) {} {} := by
    refine ⟨rfl, rfl, fun n ↦ .none, fun id hid ↦ ?_, fun id hid ↦ ?_⟩
    · cases hid
    · cases hid
  have hstart : Coupled serverId memoryId context
      { resource := { type := .combination, context }, world := ({}, rules) }
      { resource := { type := .combination, context }, world := ({}, rules') } :=
    ⟨.nil, rfl, rfl, ⟨rfl, none, rfl, rfl⟩, _, htracks, fun n hn ↦ rfl⟩
  exact hstart.trace hserver hmemory hsend steps hsteps serverClock memoryClock hreads

open PropertyName in
/-- A new combination that gets another operator and is suspended while the service is away. -/
theorem remote_gathers_rules_of_new_operator :
    let remote : RemoteAlarms := ⟨"http://alarms", none⟩
    let newId (n : Nat) := String.ofList (List.replicate n 'a')
    let write (document : Fields) := (Json.ofFields document).compact
    let context : Context := ⟨"OS::Ceilometer::CombinationAlarm", "own", "stack",
      .ofList [(alarmIds, .array [.string "x"])], .empty⟩
    let steps : List Step := [.callback .create,
      .callback (.update (.ofList [(operator, .string "or"), (description, .null)])),
      .switch false, .callback .suspend]
    let clock (n : Nat) : Timestamp := ⟨n, 0⟩
    remote.CanSend ∧
    (∀ changes, .callback (.update changes) ∈ steps → IsDiff changes) ∧
    (∀ moment ∈ serverRun remote write newId RuleBook.store context .empty clock steps,
      RemoteAlarms.ReadsAnswers write moment.world.1) ∧
    List.Forall₂ (Agrees newId newId context)
      (serverRun remote write newId RuleBook.store context .empty clock steps)
      (memoryRun newId RuleBook.store context .empty clock steps) := by
  intro remote newId write context steps clock
  have hsend : remote.CanSend := by
    unfold RemoteAlarms.CanSend
    decide +kernel
  have hsteps : ∀ changes, .callback (.update changes) ∈ steps → IsDiff changes := by
    intro changes hchanges
    obtain rfl : changes = .ofList [(operator, .string "or"), (description, .null)] := by
      simpa [steps] using hchanges
    exact ⟨by decide, by decide⟩
  have hreads : ∀ moment ∈ serverRun remote write newId RuleBook.store context .empty clock steps,
      RemoteAlarms.ReadsAnswers write moment.world.1 := by
    unfold RemoteAlarms.ReadsAnswers
    decide +kernel
  have hinjective : Function.Injective newId := injective_ofList_replicate 'a'
  exact ⟨hsend, hsteps, hreads, remote_gathers_rules hsend hinjective hinjective write
    RuleBook.store RuleBook.store context .empty .empty hsteps clock clock hreads⟩

open PropertyName in
/-- When only the operator changes, the server keeps the other fields of the rule and the memory
does not. -/
theorem rules_differ_of_new_operator :
    let remote : RemoteAlarms := ⟨"http://alarms", none⟩
    let newId (n : Nat) := String.ofList (List.replicate n 'a')
    let write (document : Fields) := (Json.ofFields document).compact
    let context : Context := ⟨"OS::Ceilometer::CombinationAlarm", "own", "stack",
      .ofList [(alarmIds, .array [.string "a"]), (operator, .string "and")], .empty⟩
    let changes : Fields := .ofList [(operator, .string "or")]
    let steps : List Step := [.callback .create, .callback (.update changes)]
    let clock (n : Nat) : Timestamp := ⟨n, 0⟩
    let onServer := serverRun remote write newId RuleBook.store context .empty clock steps
    let inMemory := memoryRun newId RuleBook.store context .empty clock steps
    let serverRule := (onServer.getLast?.bind (·.world.1.documents.get? (newId 0))).bind
      (·.get? combinationRule)
    let memoryRule := (inMemory.getLast?.bind (·.world.1.alarms.get? (newId 0))).bind
      (·.get? combinationRule)
    remote.CanSend ∧ IsDiff changes ∧
    (∀ moment ∈ onServer, RemoteAlarms.ReadsAnswers write moment.world.1) ∧
    serverRule = some (.ofFields (.ofList
      [(alarmIds, .array [.string "a"]), (operator, .string "or"), (repeatActions, .bool true)])) ∧
    memoryRule = some (.ofFields (.ofList [(operator, .string "or")])) ∧
    serverRule ≠ memoryRule := by
  intro remote newId write context changes steps clock onServer inMemory serverRule memoryRule
  have hserver : serverRule = some (.ofFields (.ofList
      [(alarmIds, .array [.string "a"]), (operator, .string "or"),
        (repeatActions, .bool true)])) := by
    decide +kernel
  have hmemory : memoryRule = some (.ofFields (.ofList [(operator, .string "or")])) := by
    decide +kernel
  refine ⟨by decide +kernel, ⟨by decide, by decide⟩, by decide +kernel, hserver, hmemory, ?_⟩
  rw [hserver, hmemory]
  decide

end CombinationAlarm

end MeteringAlarms
