import MeteringAlarms.Json.Printer
import MeteringAlarms.Proofs.Adapter.Runs
import MeteringAlarms.Proofs.Payload.Combination
import MeteringAlarms.Proofs.Remote.Client

/-!
# Updates of combinations against creations

A combination that is created once over a service that keeps to the interface, and then updated step
by step, each update followed by the same change of the template's properties.  Beside the run goes
the context of the properties in force, which leaves out changes of the rule's fields to values that
are not truthy.  At every point the document is what a creation in that context would send, apart
from the empty rule that an alarm without a rule is created with.
-/

namespace MeteringAlarms

variable {ω ρ : Type}

namespace Moment

/-- The moment after an update whose changes are then made to the properties. -/
def revised (services : Services (StateM ω)) (now : Timestamp) (changes : Fields)
    (moment : Moment ω) : Moment ω :=
  let next := moment.after services now (.update changes)
  { next with
    resource :=
      { next.resource with context := next.resource.context.setProperties changes } }

/-- The moments after each of the given updates, each at its own time. -/
def revisions (services : Services (StateM ω)) :
    List (Timestamp × Fields) → Moment ω → List (Moment ω)
  | [], _ => []
  | (now, changes) :: later, moment =>
    let next := moment.revised services now changes
    next :: revisions services later next

end Moment

namespace CombinationAlarm

open AlarmDocument Payload

/-- The contexts of the properties in force after each of the given updates. -/
def contextsInForce : List (Timestamp × Fields) → Context → List Context
  | [], _ => []
  | (_, changes) :: later, context =>
    let next := context.setProperties (effective changes)
    next :: contextsInForce later next

/-- The alarm of a combination created in one context reflects the properties of another, which
are those of the resource except for values that the rule does not take. -/
structure Reflects (start inForce : Context) (moment : Moment (AlarmServer × ρ)) : Prop where
  succeeded : ∀ entry ∈ moment.history, entry.2 = .ok ()
  context : moment.resource.context =
    { inForce with properties := moment.resource.context.properties }
  properties : ∀ name,
    (name ∈ combinationFields →
      (moment.resource.context.properties.get? name).all Json.truthy = true) →
    inForce.properties.get? name = moment.resource.context.properties.get? name
  alarm : ∃ id document, moment.resource.handle.alarmId? = some id ∧
    moment.world.1.documents.get? id = some document ∧
    ((createPayload start).contains combinationRule = true ∨
        (createPayload inForce).contains combinationRule = false →
      document.erase Alarm.idField = ofFlat (createPayload inForce) true) ∧
    ((createPayload start).contains combinationRule = false →
      document.erase Alarm.idField =
        (ofFlat (createPayload inForce) true).insert thresholdRule (.ofFields .empty))

/-- While the resource has no value that the rule does not take, its own properties are in force. -/
theorem Reflects.inForce_eq {start inForce : Context} {moment : Moment (AlarmServer × ρ)}
    (h : Reflects start inForce moment)
    (htruthy : ∀ name ∈ combinationFields,
      (moment.resource.context.properties.get? name).all Json.truthy = true) :
    inForce = moment.resource.context := by
  have hproperties : inForce.properties = moment.resource.context.properties :=
    OrderedMap.ext_get? fun name ↦ h.properties name (htruthy name)
  rw [h.context, ← hproperties]

/-- What each update keeps. -/
structure IsCurrent (start inForce : Context) (moment : Moment (AlarmServer × ρ)) : Prop where
  succeeded : ∀ entry ∈ moment.history, entry.2 = .ok ()
  type : moment.resource.type = .combination
  context : moment.resource.context =
    { inForce with properties := moment.resource.context.properties }
  properties : ∀ name,
    (name ∈ combinationFields →
      (moment.resource.context.properties.get? name).all Json.truthy = true) →
    inForce.properties.get? name = moment.resource.context.properties.get? name
  available : moment.world.1.unavailable = false
  kept : (createPayload start).contains combinationRule = true →
    (createPayload inForce).contains combinationRule = true
  alarm : ∃ id, moment.resource.handle.alarmId? = some id ∧
    moment.world.1.documents.get? id =
      some ((document start inForce).insert Alarm.idField (.string id))

theorem get?_document_idField (start inForce : Context) :
    (document start inForce).get? Alarm.idField = none := by
  have hpayload : (createPayload inForce).get? Alarm.idField = none :=
    get?_createPayload_eq_none inForce (by decide) (by decide)
  rw [document]
  split
  · exact hpayload
  · rw [OrderedMap.get?_insert, if_neg (by decide), hpayload]

theorem IsCurrent.reflects {start inForce : Context} {moment : Moment (AlarmServer × ρ)}
    (h : IsCurrent start inForce moment) : Reflects start inForce moment := by
  obtain ⟨id, hid, hdocument⟩ := h.alarm
  have herase : ((document start inForce).insert Alarm.idField (.string id)).erase Alarm.idField =
      document start inForce :=
    OrderedMap.erase_insert_of_get?_eq_none (get?_document_idField start inForce) _
  exact ⟨h.succeeded, h.context, h.properties, id, _, hid, hdocument,
    fun hrule ↦ herase.trans (document_eq_ofFlat h.kept hrule),
    fun hnone ↦ herase.trans (document_eq_insert inForce hnone)⟩

/-- Setting the changes that take effect, beside all of them, keeps the truthy values in force. -/
theorem get?_overlay_effective {inForce own : Fields} (changes : Fields) {name : String}
    (h : (name ∈ combinationFields → (own.get? name).all Json.truthy = true) →
      inForce.get? name = own.get? name)
    (htruthy : name ∈ combinationFields →
      ((own.overlay changes).get? name).all Json.truthy = true) :
    (inForce.overlay (effective changes)).get? name = (own.overlay changes).get? name := by
  rw [OrderedMap.get?_overlay] at htruthy
  rw [OrderedMap.get?_overlay, OrderedMap.get?_overlay, get?_effective]
  cases hvalue : changes.get? name with
  | none =>
    rw [hvalue, Option.none_or] at htruthy
    rw [Option.filter_none, ite_self, Option.none_or, Option.none_or]
    exact h htruthy
  | some value =>
    rw [hvalue, Option.some_or] at htruthy
    by_cases hname : name ∈ combinationFields
    · have hkept : (some value).filter Json.truthy = some value := if_pos (htruthy hname)
      rw [if_pos hname, hkept, Option.some_or, Option.some_or]
    · rw [if_neg hname, Option.some_or, Option.some_or]

theorem setProperties_effective_of_isEmpty (context : Context) {changes : Fields}
    (h : changes.isEmpty = true) : context.setProperties (effective changes) = context := by
  have heffective : (effective changes).isEmpty = true := by
    rw [OrderedMap.isEmpty_iff]
    intro key
    rw [get?_effective, OrderedMap.isEmpty_iff.1 h key, Option.filter_none, ite_self]
  rw [Context.setProperties, OrderedMap.overlay_of_isEmpty _ heffective]

section Run

variable {remote : RemoteAlarms} (hsend : remote.CanSend) (write : Fields → String)
  (newId : Nat → String) (store : RuleStore (StateM ρ))
include hsend

/-- A creation that succeeds leaves an alarm that is current. -/
theorem isCurrent_of_create (now : Timestamp) {resource created : Resource}
    {server server' : AlarmServer} {rules rules' : ρ} (htype : resource.type = .combination)
    (hcreate : resource.perform (.join (remote.client write newId) store) now .create
      (server, rules) = (.ok (), created, server', rules'))
    (hreads : RemoteAlarms.ReadsAnswers write server') :
    IsCurrent resource.context resource.context ⟨[], created, server', rules'⟩ := by
  obtain ⟨type, context, handle⟩ := resource
  obtain rfl : type = .combination := htype
  have hcases := remote.create_cases write newId server hsend (createPayload context)
  rw [Resource.perform_eq] at hcreate
  simp only [LifecycleEvent.handle, on_create, Services.join_create] at hcreate
  rcases hstep : ((remote.client write newId).create (createPayload context)).on server with
    ⟨failure | alarm, next⟩
  · simp [hstep] at hcreate
  · rw [hstep] at hcases
    simp only [hstep, Prod.mk.injEq] at hcreate
    obtain ⟨-, rfl, rfl, -⟩ := hcreate
    rcases hcases hreads with ⟨_, hfailed⟩ | ⟨hup, document, hdocument, hmade⟩
    · cases hfailed
    · cases hmade
      refine ⟨List.forall_mem_nil _, rfl, rfl, fun _ _ ↦ rfl, hup, id, newId server.issued, rfl, ?_⟩
      rw [OrderedMap.get?_insert, if_pos rfl, hdocument, document_self]

/-- An update of a current alarm succeeds, and the alarm is current once the properties follow. -/
theorem IsCurrent.revised {start inForce : Context} {moment : Moment (AlarmServer × ρ)}
    (h : IsCurrent start inForce moment) (now : Timestamp) {changes : Fields}
    (hchanges : Schema.combination.Admits changes)
    (hreads : RemoteAlarms.ReadsAnswers write
      (moment.revised (.join (remote.client write newId) store) now changes).world.1) :
    IsCurrent start (inForce.setProperties (effective changes))
      (moment.revised (.join (remote.client write newId) store) now changes) := by
  obtain ⟨history, ⟨type, context, handle⟩, server, rules⟩ := moment
  obtain ⟨hsucceeded, htype, hcontext, hproperties, hup, hkept, id, hid, hdocument⟩ := h
  obtain rfl : type = .combination := htype
  dsimp only at hcontext hproperties hup hid hdocument
  have hnextContext : context.setProperties changes =
      { inForce.setProperties (effective changes) with
        properties := (context.setProperties changes).properties } :=
    congrArg (·.setProperties changes) hcontext
  have hnextProperties (name : String) :=
    get?_overlay_effective changes (hproperties name)
  have hnextKept (hstart : (createPayload start).contains combinationRule = true) :=
    contains_setProperties inForce hchanges (hkept hstart)
  have hnextSucceeded : ∀ entry ∈ (LifecycleEvent.update changes, .ok ()) :: history,
      entry.2 = .ok () := by
    intro entry hentry
    rcases List.mem_cons.1 hentry with rfl | hentry
    · rfl
    · exact hsucceeded entry hentry
  rw [Moment.revised, Moment.after, Resource.perform_eq, LifecycleEvent.on_update] at hreads ⊢
  dsimp only at hreads ⊢
  rw [hid] at hreads ⊢
  cases hempty : changes.isEmpty with
  | true =>
    refine ⟨hnextSucceeded, rfl, hnextContext, hnextProperties, hup, hnextKept, id, hid, ?_⟩
    rw [setProperties_effective_of_isEmpty inForce hempty]
    exact hdocument
  | false =>
    have hpayload : ResourceType.combination.changePayload context changes =
        changePayload inForce changes := by
      rw [hcontext]
      rfl
    rw [hempty] at hreads
    simp only [Bool.false_eq_true, if_false, hpayload, Services.join_update] at hreads ⊢
    have hstored (found : Fields) (hfound : server.documents.get? id = some found) :
        found.get? Alarm.idField = some (.string id) := by
      obtain rfl := Option.some.inj (hdocument.symm.trans hfound)
      rw [OrderedMap.get?_insert, if_pos rfl]
    rcases remote.update_cases write newId server hsend id (changePayload inForce changes) hstored
        hreads with ⟨hdown, _⟩ | ⟨_, hmissing, _⟩ | ⟨_, found, hfound, hstep⟩
    · rw [hup] at hdown
      cases hdown
    · rw [hdocument] at hmissing
      cases hmissing
    · obtain rfl := Option.some.inj (hdocument.symm.trans hfound)
      rw [hstep]
      refine ⟨hnextSucceeded, rfl, hnextContext, hnextProperties, hup, hnextKept, id, hid, ?_⟩
      rw [OrderedMap.get?_insert, if_pos rfl,
        OrderedMap.erase_insert_of_get?_eq_none (get?_document_idField start inForce),
        merge_document start hchanges, Alarm.ofList_members id (get?_document_idField _ _)]

/-- All updates of a current alarm succeed and leave it current. -/
theorem IsCurrent.revisions {start inForce : Context} {moment : Moment (AlarmServer × ρ)}
    (h : IsCurrent start inForce moment) {revisions : List (Timestamp × Fields)}
    (hrevisions : ∀ revision ∈ revisions, Schema.combination.Admits revision.2)
    (hreads : ∀ next ∈ moment.revisions (.join (remote.client write newId) store) revisions,
      RemoteAlarms.ReadsAnswers write next.world.1) :
    List.Forall₂ (Reflects start) (contextsInForce revisions inForce)
      (moment.revisions (.join (remote.client write newId) store) revisions) := by
  induction revisions generalizing moment inForce with
  | nil => exact .nil
  | cons revision later ih =>
    obtain ⟨now, changes⟩ := revision
    rw [Moment.revisions] at hreads ⊢
    have hnext := h.revised hsend write newId store now (hrevisions _ List.mem_cons_self)
      (hreads _ List.mem_cons_self)
    exact .cons hnext.reflects (ih hnext
      (fun revision hrevision ↦ hrevisions revision (List.mem_cons_of_mem _ hrevision))
      fun next hmem ↦ hreads next (List.mem_cons_of_mem _ hmem))

end Run

theorem eq_ok_of_isOk {α β γ ε : Type} {result : Except ε Unit × α × β × γ}
    (h : result.1.isOk = true) :
    result = (.ok (), result.2.1, result.2.2.1, result.2.2.2) := by
  obtain ⟨failure | ⟨⟩, state⟩ := result
  · cases h
  · rfl

/-- Over a service that keeps to the interface, a combination that was created is updated any number
of times, each time to values of the declared kinds that are then set as its properties.  After each
update, which succeeds, the document beside its id is what a creation with the properties in force
would send: those that the resource has, except that the rule keeps an entry that was changed to a
value which is not truthy.  An alarm that was created without a rule and got one since also keeps
the empty threshold rule that it was created with. -/
theorem document_reflects_properties {remote : RemoteAlarms} (hsend : remote.CanSend)
    (write : Fields → String) (newId : Nat → String) (store : RuleStore (StateM ρ))
    (now : Timestamp) {resource created : Resource} {server server' : AlarmServer}
    {rules rules' : ρ} (htype : resource.type = .combination)
    (hcreate : resource.perform (.join (remote.client write newId) store) now .create
      (server, rules) = (.ok (), created, server', rules'))
    {revisions : List (Timestamp × Fields)}
    (hrevisions : ∀ revision ∈ revisions, Schema.combination.Admits revision.2)
    (hreads : RemoteAlarms.ReadsAnswers write server' ∧
      ∀ moment ∈ Moment.revisions (.join (remote.client write newId) store) revisions
        ⟨[], created, server', rules'⟩, RemoteAlarms.ReadsAnswers write moment.world.1) :
    List.Forall₂ (Reflects resource.context) (contextsInForce revisions resource.context)
      (Moment.revisions (.join (remote.client write newId) store) revisions
        ⟨[], created, server', rules'⟩) :=
  (isCurrent_of_create hsend write newId store now htype hcreate hreads.1).revisions hsend write
    newId store hrevisions hreads.2

open PropertyName in
/-- A combination that gets another operator, and whose actions are to be called once only, which is
not sent. -/
theorem document_reflects_properties_of_new_operator :
    let remote : RemoteAlarms := ⟨"http://alarms", none⟩
    let newId (n : Nat) := String.ofList (List.replicate n 'a')
    let write (document : Fields) := (Json.ofFields document).compact
    let services := Services.join (remote.client write newId) RuleBook.store
    let resource : Resource := ⟨.combination, ⟨"OS::Ceilometer::CombinationAlarm", "own", "stack",
      .ofList [(alarmIds, .array [.string "x"])], .empty⟩, {}⟩
    let first := resource.perform services ⟨0, 0⟩ .create ({}, .empty)
    let revisions : List (Timestamp × Fields) :=
      [(⟨1, 0⟩, .ofList [(repeatActions, .bool false), (operator, .string "or")])]
    remote.CanSend ∧ first = (.ok (), first.2.1, first.2.2.1, first.2.2.2) ∧
    (∀ revision ∈ revisions, Schema.combination.Admits revision.2) ∧
    (RemoteAlarms.ReadsAnswers write first.2.2.1 ∧
      ∀ moment ∈ Moment.revisions services revisions ⟨[], first.2.1, first.2.2.1, first.2.2.2⟩,
        RemoteAlarms.ReadsAnswers write moment.world.1) ∧
    List.Forall₂ (Reflects resource.context) (contextsInForce revisions resource.context)
      (Moment.revisions services revisions ⟨[], first.2.1, first.2.2.1, first.2.2.2⟩) := by
  refine ⟨?send, ?create, ?revisions, ?reads, document_reflects_properties ?send _ _ _ ⟨0, 0⟩ rfl
    ?create ?revisions ?reads⟩
  case send => decide +kernel
  case create => exact eq_ok_of_isOk (by decide +kernel)
  case revisions => decide +kernel
  case reads => decide +kernel

open PropertyName in
/-- Neither an alarm whose actions are to be called once only after an update nor an alarm that gets
its rule from an update has the document of a creation. -/
theorem document_differs_from_createPayload :
    let remote : RemoteAlarms := ⟨"http://alarms", none⟩
    let newId (n : Nat) := String.ofList (List.replicate n 'a')
    let write (document : Fields) := (Json.ofFields document).compact
    let services := Services.join (remote.client write newId) RuleBook.store
    let revised (properties changes : Fields) : Moment (AlarmServer × RuleBook) :=
      (Moment.after services ⟨0, 0⟩ .create ⟨[], ⟨.combination,
        ⟨"OS::Ceilometer::CombinationAlarm", "own", "stack", properties, .empty⟩, {}⟩,
          {}, .empty⟩).revised services ⟨1, 0⟩ changes
    let document (moment : Moment (AlarmServer × RuleBook)) :=
      (moment.resource.handle.alarmId?.bind moment.world.1.documents.get?).map
        (·.erase Alarm.idField)
    let once : Fields := .ofList [(repeatActions, .bool false)]
    let filled : Fields := .ofList [(alarmIds, .array [.string "x"])]
    remote.CanSend ∧ Schema.combination.Admits once ∧ Schema.combination.Admits filled ∧
    RemoteAlarms.ReadsAnswers write (revised filled once).world.1 ∧
    RemoteAlarms.ReadsAnswers write (revised once filled).world.1 ∧
    (revised filled once).history.map (fun entry ↦ entry.2.isOk) = [true, true] ∧
    (revised once filled).history.map (fun entry ↦ entry.2.isOk) = [true, true] ∧
    document (revised filled once) ≠
      some (ofFlat (createPayload (revised filled once).resource.context) true) ∧
    document (revised once filled) ≠
      some (ofFlat (createPayload (revised once filled).resource.context) true) := by
  decide +kernel

end CombinationAlarm

end MeteringAlarms
