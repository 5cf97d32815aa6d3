import Mathlib.Data.Option.Basic
import Mathlib.Logic.Function.Basic
import MeteringAlarms.Proofs.Alarm.Memory
import MeteringAlarms.Proofs.Outcome
import MeteringAlarms.Proofs.Remote.Client

/-!
# A server beside the service in memory

A server tracks the alarm service in memory when both handed out as many ids, are available or not
together, and the `n`-th document is related to the fields of the `n`-th alarm.  How they are
related is open, and may differ from one alarm to the next.  Each operation of the client, beside
the same operation in memory, ends with an outcome of the same kind and changes how one alarm is
related at most.
-/

namespace MeteringAlarms

/-- All keys are among the ids that were handed out. -/
def IssuedFrom {α : Type} (newId : Nat → String) (issued : Nat) (map : OrderedMap α) : Prop :=
  ∀ id, (map.get? id).isSome → ∃ n < issued, newId n = id

namespace IssuedFrom

variable {α : Type} {newId : Nat → String} {issued : Nat} {map : OrderedMap α}

theorem insert_next (h : IssuedFrom newId issued map) (value : α) :
    IssuedFrom newId (issued + 1) (map.insert (newId issued) value) := by
  intro id hid
  rw [OrderedMap.get?_insert] at hid
  split at hid
  · rename_i heq
    exact ⟨issued, Nat.lt_succ_self _, heq.symm⟩
  · obtain ⟨n, hn, hid⟩ := h id hid
    exact ⟨n, Nat.lt_succ_of_lt hn, hid⟩

theorem insert (h : IssuedFrom newId issued map) {key : String} (hkey : (map.get? key).isSome)
    (value : α) : IssuedFrom newId issued (map.insert key value) := by
  intro id hid
  rw [OrderedMap.get?_insert] at hid
  split at hid
  · rename_i heq
    exact heq ▸ h key hkey
  · exact h id hid

theorem erase (h : IssuedFrom newId issued map) (key : String) :
    IssuedFrom newId issued (map.erase key) := by
  intro id hid
  rw [OrderedMap.get?_erase] at hid
  split at hid
  · cases hid
  · exact h id hid

end IssuedFrom

open AlarmDocument

/-- The document has the id, and the rest of it is related to the fields. -/
structure IsDocument (id : String) (Related : Fields → Fields → Prop) (document fields : Fields) :
    Prop where
  id : document.get? Alarm.idField = some (.string id)
  body : Related (document.erase Alarm.idField) fields

theorem IsDocument.insert {id : String} {Related : Fields → Fields → Prop} {body fields : Fields}
    (hid : body.get? Alarm.idField = none) (hbody : Related body fields) :
    IsDocument id Related (body.insert Alarm.idField (.string id)) fields := by
  refine ⟨?_, ?_⟩
  · rw [OrderedMap.get?_insert, if_pos rfl]
  · rwa [OrderedMap.erase_insert_of_get?_eq_none hid]

/-- The documents of the server are related to the alarms in memory. -/
structure Tracks (serverId memoryId : Nat → String) (Related : Nat → Fields → Fields → Prop)
    (server : AlarmServer) (memory : AlarmMemory) : Prop where
  unavailable : server.unavailable = memory.unavailable
  issued : server.issued = memory.issued
  alarms : ∀ n, Option.Rel (IsDocument (serverId n) (Related n))
    (server.documents.get? (serverId n)) (memory.alarms.get? (memoryId n))
  serverIds : IssuedFrom serverId server.issued server.documents
  memoryIds : IssuedFrom memoryId memory.issued memory.alarms

/-- Results of an operation on both sides, which `Failed` or `Passed` relates depending on how it
went. -/
inductive Tracked (serverId memoryId : Nat → String) {α β : Type} (Agree : α → β → Prop)
    (Failed Passed : Nat → Fields → Fields → Prop) :
    Except Failure α × AlarmServer → Except Failure β × AlarmMemory → Prop
  | error {left right : Failure} {server : AlarmServer} {memory : AlarmMemory}
      (kind : left.ctorIdx = right.ctorIdx)
      (tracks : Tracks serverId memoryId Failed server memory) :
      Tracked serverId memoryId Agree Failed Passed (.error left, server) (.error right, memory)
  | ok {left : α} {right : β} {server : AlarmServer} {memory : AlarmMemory}
      (agree : Agree left right) (tracks : Tracks serverId memoryId Passed server memory) :
      Tracked serverId memoryId Agree Failed Passed (.ok left, server) (.ok right, memory)

namespace Tracks

variable {serverId memoryId : Nat → String} {Related : Nat → Fields → Fields → Prop}
  {server : AlarmServer} {memory : AlarmMemory} {remote : RemoteAlarms} {write : Fields → String}

theorem setAvailable (h : Tracks serverId memoryId Related server memory) (available : Bool) :
    Tracks serverId memoryId Related (server.setAvailable available)
      (memory.setAvailable available) :=
  ⟨rfl, h.issued, h.alarms, h.serverIds, h.memoryIds⟩

/-- A call that changes no alarm. -/
theorem record (h : Tracks serverId memoryId Related server memory) (call : AlarmCall)
    (answered : List Fields) :
    Tracks serverId memoryId Related { server with answered } (memory.record call) :=
  ⟨h.unavailable, h.issued, h.alarms, h.serverIds, h.memoryIds⟩

/-- Corresponding alarms are out of reach on both sides, or missing, or there. -/
theorem alarm_cases (h : Tracks serverId memoryId Related server memory) (n : Nat) :
    server.unavailable = true ∧ memory.unavailable = true ∨
    (server.unavailable = false ∧ server.documents.get? (serverId n) = none) ∧
      memory.unavailable = false ∧ memory.alarms.get? (memoryId n) = none ∨
    ∃ document fields, IsDocument (serverId n) (Related n) document fields ∧
      (server.unavailable = false ∧ server.documents.get? (serverId n) = some document) ∧
      memory.unavailable = false ∧ memory.alarms.get? (memoryId n) = some fields := by
  have hunavailable := h.unavailable
  have halarm := h.alarms n
  cases hdown : memory.unavailable with
  | true => exact Or.inl ⟨hunavailable.trans hdown, rfl⟩
  | false =>
    rw [hdown] at hunavailable
    refine Or.inr ?_
    generalize server.documents.get? (serverId n) = document? at halarm ⊢
    generalize memory.alarms.get? (memoryId n) = fields? at halarm ⊢
    cases halarm with
    | none => exact Or.inl ⟨⟨hunavailable, rfl⟩, rfl, rfl⟩
    | some hdocument => exact Or.inr ⟨_, _, hdocument, ⟨hunavailable, rfl⟩, rfl, rfl⟩

variable (hserver : Function.Injective serverId) (hmemory : Function.Injective memoryId)
  (hsend : remote.CanSend)
include hserver hmemory

/-- The document of one alarm is replaced along with its fields, or those of a new one are added. -/
theorem alarms_insert (h : Tracks serverId memoryId Related server memory) (n : Nat)
    {Inserted : Fields → Fields → Prop} {document fields : Fields}
    (hdocument : IsDocument (serverId n) Inserted document fields) (k : Nat) :
    Option.Rel (IsDocument (serverId k) (Function.update Related n Inserted k))
      ((server.documents.insert (serverId n) document).get? (serverId k))
      ((memory.alarms.insert (memoryId n) fields).get? (memoryId k)) := by
  rw [OrderedMap.get?_insert, OrderedMap.get?_insert]
  by_cases hk : k = n
  · subst hk
    rw [if_pos rfl, if_pos rfl, Function.update_self]
    exact .some hdocument
  · rw [if_neg fun heq ↦ hk (hserver heq), if_neg fun heq ↦ hk (hmemory heq),
      Function.update_of_ne hk]
    exact h.alarms k

theorem alarms_erase (h : Tracks serverId memoryId Related server memory) (n k : Nat) :
    Option.Rel (IsDocument (serverId k) (Related k))
      ((server.documents.erase (serverId n)).get? (serverId k))
      ((memory.alarms.erase (memoryId n)).get? (memoryId k)) := by
  rw [OrderedMap.get?_erase, OrderedMap.get?_erase]
  by_cases hk : k = n
  · rw [hk, if_pos rfl, if_pos rfl]
    exact .none
  · rw [if_neg fun heq ↦ hk (hserver heq), if_neg fun heq ↦ hk (hmemory heq)]
    exact h.alarms k

include hsend

/-- Creating an alarm hands out corresponding ids. -/
theorem create (h : Tracks serverId memoryId Related server memory) {payload : Fields}
    {Created : Fields → Fields → Prop} (hid : (ofFlat payload true).get? Alarm.idField = none)
    (hcreated : Created (ofFlat payload true) payload)
    (hreads : RemoteAlarms.ReadsAnswers write
      (((remote.client write serverId).create payload).on server).2) :
    Tracked serverId memoryId
      (fun left right ↦ left.id = serverId server.issued ∧ right.id = memoryId server.issued)
      Related (Function.update Related server.issued Created)
      (((remote.client write serverId).create payload).on server)
      (memory.create memoryId payload) := by
  rcases remote.create_cases write serverId server hsend payload hreads with
    ⟨hdown, hstep⟩ | ⟨hup, document, hdocument, hstep⟩
  · rcases memory.create_cases memoryId payload with ⟨_, hstep'⟩ | ⟨hup', _⟩
    · rw [hstep, hstep']
      exact .error rfl h
    · rw [h.unavailable, hup'] at hdown
      cases hdown
  · rcases memory.create_cases memoryId payload with ⟨hdown', _⟩ | ⟨_, hstep'⟩
    · rw [h.unavailable, hdown'] at hup
      cases hup
    · rw [hstep, hstep', hdocument, ← h.issued]
      have hinserted := h.alarms_insert hserver hmemory server.issued (.insert hid hcreated)
      refine .ok ⟨rfl, rfl⟩ ⟨h.unavailable, rfl, hinserted, h.serverIds.insert_next _, ?_⟩
      have hnext := h.memoryIds.insert_next payload
      rwa [← h.issued] at hnext

/-- Updating corresponding alarms. -/
theorem update (h : Tracks serverId memoryId Related server memory) (n : Nat) {changes : Fields}
    {Updated : Fields → Fields → Prop}
    (hmerge : ∀ body fields, body.get? Alarm.idField = none → Related n body fields →
      (merge body (ofFlat changes false)).get? Alarm.idField = none ∧
        Updated (merge body (ofFlat changes false)) (fields.overlay changes))
    (hreads : RemoteAlarms.ReadsAnswers write
      (((remote.client write serverId).update (serverId n) changes).on server).2) :
    Tracked serverId memoryId (fun _ _ ↦ True) Related (Function.update Related n Updated)
      (((remote.client write serverId).update (serverId n) changes).on server)
      (memory.update (memoryId n) changes) := by
  have hid (document : Fields) (hsome : server.documents.get? (serverId n) = some document) :
      document.get? Alarm.idField = some (.string (serverId n)) := by
    have halarm := h.alarms n
    rw [hsome] at halarm
    generalize memory.alarms.get? (memoryId n) = fields? at halarm
    cases halarm with
    | some hdocument => exact hdocument.id
  have hleft := remote.update_cases write serverId server hsend (serverId n) changes hid hreads
  have hright := memory.update_cases (memoryId n) changes
  rcases h.alarm_cases n with ⟨hdown, hdown'⟩ | ⟨⟨hup, hnone⟩, hup', hnone'⟩ |
    ⟨document, fields, hdocument, ⟨hup, hsome⟩, hup', hsome'⟩
  · obtain ⟨-, hstep⟩ := hleft.resolve_right (by simp [hdown])
    obtain ⟨-, hstep'⟩ := hright.resolve_right (by simp [hdown'])
    rw [hstep, hstep']
    exact .error rfl h
  · obtain ⟨-, -, hstep⟩ := (hleft.resolve_left (by simp [hup])).resolve_right (by simp [hnone])
    obtain ⟨-, -, hstep'⟩ := (hright.resolve_left (by simp [hup'])).resolve_right (by simp [hnone'])
    rw [hstep, hstep']
    exact .error rfl (h.record _ _)
  · obtain ⟨-, document', hdocument', hstep⟩ :=
      (hleft.resolve_left (by simp [hup])).resolve_left (by simp [hsome])
    obtain ⟨-, fields', hfields', hstep'⟩ :=
      (hright.resolve_left (by simp [hup'])).resolve_left (by simp [hsome'])
    obtain rfl := Option.some.inj (hsome.symm.trans hdocument')
    obtain rfl := Option.some.inj (hsome'.symm.trans hfields')
    have herased : (document.erase Alarm.idField).get? Alarm.idField = none := by
      rw [OrderedMap.get?_erase, if_pos rfl]
    obtain ⟨hfree, hupdated⟩ := hmerge _ fields herased hdocument.body
    rw [hstep, hstep', Alarm.ofList_members _ hfree]
    have hinserted := h.alarms_insert hserver hmemory n (.insert hfree hupdated)
    refine .ok trivial ⟨h.unavailable, h.issued, hinserted, h.serverIds.insert ?_ _,
      h.memoryIds.insert ?_ _⟩
    · rw [hsome, Option.isSome_some]
    · rw [hsome', Option.isSome_some]

/-- Removing corresponding alarms. -/
theorem delete (h : Tracks serverId memoryId Related server memory) (n : Nat) :
    Tracked serverId memoryId (fun _ _ ↦ True) Related Related
      (((remote.client write serverId).delete (serverId n)).on server)
      (memory.delete (memoryId n)) := by
  have hleft := remote.delete_cases write serverId server hsend (serverId n)
  have hright := memory.delete_cases (memoryId n)
  rcases h.alarm_cases n with ⟨hdown, hdown'⟩ | ⟨⟨hup, hnone⟩, hup', hnone'⟩ |
    ⟨document, fields, hdocument, ⟨hup, hsome⟩, hup', hsome'⟩
  · obtain ⟨-, hstep⟩ := hleft.resolve_right (by simp [hdown])
    obtain ⟨-, hstep'⟩ := hright.resolve_right (by simp [hdown'])
    rw [hstep, hstep']
    exact .error rfl h
  · obtain ⟨-, -, hstep⟩ := (hleft.resolve_left (by simp [hup])).resolve_right (by simp [hnone])
    obtain ⟨-, -, hstep'⟩ := (hright.resolve_left (by simp [hup'])).resolve_right (by simp [hnone'])
    rw [hstep, hstep']
    exact .error rfl (h.record _ _)
  · obtain ⟨-, -, hstep⟩ := (hleft.resolve_left (by simp [hup])).resolve_left (by simp [hsome])
    obtain ⟨-, -, hstep'⟩ :=
      (hright.resolve_left (by simp [hup'])).resolve_left (by simp [hsome'])
    rw [hstep, hstep']
    exact .ok trivial ⟨h.unavailable, h.issued, h.alarms_erase hserver hmemory n,
      h.serverIds.erase _, h.memoryIds.erase _⟩

end Tracks

end MeteringAlarms
