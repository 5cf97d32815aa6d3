import MeteringAlarms.Proofs.Remote.Tracking

/-!
# The remote service and the service in memory

A server mirrors the alarm service in memory when it tracks it and the `n`-th document is the nested
form of the fields of the `n`-th alarm.  Each operation of the client keeps this beside the same
operation in memory, with outcomes of the same kind, provided that merging changes into documents
commutes with nesting, which `MergeLaw` asks for the fields that are stored and the changes that are
made.
-/

namespace MeteringAlarms

namespace AlarmDocument

/-- Changes can be merged into nested documents, and the documents stay of their kind. -/
structure MergeLaw (Stored Changes : Fields → Prop) : Prop where
  commutes {flat changes : Fields} : Stored flat → Changes changes →
    merge (ofFlat flat true) (ofFlat changes false) = ofFlat (flat.overlay changes) true
  overlay {flat changes : Fields} : Stored flat → Changes changes → Stored (flat.overlay changes)
  withoutId {flat : Fields} : Stored flat → (ofFlat flat true).get? Alarm.idField = none

/-- The body is the nested form of the stored fields. -/
def IsNested (Stored : Fields → Prop) (body fields : Fields) : Prop :=
  Stored fields ∧ body = ofFlat fields true

/-- The document of a flat body under an id. -/
def stored (id : String) (flat : Fields) : Fields :=
  (ofFlat flat true).insert Alarm.idField (.string id)

variable {Stored Changes : Fields → Prop} (law : MergeLaw Stored Changes)
include law

theorem MergeLaw.erase_stored (id : String) {flat : Fields} (hflat : Stored flat) :
    (stored id flat).erase Alarm.idField = ofFlat flat true :=
  OrderedMap.erase_insert_of_get?_eq_none (law.withoutId hflat) _

/-- The documents of stored fields are known by their id and what else is in them. -/
theorem MergeLaw.isDocument_iff {id : String} {document fields : Fields} :
    IsDocument id (IsNested Stored) document fields ↔
      Stored fields ∧ document = stored id fields := by
  constructor
  · rintro ⟨hid, hfields, hbody⟩
    refine ⟨hfields, ?_⟩
    rw [stored, ← hbody, OrderedMap.insert_erase_of_get?_eq_some hid]
  · rintro ⟨hfields, rfl⟩
    exact .insert (law.withoutId hfields) ⟨hfields, rfl⟩

end AlarmDocument

open AlarmDocument

/-- The documents of the server are those of the alarms in memory. -/
structure Mirrors (serverId memoryId : Nat → String) (Stored : Fields → Prop)
    (server : AlarmServer) (memory : AlarmMemory) : Prop where
  unavailable : server.unavailable = memory.unavailable
  issued : server.issued = memory.issued
  documents : ∀ n, server.documents.get? (serverId n) =
    (memory.alarms.get? (memoryId n)).map (stored (serverId n))
  stored : ∀ n fields, memory.alarms.get? (memoryId n) = some fields → Stored fields
  serverIds : IssuedFrom serverId server.issued server.documents
  memoryIds : IssuedFrom memoryId memory.issued memory.alarms

namespace Mirrors

variable {serverId memoryId : Nat → String} {Stored Changes : Fields → Prop}
  {server : AlarmServer} {memory : AlarmMemory} {remote : RemoteAlarms} {write : Fields → String}

theorem setAvailable (h : Mirrors serverId memoryId Stored server memory) (available : Bool) :
    Mirrors serverId memoryId Stored (server.setAvailable available)
      (memory.setAvailable available) :=
  ⟨rfl, h.issued, h.documents, h.stored, h.serverIds, h.memoryIds⟩

variable (hserver : Function.Injective serverId) (hmemory : Function.Injective memoryId)
  (hsend : remote.CanSend) (law : MergeLaw Stored Changes)
include law

theorem iff_tracks :
    Mirrors serverId memoryId Stored server memory ↔
      Tracks serverId memoryId (fun _ ↦ IsNested Stored) server memory := by
  constructor
  · intro h
    refine ⟨h.unavailable, h.issued, fun n ↦ ?_, h.serverIds, h.memoryIds⟩
    rw [h.documents n]
    cases hfields : memory.alarms.get? (memoryId n) with
    | none => exact .none
    | some fields => exact .some (law.isDocument_iff.2 ⟨h.stored n fields hfields, rfl⟩)
  · intro h
    refine ⟨h.unavailable, h.issued, fun n ↦ ?_, fun n fields hfields ↦ ?_, h.serverIds,
      h.memoryIds⟩
    · have halarm := h.alarms n
      generalize server.documents.get? (serverId n) = document? at halarm ⊢
      generalize memory.alarms.get? (memoryId n) = fields? at halarm ⊢
      cases halarm with
      | none => rfl
      | some hdocument => exact congrArg some (law.isDocument_iff.1 hdocument).2
    · have halarm := h.alarms n
      rw [hfields] at halarm
      generalize server.documents.get? (serverId n) = document? at halarm
      cases halarm with
      | some hdocument => exact (law.isDocument_iff.1 hdocument).1

/-- What is tracked on both sides is mirrored, however the operation went. -/
theorem of_tracked {α β : Type} {Agree : α → β → Prop}
    {left : Except Failure α × AlarmServer} {right : Except Failure β × AlarmMemory}
    (h : Tracked serverId memoryId Agree (fun _ ↦ IsNested Stored) (fun _ ↦ IsNested Stored)
      left right) :
    SameOutcome Agree left.1 right.1 ∧ Mirrors serverId memoryId Stored left.2 right.2 := by
  cases h with
  | error kind tracks => exact ⟨.error kind, (iff_tracks law).2 tracks⟩
  | ok agree tracks => exact ⟨.ok agree, (iff_tracks law).2 tracks⟩

include hserver hmemory hsend

/-- Creating an alarm hands out corresponding ids. -/
theorem create (h : Mirrors serverId memoryId Stored server memory) {payload : Fields}
    (hpayload : Stored payload)
    (hreads : RemoteAlarms.ReadsAnswers write
      (((remote.client write serverId).create payload).on server).2) :
    SameOutcome (fun left right ↦ left.id = serverId server.issued ∧
          right.id = memoryId server.issued)
        (((remote.client write serverId).create payload).on server).1
        (memory.create memoryId payload).1 ∧
      Mirrors serverId memoryId Stored
        (((remote.client write serverId).create payload).on server).2
        (memory.create memoryId payload).2 := by
  have hnested : IsNested Stored (ofFlat payload true) payload := ⟨hpayload, rfl⟩
  have hcreated := ((iff_tracks law).1 h).create hserver hmemory hsend (law.withoutId hpayload)
    hnested hreads
  rw [Function.update_eq_self] at hcreated
  exact of_tracked law hcreated

/-- Updating corresponding alarms. -/
theorem update (h : Mirrors serverId memoryId Stored server memory) (n : Nat) {changes : Fields}
    (hchanges : Changes changes)
    (hreads : RemoteAlarms.ReadsAnswers write
      (((remote.client write serverId).update (serverId n) changes).on server).2) :
    SameOutcome (fun _ _ ↦ True)
        (((remote.client write serverId).update (serverId n) changes).on server).1
        (memory.update (memoryId n) changes).1 ∧
      Mirrors serverId memoryId Stored
        (((remote.client write serverId).update (serverId n) changes).on server).2
        (memory.update (memoryId n) changes).2 := by
  have hmerge (body fields : Fields) (_ : body.get? Alarm.idField = none)
      (hbody : IsNested Stored body fields) :
      (merge body (ofFlat changes false)).get? Alarm.idField = none ∧
        IsNested Stored (merge body (ofFlat changes false)) (fields.overlay changes) := by
    obtain ⟨hfields, rfl⟩ := hbody
    have hnext := law.overlay hfields hchanges
    rw [law.commutes hfields hchanges]
    exact ⟨law.withoutId hnext, hnext, rfl⟩
  have hupdated := ((iff_tracks law).1 h).update hserver hmemory hsend n hmerge hreads
  rw [Function.update_eq_self] at hupdated
  exact of_tracked law hupdated

/-- Removing corresponding alarms. -/
theorem delete (h : Mirrors serverId memoryId Stored server memory) (n : Nat) :
    SameOutcome (fun _ _ ↦ True)
        (((remote.client write serverId).delete (serverId n)).on server).1
        (memory.delete (memoryId n)).1 ∧
      Mirrors serverId memoryId Stored
        (((remote.client write serverId).delete (serverId n)).on server).2
        (memory.delete (memoryId n)).2 :=
  of_tracked law (((iff_tracks law).1 h).delete hserver hmemory hsend n)

end Mirrors

end MeteringAlarms
