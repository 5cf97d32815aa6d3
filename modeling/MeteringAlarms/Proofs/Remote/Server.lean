import MeteringAlarms.Alarm.Remote
import MeteringAlarms.Proofs.Adapter.Callbacks
import MeteringAlarms.Proofs.Alarm.Document

/-!
# A service that keeps to the interface

`AlarmServer` is the remote service as its interface describes it: a document that is posted is
stored and answered with a new id in it, a document that is put replaces the one that is there, and
while the service is unavailable it says so to every request.  How it writes its documents is left
open.  It remembers which documents it answered, so that one can ask of a run that all of them came
through unchanged.
-/

namespace MeteringAlarms

/-- The members of the object that a text holds, each of them once. -/
def Document.membersOf? (text : String) : Option (List (String × Json)) :=
  match Document.ofText? text with
  | some (.object members) => Document.membersToJson? (Document.maxDepth - 1) members
  | _ => none

/-- The text is read as an object with the given members, each of them once and in any order. -/
def Document.Reads (text : String) (fields : Fields) : Prop :=
  ∃ members ∈ Document.membersOf? text, members.Perm fields.entries

instance (text : String) (fields : Fields) : Decidable (Document.Reads text fields) :=
  inferInstanceAs (Decidable (∃ members ∈ Document.membersOf? text, members.Perm fields.entries))

theorem Document.exists_of_membersOf?_eq_some {text : String} {entries : List (String × Json)}
    (h : Document.membersOf? text = some entries) :
    ∃ members, Document.ofText? text = some (.object members) ∧
      Document.membersToJson? (Document.maxDepth - 1) members = some entries := by
  rw [Document.membersOf?] at h
  split at h
  · rename_i members htext
    exact ⟨members, htext, h⟩
  · cases h

/-- The text holds an object whose id is a string, and these are all its members.  Of a member that
is repeated the last counts, but the id may not be. -/
def Alarm.IsFetched (text : String) (document : Fields) : Prop :=
  ∃ members name, Document.membersOf? text = some members ∧
    members.filter (·.1 = Alarm.idField) = [(Alarm.idField, .string name)] ∧
    OrderedMap.ofList members = document

/-- Such a text is read as an alarm, whatever else is in the object. -/
theorem Alarm.IsFetched.alarm {text : String} {document : Fields}
    (h : Alarm.IsFetched text document) :
    ∃ name, document.get? Alarm.idField = some (.string name) ∧
      Alarm.ofText? text = some ⟨name, document.erase Alarm.idField⟩ := by
  obtain ⟨entries, name, hentries, hname, rfl⟩ := h
  obtain ⟨members, htext, hmembers⟩ := Document.exists_of_membersOf?_eq_some hentries
  refine ⟨name, ?_, ?_⟩
  · rw [OrderedMap.get?_ofList, ← Entries.find?_filter_key, List.filter_reverse, hname]
    exact if_pos rfl
  · have hothers : OrderedMap.ofList (entries.filter (·.1 ≠ Alarm.idField)) =
        (OrderedMap.ofList entries).erase Alarm.idField := by
      apply OrderedMap.ext_get?
      intro key
      rw [OrderedMap.get?_erase, OrderedMap.get?_ofList, OrderedMap.get?_ofList,
        ← List.filter_reverse, ← Entries.find?_erase]
      congr 1
      refine List.filter_congr fun entry _ ↦ ?_
      rw [bne, decide_not, beq_eq_decide]
    rw [Alarm.ofText?, htext]
    change Alarm.ofDocument? Document.maxDepth (.object members) = _
    rw [Alarm.ofDocument?, if_neg (by decide), hmembers]
    rw [Option.bind_eq_bind, Option.bind_some, hname, hothers]

theorem Alarm.isFetched_of_reads {text : String} {document : Fields} {id : String}
    (hreads : Document.Reads text document)
    (hid : document.get? Alarm.idField = some (.string id)) : Alarm.IsFetched text document := by
  obtain ⟨members, htext, hperm⟩ := hreads
  refine ⟨members, id, htext, ?_, OrderedMap.ofList_eq_of_perm hperm⟩
  have hids := hperm.filter (·.1 = Alarm.idField)
  rw [OrderedMap.filter_entries, hid] at hids
  exact List.perm_singleton.1 hids

/-- An alarm is read from a document that has its id among its members. -/
theorem Alarm.ofText?_of_reads {text : String} {document : Fields} {id : String}
    (hreads : Document.Reads text document)
    (hid : document.get? Alarm.idField = some (.string id)) :
    Alarm.ofText? text = some ⟨id, document.erase Alarm.idField⟩ := by
  obtain ⟨name, hname, halarm⟩ := (Alarm.isFetched_of_reads hreads hid).alarm
  rw [hid, Option.some.injEq, Json.string.injEq] at hname
  rw [halarm, hname]

/-- The id of an alarm that is read stands in its document. -/
theorem Alarm.get?_idField_of_ofText? {text : String} {document : Fields} {alarm : Alarm}
    (hreads : Document.Reads text document) (halarm : Alarm.ofText? text = some alarm) :
    document.get? Alarm.idField = some (.string alarm.id) := by
  obtain ⟨entries, hentries, hperm⟩ := hreads
  obtain ⟨members, htext, hmembers⟩ := Document.exists_of_membersOf?_eq_some hentries
  rw [Alarm.ofText?, htext] at halarm
  change Alarm.ofDocument? Document.maxDepth (.object members) = _ at halarm
  rw [Alarm.ofDocument?, if_neg (by decide), hmembers] at halarm
  rw [Option.bind_eq_bind, Option.bind_some] at halarm
  split at halarm
  · rename_i name id hfilter
    cases halarm
    have hmem : (name, Json.string id) ∈ entries.filter (·.1 = Alarm.idField) := by
      rw [hfilter]
      exact List.mem_singleton_self _
    rw [List.mem_filter, decide_eq_true_eq] at hmem
    obtain ⟨hentry, rfl⟩ := hmem
    exact OrderedMap.get?_eq_some_iff.2 (hperm.mem_iff.1 hentry)
  · cases halarm

/-- An alarm is written as its fields and its id. -/
theorem Alarm.ofList_members (id : String) {fields : Fields}
    (h : fields.get? Alarm.idField = none) :
    OrderedMap.ofList (Alarm.members ⟨id, fields⟩) = fields.insert Alarm.idField (.string id) := by
  apply OrderedMap.ext_get?
  intro key
  change ((OrderedMap.empty.insert Alarm.idField (.string id)).overlay fields).get? key = _
  rw [OrderedMap.get?_overlay, OrderedMap.get?_insert, OrderedMap.get?_insert,
    OrderedMap.get?_empty]
  by_cases hkey : key = Alarm.idField
  · rw [if_pos hkey, if_pos hkey, hkey, h, Option.none_or]
  · rw [if_neg hkey, if_neg hkey, Option.or_none]

/-- A document with its id among the members is written with the changes merged into it. -/
theorem Alarm.ofList_members_merge {document : Fields} {id : String}
    (hid : document.get? Alarm.idField = some (.string id)) (changes : Fields) :
    OrderedMap.ofList (Alarm.members ⟨id, AlarmDocument.merge (document.erase Alarm.idField)
      changes⟩) = AlarmDocument.merge document changes := by
  apply OrderedMap.ext_get?
  intro key
  change ((OrderedMap.empty.insert Alarm.idField (Json.string id)).overlay _).get? key = _
  rw [OrderedMap.get?_overlay, OrderedMap.get?_insert, OrderedMap.get?_empty,
    AlarmDocument.get?_merge, AlarmDocument.get?_merge, OrderedMap.get?_erase]
  by_cases hkey : key = Alarm.idField
  · rw [if_pos hkey, if_pos hkey, hkey, hid]
    cases changes.get? Alarm.idField with
    | none => rfl
    | some value =>
      dsimp only
      rw [AlarmDocument.mergedValue_none, Option.some_or, AlarmDocument.mergedValue]
      cases value.fields? <;> rfl
  · rw [if_neg hkey, if_neg hkey, Option.or_none]

structure AlarmServer where
  /-- The document of each alarm, its id among the members. -/
  documents : OrderedMap Fields := .empty
  /-- How many ids were handed out. -/
  issued : Nat := 0
  unavailable : Bool := false
  /-- The documents in answers so far, the latest first. -/
  answered : List Fields := []

namespace AlarmServer

def setAvailable (available : Bool) (server : AlarmServer) : AlarmServer :=
  { server with unavailable := !available }

variable (write : Fields → String) (newId : Nat → String) (address : String)

/-- The id that an address of one alarm ends in.  The service takes the address as a request has it
and not as the `Http.Target` that it is parsed to, where `..` steps back and `?` ends the path; for
an id that is a plain segment of a path the two come to the same. -/
def alarmIdOf? (url : String) : Option String :=
  let front := (address ++ "/v2/alarms/").toList
  if front.isPrefixOf url.toList then some (String.ofList (url.toList.drop front.length)) else none

def post (body : Fields) (server : AlarmServer) : Http.Response × AlarmServer :=
  let id := newId server.issued
  let document := body.insert Alarm.idField (.string id)
  (⟨201, write document⟩,
    { server with
      documents := server.documents.insert id document
      issued := server.issued + 1
      answered := document :: server.answered })

def get (id : String) (server : AlarmServer) : Http.Response × AlarmServer :=
  match server.documents.get? id with
  | some document =>
    (⟨200, write document⟩, { server with answered := document :: server.answered })
  | none => (⟨404, ""⟩, server)

def put (id : String) (body : Fields) (server : AlarmServer) : Http.Response × AlarmServer :=
  if server.documents.contains id then
    (⟨200, ""⟩, { server with documents := server.documents.insert id body })
  else (⟨404, ""⟩, server)

def delete (id : String) (server : AlarmServer) : Http.Response × AlarmServer :=
  if server.documents.contains id then
    (⟨204, ""⟩, { server with documents := server.documents.erase id })
  else (⟨404, ""⟩, server)

def serve (request : Http.Request) (server : AlarmServer) : Http.Response × AlarmServer :=
  if server.unavailable then (⟨503, ""⟩, server)
  else
    match request.method, alarmIdOf? address request.url, request.body?.bind Json.fields? with
    | .post, _, some body =>
      if request.url = address ++ "/v2/alarms" then server.post write newId body
      else (⟨404, ""⟩, server)
    | .get, some id, _ => server.get write id
    | .put, some id, some body => server.put id body
    | .delete, some id, _ => server.delete id
    | _, _, _ => (⟨404, ""⟩, server)

def send (request : Http.Request) : StateM AlarmServer (Option Http.Response) := fun server ↦
  let (response, server) := server.serve write newId address request
  (some response, server)

theorem alarmIdOf?_append (id : String) :
    alarmIdOf? address (address ++ "/v2/alarms/" ++ id) = some id := by
  have hchars : (address ++ "/v2/alarms/" ++ id).toList =
      (address ++ "/v2/alarms/").toList ++ id.toList := String.toList_append
  have hprefix := List.isPrefixOf_iff_prefix.2
    (List.prefix_append (address ++ "/v2/alarms/").toList id.toList)
  rw [alarmIdOf?, hchars, if_pos hprefix, List.drop_left, String.ofList_toList]

end AlarmServer

end MeteringAlarms
