import MeteringAlarms.Proofs.Http.Target
import MeteringAlarms.Proofs.Remote.Server

/-!
# The client against the service

What the operations of the client come to when the other side keeps to the interface.  As long as
the documents that the client reads come through unchanged, each operation is refused because the
service is unavailable, fails for want of the alarm, or has its effect on the documents of the
service, and the lemmas give outcome and new state of each case in full.
-/

namespace MeteringAlarms.RemoteAlarms

variable (remote : RemoteAlarms) (write : Fields → String) (newId : Nat → String)
  (server : AlarmServer)

/-- Requests for all alarms can be sent: the address has a host and the token fits a header. -/
def CanSend (remote : RemoteAlarms) : Prop :=
  (Http.Request.target? ⟨.post, remote.collectionUrl, remote.token?, none⟩).isSome

instance : Decidable remote.CanSend :=
  inferInstanceAs (Decidable (Option.isSome _ = true))

/-- The client of a service at its own address. -/
def client : AlarmService (StateM AlarmServer) :=
  remote.service (AlarmServer.send write newId remote.base)

variable {remote}

theorem CanSend.collection (h : remote.CanSend) (method : Http.Method) (body? : Option Json) :
    (Http.Request.target? ⟨method, remote.collectionUrl, remote.token?, body?⟩).isNone = false := by
  rw [Option.isNone_eq_false_iff]
  exact h

theorem CanSend.alarm (h : remote.CanSend) (method : Http.Method) (id : String)
    (body? : Option Json) :
    (Http.Request.target? ⟨method, remote.alarmUrl id, remote.token?, body?⟩).isNone = false := by
  rw [Option.isNone_eq_false_iff]
  unfold CanSend Http.Request.target? at h
  unfold Http.Request.target?
  split at h
  · cases h
  · rename_i htoken
    rw [if_neg htoken]
    have hurl : remote.alarmUrl id = remote.base ++ "/v2/alarms" ++ ("/" ++ id) := by
      have hslash : "/v2/alarms/" = "/v2/alarms" ++ "/" := rfl
      rw [alarmUrl, hslash, ← String.append_assoc, String.append_assoc]
    dsimp only
    rw [hurl]
    exact Http.Target.isSome_ofUrl?_append h _

theorem on_exchange {request : Http.Request} (hsend : request.target?.isNone = false)
    (id? : Option String) :
    (exchange (AlarmServer.send write newId remote.base) request id?).on server =
      let step := server.serve write newId remote.base request
      (if Http.isSuccess step.1.status then .ok step.1.body
        else .error (failureOf step.1.status step.1.body id?), step.2) := by
  have hanswer : Attempt.on (liftM (AlarmServer.send write newId remote.base request)) server =
      (.ok (some (server.serve write newId remote.base request).1),
        (server.serve write newId remote.base request).2) := rfl
  rw [exchange, hsend, if_neg Bool.false_ne_true, Attempt.on_bind, hanswer]
  dsimp only
  split <;> rfl

/-! ## Requests as they are served -/

theorem serve_post (body : Fields) :
    server.serve write newId remote.base
        ⟨.post, remote.collectionUrl, remote.token?, some (.ofFields body)⟩ =
      if server.unavailable then (⟨503, ""⟩, server) else server.post write newId body := by
  have hbody : (some (Json.ofFields body)).bind Json.fields? = some body :=
    AlarmDocument.fields?_ofFields body
  rw [AlarmServer.serve, hbody]
  split
  · rfl
  · exact if_pos rfl

theorem serve_get (id : String) :
    server.serve write newId remote.base ⟨.get, remote.alarmUrl id, remote.token?, none⟩ =
      if server.unavailable then (⟨503, ""⟩, server) else server.get write id := by
  rw [AlarmServer.serve, alarmUrl, AlarmServer.alarmIdOf?_append]

theorem serve_put (id : String) (alarm : Alarm) :
    server.serve write newId remote.base
        ⟨.put, remote.alarmUrl id, remote.token?, some alarm.toJson⟩ =
      if server.unavailable then (⟨503, ""⟩, server)
      else server.put id (.ofList alarm.members) := by
  rw [AlarmServer.serve, alarmUrl, AlarmServer.alarmIdOf?_append]
  rfl

theorem serve_delete (id : String) :
    server.serve write newId remote.base ⟨.delete, remote.alarmUrl id, remote.token?, none⟩ =
      if server.unavailable then (⟨503, ""⟩, server) else server.delete id := by
  rw [AlarmServer.serve, alarmUrl, AlarmServer.alarmIdOf?_append]

/-! ## The cases of each operation -/

variable (remote)

theorem on_create (hsend : remote.CanSend) (payload : Fields) :
    ((remote.client write newId).create payload).on server =
      if server.unavailable then (.error (failureOf 503 "" none), server)
      else
        let step := server.post write newId (AlarmDocument.ofFlat payload true)
        (readAlarm step.1.body).on step.2 := by
  change (remote.create (AlarmServer.send write newId remote.base) payload).on server = _
  rw [create, Attempt.on_bind, on_exchange write newId server (hsend.collection _ _), serve_post]
  cases server.unavailable <;> rfl

theorem on_get (hsend : remote.CanSend) (id : String) :
    ((remote.client write newId).get id).on server =
      if server.unavailable then (.error (failureOf 503 "" (some id)), server)
      else match server.documents.get? id with
        | none => (.error (.alarmMissing id), server)
        | some document =>
          (readAlarm (write document)).on
            { server with answered := document :: server.answered } := by
  change (remote.get (AlarmServer.send write newId remote.base) id).on server = _
  rw [get, Attempt.on_bind, on_exchange write newId server (hsend.alarm _ _ _), serve_get,
    AlarmServer.get]
  cases server.unavailable with
  | true => rfl
  | false => cases server.documents.get? id <;> rfl

theorem on_delete (hsend : remote.CanSend) (id : String) :
    ((remote.client write newId).delete id).on server =
      if server.unavailable then (.error (failureOf 503 "" (some id)), server)
      else if server.documents.contains id then
        (.ok (), { server with documents := server.documents.erase id })
      else (.error (.alarmMissing id), server) := by
  have hdelete : (remote.client write newId).delete id =
      (fun _ ↦ ()) <$> exchange (AlarmServer.send write newId remote.base)
        ⟨.delete, remote.alarmUrl id, remote.token?, none⟩ (some id) := rfl
  rw [hdelete, Attempt.on_map, on_exchange write newId server (hsend.alarm _ _ _), serve_delete,
    AlarmServer.delete]
  cases server.unavailable with
  | true => rfl
  | false => cases server.documents.contains id <;> rfl

/-- A removal is answered without a document. -/
theorem answered_delete (hsend : remote.CanSend) (id : String) :
    (((remote.client write newId).delete id).on server).2.answered = server.answered := by
  rw [on_delete remote write newId server hsend]
  split
  · rfl
  · split <;> rfl

theorem on_put (hsend : remote.CanSend) (id : String) (alarm : Alarm) :
    (exchange (AlarmServer.send write newId remote.base)
        ⟨.put, remote.alarmUrl id, remote.token?, some alarm.toJson⟩ (some id)).on server =
      if server.unavailable then (.error (failureOf 503 "" (some id)), server)
      else if server.documents.contains id then
        (.ok "", { server with documents := server.documents.insert id (.ofList alarm.members) })
      else (.error (.alarmMissing id), server) := by
  rw [on_exchange write newId server (hsend.alarm _ _ _), serve_put, AlarmServer.put]
  cases server.unavailable with
  | true => rfl
  | false => cases server.documents.contains id <;> rfl

/-- A document with its id comes back as the alarm that it describes. -/
theorem on_readAlarm {document : Fields} {id : String}
    (hreads : Document.Reads (write document) document)
    (hid : document.get? Alarm.idField = some (.string id)) :
    (readAlarm (write document)).on server =
      (.ok ⟨id, document.erase Alarm.idField⟩, server) := by
  rw [readAlarm, Alarm.ofText?_of_reads hreads hid]
  rfl

theorem readAlarm_state (text : String) : ((readAlarm text).on server).2 = server := by
  rw [readAlarm]
  split <;> rfl

/-- The documents that an operation has answered so far are read as they are. -/
def ReadsAnswers (server : AlarmServer) : Prop :=
  ∀ document ∈ server.answered, Document.Reads (write document) document

instance : Decidable (ReadsAnswers write server) :=
  inferInstanceAs (Decidable (∀ document ∈ server.answered, _))

theorem create_cases (hsend : remote.CanSend) (payload : Fields)
    (hreads : ReadsAnswers write (((remote.client write newId).create payload).on server).2) :
    server.unavailable = true ∧
      ((remote.client write newId).create payload).on server =
        (.error (failureOf 503 "" none), server) ∨
    server.unavailable = false ∧
      ∃ document, document = (AlarmDocument.ofFlat payload true).insert Alarm.idField
          (.string (newId server.issued)) ∧
        ((remote.client write newId).create payload).on server =
          (.ok ⟨newId server.issued, document.erase Alarm.idField⟩,
            { server with
              documents := server.documents.insert (newId server.issued) document
              issued := server.issued + 1
              answered := document :: server.answered }) := by
  rw [on_create remote write newId server hsend] at hreads ⊢
  by_cases hunavailable : server.unavailable
  · rw [if_pos hunavailable]
    exact Or.inl ⟨hunavailable, rfl⟩
  · rw [if_neg hunavailable] at hreads ⊢
    dsimp only at hreads
    rw [readAlarm_state] at hreads
    refine Or.inr ⟨Bool.eq_false_iff.2 hunavailable, _, rfl, ?_⟩
    exact on_readAlarm write _ (hreads _ List.mem_cons_self)
      (by rw [OrderedMap.get?_insert, if_pos rfl])

theorem on_update_of_error {id : String} {failure : Failure} {next : AlarmServer}
    (hget : ((remote.client write newId).get id).on server = (.error failure, next))
    (changes : Fields) :
    ((remote.client write newId).update id changes).on server = (.error failure, next) := by
  have hget : (remote.get (AlarmServer.send write newId remote.base) id).on server =
    (.error failure, next) := hget
  change (remote.update (AlarmServer.send write newId remote.base) id changes).on server = _
  rw [update, Attempt.on_bind, hget]

theorem on_update_of_ok (hsend : remote.CanSend) {id : String} {alarm : Alarm}
    {next : AlarmServer}
    (hget : ((remote.client write newId).get id).on server = (.ok alarm, next))
    (changes : Fields) :
    ((remote.client write newId).update id changes).on server =
      if next.unavailable then (.error (failureOf 503 "" (some id)), next)
      else if next.documents.contains id then
        (.ok (),
          { next with documents := next.documents.insert id (.ofList (Alarm.members
            ⟨alarm.id, AlarmDocument.merge alarm.fields (AlarmDocument.ofFlat changes false)⟩)) })
      else (.error (.alarmMissing id), next) := by
  have hget : (remote.get (AlarmServer.send write newId remote.base) id).on server =
    (.ok alarm, next) := hget
  have hput := on_put remote write newId next hsend id
    ⟨alarm.id, AlarmDocument.merge alarm.fields (AlarmDocument.ofFlat changes false)⟩
  change (remote.update (AlarmServer.send write newId remote.base) id changes).on server = _
  rw [update, Attempt.on_bind, hget]
  change ((fun _ ↦ ()) <$> exchange _ _ _ : Attempt _ _).on next = _
  rw [Attempt.on_map, hput]
  cases next.unavailable with
  | true => rfl
  | false => cases next.documents.contains id <;> rfl

theorem update_cases (hsend : remote.CanSend) (id : String) (changes : Fields)
    (hstored : ∀ document, server.documents.get? id = some document →
      document.get? Alarm.idField = some (.string id))
    (hreads : ReadsAnswers write (((remote.client write newId).update id changes).on server).2) :
    server.unavailable = true ∧
      ((remote.client write newId).update id changes).on server =
        (.error (failureOf 503 "" (some id)), server) ∨
    server.unavailable = false ∧ server.documents.get? id = none ∧
      ((remote.client write newId).update id changes).on server =
        (.error (.alarmMissing id), server) ∨
    server.unavailable = false ∧ ∃ document, server.documents.get? id = some document ∧
      ((remote.client write newId).update id changes).on server =
        (.ok (),
          { server with
            documents := server.documents.insert id
              (.ofList (Alarm.members ⟨id, AlarmDocument.merge (document.erase Alarm.idField)
                (AlarmDocument.ofFlat changes false)⟩))
            answered := document :: server.answered }) := by
  have hget := on_get remote write newId server hsend id
  by_cases hunavailable : server.unavailable
  · rw [if_pos hunavailable] at hget
    exact Or.inl ⟨hunavailable, on_update_of_error remote write newId server hget changes⟩
  · rw [if_neg hunavailable] at hget
    refine Or.inr ?_
    have havailable := Bool.eq_false_iff.2 hunavailable
    cases hdocument : server.documents.get? id with
    | none =>
      rw [hdocument] at hget
      exact Or.inl ⟨havailable, rfl, on_update_of_error remote write newId server hget changes⟩
    | some document =>
      rw [hdocument] at hget
      dsimp only at hget
      let next := { server with answered := document :: server.answered }
      have hcontains : next.documents.contains id = true := by
        rw [OrderedMap.contains_eq_isSome, hdocument, Option.isSome_some]
      have hupdate {alarm : Alarm}
          (hread : (readAlarm (write document)).on next = (.ok alarm, next)) :
          ((remote.client write newId).update id changes).on server =
            (.ok (),
              { next with documents := next.documents.insert id (.ofList (Alarm.members ⟨alarm.id,
                AlarmDocument.merge alarm.fields (AlarmDocument.ofFlat changes false)⟩)) }) := by
        rw [on_update_of_ok remote write newId server hsend (hget.trans hread),
          if_neg hunavailable, if_pos hcontains]
      -- Whether or not the answer is read as an alarm, it is among those that are read as they are.
      have hdocumentReads : Document.Reads (write document) document := by
        rcases hread : (readAlarm (write document)).on next with ⟨failure | alarm, after⟩
        · have hafter : after = next := by
            rw [← readAlarm_state next (write document), hread]
          rw [on_update_of_error remote write newId server (hget.trans hread), hafter] at hreads
          exact hreads document List.mem_cons_self
        · have hafter : after = next := by
            rw [← readAlarm_state next (write document), hread]
          rw [hafter] at hread
          rw [hupdate hread] at hreads
          exact hreads document List.mem_cons_self
      refine Or.inr ⟨havailable, document, rfl, ?_⟩
      exact hupdate (on_readAlarm write next hdocumentReads (hstored document hdocument))

/-- While the service is available, a removal fails only for want of the alarm. -/
theorem delete_cases (hsend : remote.CanSend) (id : String) :
    server.unavailable = true ∧
      ((remote.client write newId).delete id).on server =
        (.error (failureOf 503 "" (some id)), server) ∨
    server.unavailable = false ∧ server.documents.get? id = none ∧
      ((remote.client write newId).delete id).on server = (.error (.alarmMissing id), server) ∨
    server.unavailable = false ∧ (server.documents.get? id).isSome ∧
      ((remote.client write newId).delete id).on server =
        (.ok (), { server with documents := server.documents.erase id }) := by
  rw [on_delete remote write newId server hsend, OrderedMap.contains_eq_isSome]
  by_cases hunavailable : server.unavailable
  · rw [if_pos hunavailable]
    exact Or.inl ⟨hunavailable, rfl⟩
  · rw [if_neg hunavailable]
    refine Or.inr ?_
    have havailable := Bool.eq_false_iff.2 hunavailable
    cases server.documents.get? id with
    | none => exact Or.inl ⟨havailable, rfl, rfl⟩
    | some document => exact Or.inr ⟨havailable, rfl, rfl⟩

end MeteringAlarms.RemoteAlarms
