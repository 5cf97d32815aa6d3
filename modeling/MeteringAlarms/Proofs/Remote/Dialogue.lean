import MeteringAlarms.Proofs.Adapter.Translation
import MeteringAlarms.Proofs.Remote.Conversation

/-!
# Requests one at a time

The client is run in a monad where a computation stops at each request until it is answered.  An
update is then the request that reads the alarm and, if the answer holds one, the request that
writes it back with the changes merged in; whatever may happen between the two is left to whoever
answers.
-/

namespace MeteringAlarms

variable {α β : Type}

/-! ## Clients that wait for answers -/

/-- A computation that stops at each request until the answer to it is there. -/
inductive Dialogue (α : Type) where
  | done (value : α)
  | ask (request : Http.Request) (next : Option Http.Response → Dialogue α)

namespace Dialogue

def bind : Dialogue α → (α → Dialogue β) → Dialogue β
  | done value, next => next value
  | ask request answered, next => ask request fun answer? ↦ (answered answer?).bind next

instance : Monad Dialogue where
  pure := done
  bind := bind

instance : LawfulMonad Dialogue := by
  refine LawfulMonad.mk' Dialogue ?_ ?_ ?_
  · intro α dialogue
    change dialogue.bind done = dialogue
    induction dialogue with
    | done value => rfl
    | ask request next ih => exact congrArg (ask request) (funext ih)
  · intro α β value next
    rfl
  · intro α β γ dialogue next last
    change (dialogue.bind next).bind last = dialogue.bind fun value ↦ (next value).bind last
    induction dialogue with
    | done value => rfl
    | ask request answered ih => exact congrArg (ask request) (funext ih)

/-- Sends a request and waits. -/
def send (request : Http.Request) : Dialogue (Option Http.Response) :=
  ask request done

end Dialogue

/-! ## The update -/

namespace RemoteAlarms

variable {remote : RemoteAlarms} (id : String) (changes : Fields)

/-- A request waits for its answer, and then comes to what the client makes of that. -/
theorem run_exchange {request : Http.Request} (hsend : request.target?.isNone = false)
    (id? : Option String) :
    (exchange Dialogue.send request id?).run =
      .ask request fun answer? ↦ .done (Http.Exchange.outcome ⟨request, answer?⟩ id?) := by
  rw [exchange, hsend, if_neg Bool.false_ne_true]
  refine congrArg (Dialogue.ask request) (funext fun answer? ↦ ?_)
  rw [Http.Exchange.outcome]
  dsimp only
  rw [hsend, if_neg Bool.false_ne_true]
  cases answer? with
  | none => rfl
  | some response =>
    change ExceptT.run (if Http.isSuccess response.status then pure response.body
      else throw (failureOf response.status response.body id?)) = _
    dsimp only
    split <;> rfl

/-- The request that reads an alarm. -/
def reading (remote : RemoteAlarms) (id : String) : Http.Request :=
  ⟨.get, remote.alarmUrl id, remote.token?, none⟩

/-- The request that writes the document of an alarm with changes merged into it. -/
def writing (remote : RemoteAlarms) (id : String) (changes : Fields) (alarm : Alarm) :
    Http.Request :=
  let fields := AlarmDocument.merge alarm.fields (AlarmDocument.ofFlat changes false)
  ⟨.put, remote.alarmUrl id, remote.token?, some (Alarm.toJson { alarm with fields })⟩

/-- An update that has read its alarm. -/
def rewriting (remote : RemoteAlarms) (id : String) (changes : Fields) (alarm : Alarm) :
    Dialogue (Except Failure Unit) :=
  .ask (remote.writing id changes alarm) fun answer? ↦
    .done ((Http.Exchange.outcome ⟨remote.writing id changes alarm, answer?⟩ (some id)).map
      fun _ ↦ ())

/-- What an update does with the answer to its first request. -/
def afterReading (remote : RemoteAlarms) (id : String) (changes : Fields)
    (answer? : Option Http.Response) : Dialogue (Except Failure Unit) :=
  match Http.Exchange.outcome ⟨remote.reading id, answer?⟩ (some id) with
  | .error failure => .done (.error failure)
  | .ok body =>
    match Alarm.ofText? body with
    | none => .done (.error (.transport "the answer holds no alarm"))
    | some alarm => remote.rewriting id changes alarm

/-- An update reads its alarm first, and writes it if it can be read. -/
theorem run_update (hsend : remote.CanSend) :
    (remote.update Dialogue.send id changes).run =
      .ask (remote.reading id) (remote.afterReading id changes) := by
  have hread : (remote.reading id).target?.isNone = false := hsend.alarm .get id none
  have hwrite (alarm : Alarm) : (remote.writing id changes alarm).target?.isNone = false :=
    hsend.alarm .put id _
  change (exchange Dialogue.send (remote.reading id) (some id) >>= readAlarm >>= _).run = _
  rw [ExceptT.run_bind, ExceptT.run_bind, run_exchange hread]
  refine congrArg (Dialogue.ask (remote.reading id)) (funext fun answer? ↦ ?_)
  rw [afterReading]
  change Dialogue.bind (.bind (.done
    (Http.Exchange.outcome ⟨remote.reading id, answer?⟩ (some id))) _) _ = _
  cases Http.Exchange.outcome ⟨remote.reading id, answer?⟩ (some id) with
  | error failure => rfl
  | ok body =>
    change Dialogue.bind (readAlarm body).run _ = _
    rw [readAlarm]
    dsimp only
    cases Alarm.ofText? body with
    | none => rfl
    | some alarm =>
      change (discard (exchange Dialogue.send (remote.writing id changes alarm) (some id))).run = _
      rw [discard_eq_bind, ExceptT.run_bind, run_exchange (hwrite alarm)]
      refine congrArg (Dialogue.ask _) (funext fun answer? ↦ ?_)
      change Dialogue.bind (.done (Http.Exchange.outcome _ (some id))) _ = _
      cases Http.Exchange.outcome ⟨remote.writing id changes alarm, answer?⟩ (some id) <;> rfl

theorem afterReading_of_isSuccess (remote : RemoteAlarms) (changes : Fields)
    {response : Http.Response} (hsuccess : Http.isSuccess response.status = true) :
    remote.afterReading id changes (some response) =
      match Alarm.ofText? response.body with
      | none => .done (.error (.transport "the answer holds no alarm"))
      | some alarm => remote.rewriting id changes alarm := by
  have houtcome : Http.Exchange.outcome ⟨remote.reading id, some response⟩ (some id) =
      .ok response.body := if_pos hsuccess
  rw [afterReading, houtcome]

theorem afterReading_of_ofText? (remote : RemoteAlarms) (changes : Fields)
    {response : Http.Response} {alarm : Alarm} (hsuccess : Http.isSuccess response.status = true)
    (halarm : Alarm.ofText? response.body = some alarm) :
    remote.afterReading id changes (some response) = remote.rewriting id changes alarm := by
  rw [afterReading_of_isSuccess id remote changes hsuccess, halarm]

theorem exists_rewriting_of_isFetched (remote : RemoteAlarms) (changes : Fields)
    {response : Http.Response} {document : Fields}
    (hsuccess : Http.isSuccess response.status = true)
    (hfetched : Alarm.IsFetched response.body document) :
    ∃ name, document.get? Alarm.idField = some (.string name) ∧
      remote.afterReading id changes (some response) =
        remote.rewriting id changes ⟨name, document.erase Alarm.idField⟩ := by
  obtain ⟨name, hname, halarm⟩ := hfetched.alarm
  exact ⟨name, hname, remote.afterReading_of_ofText? id changes hsuccess halarm⟩

end RemoteAlarms

end MeteringAlarms
