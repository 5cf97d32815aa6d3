import MeteringAlarms.Alarm.Basic
import MeteringAlarms.Alarm.Document
import MeteringAlarms.Http.Exchange

/-!
# The remote alarm service

The alarm service over its REST interface. Bodies are sent in the nested shape. An update reads the
alarm, merges the changes into its document and writes the whole of it back. An answer that is not a
success becomes a failure with its status; an answer that should hold an alarm and does not, or no
answer at all, is a failure of transport.
-/

namespace MeteringAlarms

structure RemoteAlarms where
  /-- The address of the service, without slashes at its end. -/
  base : String
  token? : Option String

namespace RemoteAlarms

def ofEndpoint (endpoint : String) (token? : Option String) : RemoteAlarms :=
  ⟨Text.dropTrailing endpoint '/', token?⟩

/-- The address of all alarms. -/
def collectionUrl (remote : RemoteAlarms) : String :=
  remote.base ++ "/v2/alarms"

/-- The address of one alarm. -/
def alarmUrl (remote : RemoteAlarms) (id : String) : String :=
  remote.base ++ "/v2/alarms/" ++ id

/-- The failure that an unsuccessful answer means, for a request about the given alarm. -/
def failureOf (status : Nat) (body : String) (id? : Option String) : Failure :=
  let refusal : Failure :=
    .refused status (if body.isEmpty then (Http.reasonPhrase? status).getD "unknown" else body)
  match id? with
  | some id => if status = 404 then .alarmMissing id else refusal
  | none => refusal

variable {m : Type → Type} [Monad m]

/-- Sends a request and gives the body of a successful answer. -/
def exchange (send : Http.Request → m (Option Http.Response)) (request : Http.Request)
    (id? : Option String) : Attempt m String := do
  if request.target?.isNone then throw (.transport "the request cannot be sent")
  match ← send request with
  | none => throw (.transport "no answer")
  | some response =>
    if Http.isSuccess response.status then pure response.body
    else throw (failureOf response.status response.body id?)

def readAlarm (body : String) : Attempt m Alarm :=
  match Alarm.ofText? body with
  | some alarm => pure alarm
  | none => throw (.transport "the answer holds no alarm")

def create (remote : RemoteAlarms) (send : Http.Request → m (Option Http.Response))
    (payload : Fields) : Attempt m Alarm := do
  let body := Json.ofFields (AlarmDocument.ofFlat payload true)
  let answer ← exchange send ⟨.post, remote.collectionUrl, remote.token?, some body⟩ none
  readAlarm answer

def get (remote : RemoteAlarms) (send : Http.Request → m (Option Http.Response)) (id : String) :
    Attempt m Alarm := do
  let answer ← exchange send ⟨.get, remote.alarmUrl id, remote.token?, none⟩ (some id)
  readAlarm answer

def update (remote : RemoteAlarms) (send : Http.Request → m (Option Http.Response)) (id : String)
    (changes : Fields) : Attempt m Unit := do
  let alarm ← remote.get send id
  let fields := AlarmDocument.merge alarm.fields (AlarmDocument.ofFlat changes false)
  let body := Alarm.toJson { alarm with fields }
  discard <| exchange send ⟨.put, remote.alarmUrl id, remote.token?, some body⟩ (some id)

def delete (remote : RemoteAlarms) (send : Http.Request → m (Option Http.Response)) (id : String) :
    Attempt m Unit :=
  discard <| exchange send ⟨.delete, remote.alarmUrl id, remote.token?, none⟩ (some id)

def service (remote : RemoteAlarms) (send : Http.Request → m (Option Http.Response)) :
    AlarmService m where
  create := remote.create send
  update := remote.update send
  delete := remote.delete send
  get := remote.get send

end RemoteAlarms

end MeteringAlarms
