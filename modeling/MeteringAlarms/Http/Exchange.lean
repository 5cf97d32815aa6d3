import MeteringAlarms.Http.Status
import MeteringAlarms.Http.Target
import MeteringAlarms.Json.Document
import MeteringAlarms.Json.Printer

/-!
# Requests and responses

What a client sends and what comes back, and a server that follows a script: it keeps the requests
and gives the next of its replies to each of them, whatever it asks. A reply may also be to close
the connection; when the script is at its end every request is answered by an error of the server.
-/

namespace MeteringAlarms.Http

inductive Method where
  | post | get | put | delete
  deriving DecidableEq

namespace Method

def name : Method → String
  | .post => "POST"
  | .get => "GET"
  | .put => "PUT"
  | .delete => "DELETE"

end Method

structure Request where
  method : Method
  url : String
  /-- The value of the header that carries the caller's token. -/
  token? : Option String
  /-- The body, a JSON document as it is written. -/
  body? : Option Json

structure Response where
  status : Nat
  body : String

/-- A character that no header value may hold. -/
def isForbiddenInHeader (c : Char) : Bool :=
  (c.toNat < 0x20 && c != '\t') || c.toNat = 0x7F

namespace Request

/-- The path and query asked for, if the request can be sent at all. -/
def target? (request : Request) : Option String :=
  if (request.token?.getD "").toList.any isForbiddenInHeader then none
  else Target.ofUrl? request.url

/-- The body as its receiver reads it. -/
def receivedBody? (request : Request) : Option Json :=
  request.body?.bind fun body ↦ Json.ofText? body.compact

end Request

inductive Reply where
  | answer (response : Response)
  | close

namespace Reply

/-- An answer as it arrives: some statuses never carry a body. -/
def answering (status : Nat) (body : String) : Reply :=
  .answer ⟨status, if status = 204 ∨ status = 304 then "" else body⟩

end Reply

structure ScriptedServer where
  script : List Reply := []
  /-- The requests received, the latest first. -/
  received : List Request := []

namespace ScriptedServer

def exhausted : Response := ⟨500, "script exhausted"⟩

def send (request : Request) : StateM ScriptedServer (Option Response) := fun server ↦
  let received := request :: server.received
  match server.script with
  | .answer response :: script => (some response, ⟨script, received⟩)
  | .close :: script => (none, ⟨script, received⟩)
  | [] => (some exhausted, ⟨[], received⟩)

end ScriptedServer

end MeteringAlarms.Http
