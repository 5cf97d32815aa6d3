import MeteringAlarms.Attempt
import MeteringAlarms.Json.Record

/-!
# Alarms and the service that holds them

An alarm is an id, which the service assigns, and the fields of its document. It is written as one
flat object, the id first and the fields after it. A service offers four operations; an id without
an alarm makes the last three fail with `Failure.alarmMissing`.
-/

namespace MeteringAlarms

structure Alarm where
  id : String
  fields : Fields

namespace Alarm

def idField : String := "alarm_id"

/-- The members of the flat object. A field named like the id is written as well, after it. -/
def members (alarm : Alarm) : List (String × Json) :=
  (idField, .string alarm.id) :: alarm.fields.entries

/-- The flat object as it is written. -/
def toJson (alarm : Alarm) : Json :=
  .object alarm.members

/-- The flat object as it is read back, where the last of a repeated member counts. -/
def document (alarm : Alarm) : Json :=
  .ofEntries alarm.members

/-- The alarm that a document describes: an object with one id, which is a string. -/
def ofDocument? (room : Nat) : Document → Option Alarm
  | .object members => do
    if room = 0 then none else
    let entries ← Document.membersToJson? (room - 1) members
    match entries.filter (·.1 = idField) with
    | [(_, .string id)] => some ⟨id, .ofList (entries.filter (·.1 ≠ idField))⟩
    | _ => none
  | _ => none

def ofText? (text : String) : Option Alarm :=
  Document.ofText? text >>= ofDocument? Document.maxDepth

end Alarm

structure AlarmService (m : Type → Type) where
  /-- Stores an alarm with the given fields under a new id. -/
  create : (payload : Fields) → Attempt m Alarm
  /-- Writes the changed fields over those of an alarm. -/
  update : (id : String) → (changes : Fields) → Attempt m Unit
  delete : (id : String) → Attempt m Unit
  get : (id : String) → Attempt m Alarm

namespace AlarmService

variable {m n : Type → Type}

/-- The same service in another monad. -/
def hoist (f : {α : Type} → m α → n α) (service : AlarmService m) : AlarmService n where
  create payload := (service.create payload).hoist f
  update id changes := (service.update id changes).hoist f
  delete id := (service.delete id).hoist f
  get id := (service.get id).hoist f

/-- The operations of a service, as names. -/
inductive Operation where
  | create | update | delete | get
  deriving DecidableEq

/-- The service with a guard in front, which may fail an operation before it is begun. -/
def guarded [Monad m] (fault? : Operation → m (Option Failure)) (service : AlarmService m) :
    AlarmService m :=
  let check (operation : Operation) : Attempt m Unit := ExceptT.mk do
    match ← fault? operation with
    | some failure => pure (.error failure)
    | none => pure (.ok ())
  { create payload := do check .create; service.create payload
    update id changes := do check .update; service.update id changes
    delete id := do check .delete; service.delete id
    get id := do check .get; service.get id }

end AlarmService

end MeteringAlarms
