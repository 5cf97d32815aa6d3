import MeteringAlarms.Alarm.Basic

/-!
# An alarm service in memory

Alarms are kept by id, every call that changes alarms is journaled, and the service can be switched
off, after which each call fails before it does anything. Ids come from a supply of names; the
service never returns to an earlier one.
-/

namespace MeteringAlarms

/-- A call that reached the service. -/
inductive AlarmCall where
  | create (payload : Fields)
  | update (id : String) (changes : Fields)
  | delete (id : String)

structure AlarmMemory where
  /-- The fields of each stored alarm. -/
  alarms : OrderedMap Fields := .empty
  /-- The calls so far, the latest first. -/
  journal : List AlarmCall := []
  unavailable : Bool := false
  /-- How many ids were handed out. -/
  issued : Nat := 0

namespace AlarmMemory

instance : Inhabited AlarmMemory := ⟨{}⟩

def refusal : Failure := .refused 503 "alarm service unavailable"

def record (call : AlarmCall) (memory : AlarmMemory) : AlarmMemory :=
  { memory with journal := call :: memory.journal }

def create (newId : Nat → String) (payload : Fields) (memory : AlarmMemory) :
    Except Failure Alarm × AlarmMemory :=
  if memory.unavailable then (.error refusal, memory)
  else
    let id := newId memory.issued
    (.ok ⟨id, payload⟩,
      { memory.record (.create payload) with
        alarms := memory.alarms.insert id payload
        issued := memory.issued + 1 })

def update (id : String) (changes : Fields) (memory : AlarmMemory) :
    Except Failure Unit × AlarmMemory :=
  if memory.unavailable then (.error refusal, memory)
  else
    let memory := memory.record (.update id changes)
    match memory.alarms.get? id with
    | some fields =>
      (.ok (), { memory with alarms := memory.alarms.insert id (fields.overlay changes) })
    | none => (.error (.alarmMissing id), memory)

def delete (id : String) (memory : AlarmMemory) : Except Failure Unit × AlarmMemory :=
  if memory.unavailable then (.error refusal, memory)
  else
    let memory := memory.record (.delete id)
    if memory.alarms.contains id then (.ok (), { memory with alarms := memory.alarms.erase id })
    else (.error (.alarmMissing id), memory)

def get (id : String) (memory : AlarmMemory) : Except Failure Alarm × AlarmMemory :=
  if memory.unavailable then (.error refusal, memory)
  else
    match memory.alarms.get? id with
    | some fields => (.ok ⟨id, fields⟩, memory)
    | none => (.error (.alarmMissing id), memory)

/-- Removes an alarm without a call; tells whether it was there. -/
def removeSilently (id : String) (memory : AlarmMemory) : Bool × AlarmMemory :=
  (memory.alarms.contains id, { memory with alarms := memory.alarms.erase id })

/-- The service, with `newId n` as the id of its `n`-th alarm from zero. -/
def service (newId : Nat → String) : AlarmService (StateM AlarmMemory) where
  create payload := .ofStep (create newId payload)
  update id changes := .ofStep (update id changes)
  delete id := .ofStep (delete id)
  get id := .ofStep (get id)

end AlarmMemory

end MeteringAlarms
