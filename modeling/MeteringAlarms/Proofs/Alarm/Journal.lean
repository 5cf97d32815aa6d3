import MeteringAlarms.Proofs.Alarm.Memory

/-!
# The journal of the alarm service in memory

The journal and the alarms are written apart: a call is journaled as soon as it has reached the
service, before it is known whether the alarm is there.  The two tell the same story all the same.
The journal lists the calls that were made while the service was on, gets excepted, and going
through it once more with the ids that were given out leads to the alarms that are stored.
-/

namespace MeteringAlarms

/-- A call to the service in memory, or a turn of its switch. -/
inductive MemoryCall where
  | create (payload : Fields)
  | update (id : String) (changes : Fields)
  | delete (id : String)
  | get (id : String)
  | setAvailable (available : Bool)

namespace MemoryCall

/-- The entry that a call makes in the journal if it reaches the service. -/
def journaled? : MemoryCall → Option AlarmCall
  | .create payload => some (.create payload)
  | .update id changes => some (.update id changes)
  | .delete id => some (.delete id)
  | .get _ | .setAvailable _ => none

/-- The service is on after some calls, the latest first. -/
def isUp : List MemoryCall → Bool
  | [] => true
  | .setAvailable available :: _ => available
  | _ :: earlier => isUp earlier

/-- The entries of the calls that were made while the service was on, the latest first. -/
def entries : List MemoryCall → List AlarmCall
  | [] => []
  | call :: earlier => (if isUp earlier then call.journaled?.toList else []) ++ entries earlier

/-- Only its switch turns the service on or off. -/
theorem isUp_cons {call : MemoryCall} (h : ∀ available, call ≠ .setAvailable available)
    (earlier : List MemoryCall) : isUp (call :: earlier) = isUp earlier := by
  cases call with
  | setAvailable available => exact absurd rfl (h available)
  | _ => rfl

end MemoryCall

/-- The alarms after the calls of a journal, given the ids of the alarms that it creates; both have
the latest first. -/
def AlarmCall.replay : (ids : List String) → List AlarmCall → OrderedMap Fields
  | _, [] => .empty
  | id :: ids, .create payload :: earlier => (replay ids earlier).insert id payload
  | [], .create _ :: earlier => replay [] earlier
  | ids, .update id changes :: earlier =>
    let alarms := replay ids earlier
    match alarms.get? id with
    | some fields => alarms.insert id (fields.overlay changes)
    | none => alarms
  | ids, .delete id :: earlier => (replay ids earlier).erase id

namespace AlarmMemory

variable (newId : Nat → String)

/-- Makes a call; the outcome has the alarm that is answered, if one is. -/
def perform (memory : AlarmMemory) : MemoryCall → Except Failure (Option Alarm) × AlarmMemory
  | .create payload =>
    let (outcome, memory) := memory.create newId payload
    (outcome.map some, memory)
  | .update id changes =>
    let (outcome, memory) := memory.update id changes
    (outcome.map fun _ ↦ none, memory)
  | .delete id =>
    let (outcome, memory) := memory.delete id
    (outcome.map fun _ ↦ none, memory)
  | .get id =>
    let (outcome, memory) := memory.get id
    (outcome.map some, memory)
  | .setAvailable available => (.ok none, memory.setAvailable available)

/-- A call and its outcome. -/
structure Exchange where
  call : MemoryCall
  outcome : Except Failure (Option Alarm)

/-- The id that an exchange gave out. -/
def Exchange.newId? : Exchange → Option String
  | ⟨.create _, .ok (some alarm)⟩ => some alarm.id
  | _ => none

/-- A new service after some calls, and the exchanges with it; both lists have the latest first. -/
def after : List MemoryCall → List Exchange × AlarmMemory
  | [] => ([], {})
  | call :: earlier =>
    let (exchanges, memory) := after earlier
    let (outcome, memory) := memory.perform newId call
    (⟨call, outcome⟩ :: exchanges, memory)

/-- The journal has the calls that were made while the service was on, and tells the alarms. -/
structure IsToldBy (memory : AlarmMemory) (calls : List MemoryCall) (exchanges : List Exchange) :
    Prop where
  switch : memory.unavailable = !MemoryCall.isUp calls
  journal : memory.journal = MemoryCall.entries calls
  alarms : memory.alarms = AlarmCall.replay (exchanges.filterMap Exchange.newId?) memory.journal

/-- While the service is off a call is refused and changes nothing, unless it is to the switch. -/
theorem perform_of_unavailable {memory : AlarmMemory} (hdown : memory.unavailable = true)
    (call : MemoryCall) :
    memory.perform newId call = (.error refusal, memory) ∨
      ∃ available, call = .setAvailable available := by
  cases call with
  | create payload => exact Or.inl (by simp [perform, create, hdown, Except.map])
  | update id changes => exact Or.inl (by simp [perform, update, hdown, Except.map])
  | delete id => exact Or.inl (by simp [perform, delete, hdown, Except.map])
  | get id => exact Or.inl (by simp [perform, get, hdown, Except.map])
  | setAvailable available => exact Or.inr ⟨available, rfl⟩

theorem snd_get (id : String) (memory : AlarmMemory) : (memory.get id).2 = memory := by
  rw [get]
  split
  · rfl
  · split <;> rfl

namespace IsToldBy

variable {memory next : AlarmMemory} {calls : List MemoryCall} {exchanges : List Exchange}
  {call : MemoryCall} {outcome : Except Failure (Option Alarm)}

/-- A call that leaves everything as it is makes no entry and gives no id. -/
theorem unchanged (h : memory.IsToldBy calls exchanges)
    (hcall : ∀ available, call ≠ .setAvailable available)
    (hentry : MemoryCall.isUp calls = true → call.journaled? = none)
    (houtcome : Exchange.newId? ⟨call, outcome⟩ = none) :
    memory.IsToldBy (call :: calls) (⟨call, outcome⟩ :: exchanges) := by
  refine ⟨?_, ?_, ?_⟩
  · rw [MemoryCall.isUp_cons hcall, h.switch]
  · rw [h.journal, MemoryCall.entries]
    split
    · rename_i hup
      rw [hentry hup]
      rfl
    · rfl
  · rw [List.filterMap_cons_none houtcome, h.alarms]

/-- A call that is journaled has the effect that its entry is replayed with. -/
theorem journaled (h : memory.IsToldBy calls exchanges) (hon : memory.unavailable = false)
    {entry : AlarmCall} (hentry : call.journaled? = some entry)
    (hcall : ∀ available, call ≠ .setAvailable available)
    (hswitch : next.unavailable = memory.unavailable)
    (hjournal : next.journal = entry :: memory.journal)
    (halarms : next.alarms = AlarmCall.replay
      ((⟨call, outcome⟩ :: exchanges).filterMap Exchange.newId?) (entry :: memory.journal)) :
    next.IsToldBy (call :: calls) (⟨call, outcome⟩ :: exchanges) := by
  have hup : MemoryCall.isUp calls = true := by
    rw [← Bool.not_eq_false', ← h.switch, hon]
  refine ⟨?_, ?_, ?_⟩
  · rw [MemoryCall.isUp_cons hcall, hswitch, h.switch]
  · rw [hjournal, h.journal, MemoryCall.entries, if_pos hup, hentry]
    rfl
  · rw [halarms, hjournal]

theorem perform (h : memory.IsToldBy calls exchanges) (call : MemoryCall) :
    (memory.perform newId call).2.IsToldBy (call :: calls)
      (⟨call, (memory.perform newId call).1⟩ :: exchanges) := by
  have hreplay := h.alarms
  have hoff (hdown : memory.unavailable = true) : MemoryCall.isUp calls = false := by
    rw [← Bool.not_eq_true', ← h.switch, hdown]
  cases call with
  | create payload =>
    rw [AlarmMemory.perform]
    rcases memory.create_cases newId payload with ⟨hdown, hstep⟩ | ⟨hon, hstep⟩
    · rw [hstep]
      exact h.unchanged nofun (by simp [hoff hdown]) rfl
    · rw [hstep]
      refine h.journaled hon rfl nofun rfl rfl ?_
      exact congrArg (OrderedMap.insert · (newId memory.issued) payload) hreplay
  | update id changes =>
    rw [AlarmMemory.perform]
    rcases memory.update_cases id changes with
      ⟨hdown, hstep⟩ | ⟨hon, hmissing, hstep⟩ | ⟨hon, fields, hfields, hstep⟩
    · rw [hstep]
      exact h.unchanged nofun (by simp [hoff hdown]) rfl
    · rw [hstep]
      refine h.journaled hon rfl nofun rfl rfl ?_
      rw [List.filterMap_cons_none rfl, AlarmCall.replay, ← hreplay, hmissing]
      rfl
    · rw [hstep]
      refine h.journaled hon rfl nofun rfl rfl ?_
      rw [List.filterMap_cons_none rfl, AlarmCall.replay, ← hreplay, hfields]
  | delete id =>
    rw [AlarmMemory.perform]
    rcases memory.delete_cases id with
      ⟨hdown, hstep⟩ | ⟨hon, hmissing, hstep⟩ | ⟨hon, _, hstep⟩
    · rw [hstep]
      exact h.unchanged nofun (by simp [hoff hdown]) rfl
    · rw [hstep]
      refine h.journaled hon rfl nofun rfl rfl ?_
      rw [List.filterMap_cons_none rfl, AlarmCall.replay, ← hreplay]
      exact (OrderedMap.erase_of_get?_eq_none hmissing).symm
    · rw [hstep]
      refine h.journaled hon rfl nofun rfl rfl ?_
      rw [List.filterMap_cons_none rfl, AlarmCall.replay, ← hreplay]
  | get id =>
    rw [AlarmMemory.perform]
    dsimp only
    rw [snd_get]
    exact h.unchanged nofun (fun _ ↦ rfl) rfl
  | setAvailable available =>
    refine ⟨rfl, ?_, hreplay⟩
    rw [MemoryCall.entries]
    split <;> exact h.journal

end IsToldBy

theorem isToldBy_after (calls : List MemoryCall) :
    (after newId calls).2.IsToldBy calls (after newId calls).1 := by
  induction calls with
  | nil => exact ⟨rfl, rfl, rfl⟩
  | cons call earlier ih => exact ih.perform newId call

/-- Whatever calls are made to a new service: the journal has each of them that was made while the
service was on, gets excepted, once and in order, whether or not the alarm was there, and going
through it again with the ids that were given out gives the alarms that are stored.  While the
service is off, calls are refused, and nothing comes to the journal or to the alarms. -/
theorem replay_journal_eq_alarms (calls : List MemoryCall) :
    let (exchanges, memory) := after newId calls
    AlarmCall.replay (exchanges.filterMap Exchange.newId?) memory.journal = memory.alarms ∧
    memory.journal = MemoryCall.entries calls ∧
    (MemoryCall.isUp calls = false → ∀ call,
      (memory.perform newId call = (.error refusal, memory) ∨
        ∃ available, call = .setAvailable available) ∧
      (memory.perform newId call).2.journal = memory.journal ∧
      (memory.perform newId call).2.alarms = memory.alarms) := by
  have h := isToldBy_after newId calls
  refine ⟨h.alarms.symm, h.journal, fun hoff call ↦ ?_⟩
  have hdown : (after newId calls).2.unavailable = true := by rw [h.switch, hoff, Bool.not_false]
  rcases perform_of_unavailable newId hdown call with hstep | ⟨available, rfl⟩
  · exact ⟨Or.inl hstep, by rw [hstep], by rw [hstep]⟩
  · exact ⟨Or.inr ⟨available, rfl⟩, rfl, rfl⟩

/-- An alarm is created, another one is missed by an update, and the service is switched off before
the alarm is to be deleted. -/
theorem replay_journal_eq_alarms_of_missed_alarm :
    let newId (n : Nat) := String.ofList (List.replicate (n + 1) 'a')
    let payload : Fields := .ofList [("threshold", .number (.int 70))]
    let changes : Fields := .ofList [("enabled", .bool false)]
    let calls : List MemoryCall := [.setAvailable false, .update "b" changes, .create payload]
    let (exchanges, memory) := after newId calls
    MemoryCall.isUp calls = false ∧
    exchanges.map (·.outcome) =
      [.ok none, .error (.alarmMissing "b"), .ok (some ⟨"a", payload⟩)] ∧
    memory.journal = [.update "b" changes, .create payload] ∧
    AlarmCall.replay ["a"] memory.journal = memory.alarms ∧
    (memory.perform newId (.delete "a")).2.alarms = memory.alarms := by
  intro newId payload changes calls
  obtain ⟨hreplay, hjournal, hoff⟩ := replay_journal_eq_alarms newId calls
  exact ⟨rfl, rfl, hjournal, hreplay, (hoff rfl (.delete "a")).2.2⟩

end AlarmMemory

end MeteringAlarms
