import MeteringAlarms.Proofs.Adapter.Suspension
import MeteringAlarms.Proofs.Remote.FlatForm

/-!
# The id under updates

The id of an alarm stands beside its fields in one object, and no name of a field is reserved for
it.  An update that names the id as it would name a field is sent like any other: the object that it
writes then has two ids, and the service in memory shows the one that was given last.  Updates that
do not name it leave every alarm with its one id.
-/

namespace MeteringAlarms

open Alarm

/-! ## Ids in documents -/

/-- Every id among the members of an object. -/
def Alarm.ids (members : List (String × Json)) : List Json :=
  (members.filter (·.1 = idField)).map Prod.snd

theorem Alarm.ids_members (alarm : Alarm) :
    ids alarm.members = .string alarm.id :: (alarm.fields.get? idField).toList := by
  rw [ids, filter_members, List.map_cons, List.map_map]
  exact congrArg _ (List.map_id' _)

/-- What an alarm is written as can be read as that alarm again just if there is room for it and the
id stands in it once. -/
theorem Alarm.exists_ofDocument?_toJson_iff (alarm : Alarm) (room : Nat) :
    (∃ fields, ofDocument? room (.ofJson alarm.toJson) = some ⟨alarm.id, fields⟩) ↔
      alarm.toJson.depth ≤ room ∧ alarm.fields.get? idField = none := by
  rw [toJson, ofDocument?_ofJson, ofMembers?, Json.filter_normalEntries, filter_members]
  by_cases hroom : (Json.object alarm.members).depth ≤ room
  · rw [if_pos hroom, and_iff_right hroom]
    cases alarm.fields.get? idField with
    | none => exact iff_of_true ⟨_, rfl⟩ rfl
    | some value =>
      refine iff_of_false ?_ (Option.some_ne_none value)
      rintro ⟨fields, ⟨⟩⟩
  · rw [if_neg hroom]
    refine iff_of_false ?_ fun h ↦ hroom h.1
    rintro ⟨fields, ⟨⟩⟩

/-- An alarm that was read has no second id. -/
theorem Alarm.get?_idField_fields_of_ofText? {text : String} {alarm : Alarm}
    (h : ofText? text = some alarm) : alarm.fields.get? idField = none := by
  obtain ⟨document, -, h⟩ := Option.bind_eq_some_iff.1 h
  cases document with
  | object members =>
    rw [ofDocument?, if_neg (by decide)] at h
    obtain ⟨entries, -, h⟩ := Option.bind_eq_some_iff.1 h
    split at h
    · cases h
      rw [Option.eq_none_iff_forall_ne_some]
      intro value hvalue
      have hmem := OrderedMap.mem_of_mem_ofList (OrderedMap.get?_eq_some_iff.1 hvalue)
      exact absurd rfl (of_decide_eq_true (List.mem_filter.1 hmem).2)
    · cases h
  | _ => cases h

/-! ## Updates of the remote service -/

/-- An update of a resource with an alarm is the update of the alarm, and the handle is kept. -/
theorem LifecycleEvent.run_update (services : Services Dialogue) (type : ResourceType)
    (context : Context) (now : Timestamp) {handle : Handle} {id : String} {changes : Fields}
    (hid : handle.alarmId? = some id) (hchanges : changes.isEmpty = false) :
    ((update changes).handle type services context now).run.run handle =
      (services.alarms.update id (type.changePayload context changes)).run.bind fun outcome ↦
        .done (outcome, handle) := by
  obtain ⟨_, state⟩ := handle
  cases hid
  cases type with
  | threshold =>
    rw [LifecycleEvent.handle, ThresholdAlarm.update, hchanges]
    rfl
  | combination =>
    rw [LifecycleEvent.handle, CombinationAlarm.update, hchanges]
    rfl

/-- What is written of an alarm after an update has the id that was read and the one that the
changes give, if they give one. -/
theorem Alarm.get?_idField_merge {fields : Fields} (hfree : fields.get? idField = none)
    (type : ResourceType) (context : Context) (changes : Fields) :
    (AlarmDocument.merge fields (AlarmDocument.ofFlat (type.changePayload context changes)
      false)).get? idField = changes.get? idField := by
  have hpayload : (type.changePayload context changes).get? idField = changes.get? idField :=
    type.get?_changePayload_of_plain context changes (by decide) (by decide) (by decide) (by decide)
  rw [AlarmDocument.get?_merge, AlarmDocument.get?_ofFlat_of_beside _ false (by decide) (by decide)
    (by decide), hpayload, hfree]
  cases changes.get? idField with
  | none => rfl
  | some value => exact congrArg some (AlarmDocument.mergedValue_none value)

/-- An update asks for the alarm and writes it back with the id that was read and the one that the
changes give, if they give one; only without the latter can what it writes be read as that alarm. -/
theorem LifecycleEvent.run_remote_update {remote : RemoteAlarms} (hsend : remote.CanSend)
    (rules : RuleStore Dialogue) (type : ResourceType) (context : Context) (now : Timestamp)
    {handle : Handle} {id : String} {changes : Fields} (hid : handle.alarmId? = some id)
    (hchanges : changes.isEmpty = false) :
    ∃ answered, ((update changes).handle type ⟨remote.service Dialogue.send, rules⟩ context
        now).run.run handle = .ask ⟨.get, remote.alarmUrl id, remote.token?, none⟩ answered ∧
      ∀ response alarm, Http.isSuccess response.status = true →
        ofText? response.body = some alarm →
        ∃ members accepted, answered (some response) =
            .ask ⟨.put, remote.alarmUrl id, remote.token?, some (.object members)⟩ accepted ∧
          ids members = .string alarm.id :: (changes.get? idField).toList ∧
          ∀ room,
            (∃ fields, ofDocument? room (.ofJson (.object members)) = some ⟨alarm.id, fields⟩) ↔
              (Json.object members).depth ≤ room ∧ changes.get? idField = none := by
  have hrun := run_update ⟨remote.service Dialogue.send, rules⟩ type context now hid hchanges
  have hupdate := RemoteAlarms.run_update id (type.changePayload context changes) hsend
  refine ⟨fun answer? ↦ (remote.afterReading id (type.changePayload context changes)
    answer?).bind fun outcome ↦ .done (outcome, handle), ?_, ?_⟩
  · rw [hrun]
    exact congrArg (Dialogue.bind · _) hupdate
  · intro response alarm hsuccess halarm
    let written : Alarm := ⟨alarm.id, AlarmDocument.merge alarm.fields
      (AlarmDocument.ofFlat (type.changePayload context changes) false)⟩
    have hsecond : written.fields.get? idField = changes.get? idField :=
      get?_idField_merge (get?_idField_fields_of_ofText? halarm) type context changes
    have hput := congrArg (Dialogue.bind · fun outcome ↦ .done (outcome, handle))
      (remote.afterReading_of_ofText? id (type.changePayload context changes) hsuccess halarm)
    refine ⟨written.members, _, hput, ?_, fun room ↦ ?_⟩
    · rw [ids_members, hsecond]
    · rw [← hsecond]
      exact written.exists_ofDocument?_toJson_iff room

/-! ## Updates of the service in memory -/

namespace AlarmMemory

/-- The service after any calls of updates, with those that succeeded, the latest first; in between
it may be switched off and on. -/
inductive Updated (start : AlarmMemory) : List (String × Fields) → AlarmMemory → Prop
  | start : Updated start [] start
  | update {done : List (String × Fields)} {memory : AlarmMemory} (id : String) (changes : Fields)
      (before : Updated start done memory) (succeeded : (memory.update id changes).1 = .ok ()) :
      Updated start ((id, changes) :: done) (memory.update id changes).2
  | failed {done : List (String × Fields)} {memory : AlarmMemory} (id : String) (changes : Fields)
      {failure : Failure} (before : Updated start done memory)
      (refused : (memory.update id changes).1 = .error failure) :
      Updated start done (memory.update id changes).2
  | switch {done : List (String × Fields)} {memory : AlarmMemory} (available : Bool)
      (before : Updated start done memory) : Updated start done (memory.setAvailable available)

/-- The id that the latest of the updates gave an alarm, if one of them gave it any. -/
def givenId? (id : String) : List (String × Fields) → Option Json
  | [] => none
  | (target, changes) :: earlier =>
    (if target = id then changes.get? idField else none).or (givenId? id earlier)

/-- Updates leave an alarm with the id that they gave it last beside the one that it is kept by. -/
theorem Updated.exists_fields {start memory : AlarmMemory} {done : List (String × Fields)}
    (h : Updated start done memory) {id : String} {fields : Fields}
    (hfields : start.alarms.get? id = some fields) :
    ∃ now, memory.alarms.get? id = some now ∧
      now.get? idField = (givenId? id done).or (fields.get? idField) := by
  induction h with
  | start => exact ⟨fields, hfields, rfl⟩
  | @update done memory target changes before succeeded ih =>
    obtain ⟨now, hnow, hid⟩ := ih
    obtain ⟨-, ⟨failure, hfailed, -⟩ | ⟨old, -, hold, halarms⟩⟩ :=
      memory.update_effect target changes
    · rw [hfailed] at succeeded
      cases succeeded
    · rw [halarms, OrderedMap.get?_insert, givenId?]
      by_cases htarget : target = id
      · have hsame : old = now := by
          rw [htarget, hnow, Option.some.injEq] at hold
          exact hold.symm
        refine ⟨old.overlay changes, if_pos htarget.symm, ?_⟩
        rw [if_pos htarget, OrderedMap.get?_overlay, hsame, hid, Option.or_assoc]
      · refine ⟨now, (if_neg (Ne.symm htarget)).trans hnow, ?_⟩
        rw [if_neg htarget, Option.none_or, hid]
  | @failed done memory target changes failure before refused ih =>
    obtain ⟨-, ⟨_, -, hsame⟩ | ⟨_, hdone, -⟩⟩ := memory.update_effect target changes
    · rw [hsame]
      exact ih
    · rw [hdone] at refused
      cases refused
  | switch available before ih => exact ih

end AlarmMemory

/-- To whatever alarm the remote service answers, an update of a resource writes the id that was
read and, after it, what the changes have under the name of the id, if they have that.  If they do,
nothing reads what was written as that alarm; if they do not, all do that have room for it.  In
memory, updates in any number leave an alarm with the id that it is kept by and, after it, what the
latest of those that succeeded gave it under the name of the id, if one did. -/
theorem LifecycleEvent.update_keeps_id_iff {remote : RemoteAlarms} (hsend : remote.CanSend)
    (rules : RuleStore Dialogue) (type : ResourceType) (context : Context) (now : Timestamp)
    {handle : Handle} {id : String} {changes : Fields} (hid : handle.alarmId? = some id)
    (hchanges : changes.isEmpty = false) :
    (∃ answered, ((update changes).handle type ⟨remote.service Dialogue.send, rules⟩ context
          now).run.run handle = .ask ⟨.get, remote.alarmUrl id, remote.token?, none⟩ answered ∧
      ∀ response alarm, Http.isSuccess response.status = true →
        ofText? response.body = some alarm →
        ∃ members accepted, answered (some response) =
            .ask ⟨.put, remote.alarmUrl id, remote.token?, some (.object members)⟩ accepted ∧
          ids members = .string alarm.id :: (changes.get? idField).toList ∧
          ∀ room,
            (∃ fields, ofDocument? room (.ofJson (.object members)) = some ⟨alarm.id, fields⟩) ↔
              (Json.object members).depth ≤ room ∧ changes.get? idField = none) ∧
    ∀ start memory done, AlarmMemory.Updated start done memory →
      ∀ key fields, start.alarms.get? key = some fields → fields.get? idField = none →
        ∃ now, memory.alarms.get? key = some now ∧
          ids (members ⟨key, now⟩) = .string key :: (AlarmMemory.givenId? key done).toList := by
  refine ⟨run_remote_update hsend rules type context now hid hchanges,
    fun start memory done hrun key fields hfields hfree ↦ ?_⟩
  obtain ⟨now, hnow, hid⟩ := hrun.exists_fields hfields
  refine ⟨now, hnow, ?_⟩
  rw [ids_members, hid, hfree, Option.or_none]

/-- A threshold is changed at the remote service, and in memory also the id. -/
theorem LifecycleEvent.update_keeps_id_iff_of_threshold :
    let remote : RemoteAlarms := ⟨"http://alarms", none⟩
    let rules : RuleStore Dialogue :=
      ⟨fun _ ↦ pure (), fun name ↦ throw (.ruleMissing name), fun name ↦ throw (.ruleMissing name)⟩
    let context : Context := ⟨"OS::Ceilometer::Alarm", "own", "stack",
      .ofList [("meter_name", .string "cpu_util"), ("threshold", .number (.int 70))], .empty⟩
    let changes : Fields := .ofList [("threshold", .number (.int 80))]
    let answer : Http.Response :=
      ⟨200, (Json.ofEntries [("alarm_id", .string "a"), ("name", .string "own")]).compact⟩
    let start : AlarmMemory := { alarms := .ofList [("a", .ofList [("name", .string "own")])] }
    let given : Fields := .ofList [("alarm_id", .string "other")]
    remote.CanSend ∧ changes.isEmpty = false ∧
    (∃ answered members accepted, ((update changes).handle .threshold
        ⟨remote.service Dialogue.send, rules⟩ context ⟨0, 0⟩).run.run (.attached "a") =
          .ask ⟨.get, remote.alarmUrl "a", remote.token?, none⟩ answered ∧
      answered (some answer) =
        .ask ⟨.put, remote.alarmUrl "a", remote.token?, some (.object members)⟩ accepted ∧
      ids members = [.string "a"]) ∧
    ∃ fields, ((start.update "a" given).2.update "a" changes).2.alarms.get? "a" = some fields ∧
      ids (members ⟨"a", fields⟩) = [.string "a", .string "other"] := by
  intro remote rules context changes answer start given
  have hsend : remote.CanSend := by decide +kernel
  have hchanges : changes.isEmpty = false := by decide +kernel
  have hfree : changes.get? idField = none := by decide +kernel
  have halarm : (ofText? answer.body).map (·.id) = some "a" := by decide +kernel
  have hgiven : AlarmMemory.givenId? "a" [("a", changes), ("a", given)] =
      some (.string "other") := by
    decide +kernel
  obtain ⟨⟨answered, hrun, hupdate⟩, hmemory⟩ := update_keeps_id_iff hsend rules .threshold context
    ⟨0, 0⟩ (rfl : (Handle.attached "a").alarmId? = some "a") hchanges
  refine ⟨hsend, hchanges, ?_, ?_⟩
  · obtain ⟨alarm, halarm, hid⟩ := Option.map_eq_some_iff.1 halarm
    obtain ⟨members, accepted, hput, hids, -⟩ := hupdate answer alarm rfl halarm
    rw [hid, hfree] at hids
    exact ⟨answered, members, accepted, hrun, hput, hids⟩
  · have hdone : AlarmMemory.Updated start [("a", changes), ("a", given)]
        ((start.update "a" given).2.update "a" changes).2 :=
      .update "a" changes (.update "a" given .start (by decide +kernel)) (by decide +kernel)
    obtain ⟨fields, hfields, hids⟩ := hmemory start _ _ hdone "a" _ rfl (by decide +kernel)
    rw [hgiven] at hids
    exact ⟨fields, hfields, hids⟩

/-- An update that names the id: what is put to the remote service has two ids and cannot be read as
an alarm, and in memory the alarm of the resource is shown under an id that it does not have. -/
theorem LifecycleEvent.updated_alarm_has_other_id :
    let remote : RemoteAlarms := ⟨"http://alarms", none⟩
    let rules : RuleStore Dialogue :=
      ⟨fun _ ↦ pure (), fun name ↦ throw (.ruleMissing name), fun name ↦ throw (.ruleMissing name)⟩
    let context : Context := ⟨"OS::Ceilometer::Alarm", "own", "stack",
      .ofList [("meter_name", .string "cpu_util"), ("threshold", .number (.int 70))], .empty⟩
    let changes : Fields := .ofList [("alarm_id", .string "other")]
    let now : Timestamp := ⟨0, 0⟩
    let answer : Http.Response :=
      ⟨200, (Json.ofEntries [("alarm_id", .string "a"), ("name", .string "own")]).compact⟩
    let newId (n : Nat) := String.ofList (List.replicate n 'a')
    let start : Moment (AlarmMemory × RuleBook) := ⟨[], ⟨.threshold, context, {}⟩, {}, .empty⟩
    let moment := (start.after (.inMemory newId) now .create).after (.inMemory newId) now
      (.update changes)
    (∃ answered members accepted, ((update changes).handle .threshold
        ⟨remote.service Dialogue.send, rules⟩ context now).run.run (.attached "a") =
          .ask ⟨.get, remote.alarmUrl "a", remote.token?, none⟩ answered ∧
      answered (some answer) =
        .ask ⟨.put, remote.alarmUrl "a", remote.token?, some (.object members)⟩ accepted ∧
      ids members = [.string "a", .string "other"] ∧
      ¬∃ room fields, ofDocument? room (.ofJson (.object members)) = some ⟨"a", fields⟩) ∧
    (∀ entry ∈ moment.history, entry.2 = .ok ()) ∧
    ∃ fields, moment.world.1.alarms.get? (newId 0) = some fields ∧
      (OrderedMap.ofList (members ⟨newId 0, fields⟩)).get? idField = some (.string "other") ∧
      newId 0 ≠ "other" := by
  intro remote rules context changes now answer newId start moment
  have hsend : remote.CanSend := by decide +kernel
  have hgiven : changes.get? idField = some (.string "other") := by decide +kernel
  have halarm : (ofText? answer.body).map (·.id) = some "a" := by decide +kernel
  have hstored : ((moment.world.1.alarms.get? (newId 0)).bind fun fields ↦
      (OrderedMap.ofList (members ⟨newId 0, fields⟩)).get? idField) = some (.string "other") := by
    decide +kernel
  refine ⟨?_, by decide +kernel, _, rfl, hstored, by decide⟩
  obtain ⟨answered, hrun, hupdate⟩ := run_remote_update hsend rules .threshold context now
    (rfl : (Handle.attached "a").alarmId? = some "a") (by decide +kernel : changes.isEmpty = false)
  obtain ⟨alarm, halarm, hid⟩ := Option.map_eq_some_iff.1 halarm
  obtain ⟨members, accepted, hput, hids, hread⟩ := hupdate answer alarm rfl halarm
  rw [hid, hgiven] at hids
  refine ⟨answered, members, accepted, hrun, hput, hids, ?_⟩
  rintro ⟨room, fields, hfields⟩
  rw [hid, hgiven] at hread
  exact Option.some_ne_none _ ((hread room).1 ⟨fields, hfields⟩).2

end MeteringAlarms
