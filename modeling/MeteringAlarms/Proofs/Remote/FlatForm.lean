import MeteringAlarms.Proofs.Json.Depth
import MeteringAlarms.Proofs.Remote.Dialogue

/-!
# The flat form of an alarm

An alarm is written as one object, the id first and the fields after it, and it is read from any
object that has one id, which is a string.  Reading splits the id off and writing puts it back, so
neither loses anything, whatever the other members are.  An update that changes nothing therefore
puts the document back as it was read.
-/

namespace MeteringAlarms

namespace Alarm

/-! ## The id among the members -/

/-- The alarm that the members of an object describe. -/
def ofMembers? (members : List (String × Json)) : Option Alarm :=
  match members.filter (·.1 = idField) with
  | [(_, .string id)] => some ⟨id, .ofList (members.filter (·.1 ≠ idField))⟩
  | _ => none

/-- An object is read as its members are, if there is room for it. -/
theorem ofDocument?_ofJson (entries : List (String × Json)) (room : Nat) :
    ofDocument? room (.ofJson (.object entries)) =
      if (Json.object entries).depth ≤ room then ofMembers? (Json.normalEntries entries)
      else none := by
  cases room with
  | zero => rfl
  | succ room =>
    rw [Document.ofJson, ofDocument?, if_neg (Nat.succ_ne_zero room), Nat.add_sub_cancel,
      Document.membersToJson?_ofEntries, Json.depth]
    by_cases hdepth : Json.depthEntries entries ≤ room
    · rw [if_pos hdepth, if_pos (Nat.succ_le_succ hdepth)]
      rfl
    · rw [if_neg hdepth, if_neg fun h ↦ hdepth (Nat.le_of_succ_le_succ h)]
      rfl

/-- The id is written first, and a field of its name comes after it. -/
theorem filter_members (alarm : Alarm) :
    alarm.members.filter (·.1 = idField) =
      (idField, .string alarm.id) :: (alarm.fields.get? idField).toList.map (idField, ·) := by
  rw [members, List.filter_cons, if_pos (decide_eq_true rfl), OrderedMap.filter_entries]

theorem filter_members_ne (alarm : Alarm) :
    alarm.members.filter (·.1 ≠ idField) = (alarm.fields.erase idField).entries := by
  rw [members, List.filter_cons, if_neg (by simp), OrderedMap.filter_entries_ne]

theorem ofMembers?_members {alarm : Alarm} (h : alarm.fields.get? idField = none) :
    ofMembers? alarm.members = some alarm := by
  rw [ofMembers?, filter_members, filter_members_ne, h, OrderedMap.erase_of_get?_eq_none h,
    OrderedMap.ofList_entries]
  rfl

theorem ofMembers?_entries (object : Fields) :
    ofMembers? object.entries =
      ((object.get? idField).bind Json.string?).map (⟨·, object.erase idField⟩) := by
  rw [ofMembers?, OrderedMap.filter_entries, OrderedMap.filter_entries_ne,
    OrderedMap.ofList_entries]
  cases object.get? idField with
  | none => rfl
  | some value => cases value <;> rfl

/-- An alarm that is read from an object is written as that object. -/
theorem perm_members {object : Fields} {id : String}
    (h : object.get? idField = some (.string id)) :
    (members ⟨id, object.erase idField⟩).Perm object.entries := by
  have hmembers : members ⟨id, object.erase idField⟩ =
      object.entries.filter (·.1 = idField) ++ object.entries.filter (·.1 ≠ idField) := by
    rw [OrderedMap.filter_entries, OrderedMap.filter_entries_ne, h]
    rfl
  simp only [hmembers, ne_eq, decide_not]
  exact List.filter_append_perm _ object.entries

theorem document_eq_ofFields {object : Fields} {id : String}
    (h : object.get? idField = some (.string id)) :
    document ⟨id, object.erase idField⟩ = .ofFields object := by
  have hfree : (object.erase idField).get? idField = none := by
    rw [OrderedMap.get?_erase, if_pos rfl]
  rw [document, Json.ofEntries, ofList_members id hfree, OrderedMap.insert_erase_of_get?_eq_some h]

/-! ## Reading and writing -/

/-- An alarm is read from the object that it is written as. -/
theorem ofDocument?_toJson {alarm : Alarm} (hfree : alarm.fields.get? idField = none)
    (hcanonical : Json.CanonicalEntries alarm.fields.entries) {room : Nat}
    (hroom : alarm.toJson.depth ≤ room) :
    ofDocument? room (.ofJson alarm.toJson) = some alarm := by
  have hmembers : Json.CanonicalEntries alarm.members := ⟨trivial, hcanonical⟩
  rw [toJson] at hroom ⊢
  rw [ofDocument?_ofJson, if_pos hroom, Json.normalEntries_of_canonical _ hmembers,
    ofMembers?_members hfree]

/-- An object is read by its id, and all its other members become fields. -/
theorem ofDocument?_ofFields {object : Fields}
    (hcanonical : Json.CanonicalEntries object.entries) {room : Nat}
    (hroom : (Json.ofFields object).depth ≤ room) :
    ofDocument? room (.ofJson (.ofFields object)) =
      ((object.get? idField).bind Json.string?).map (⟨·, object.erase idField⟩) := by
  rw [Json.ofFields] at hroom ⊢
  rw [ofDocument?_ofJson, if_pos hroom, Json.normalEntries_of_canonical _ hcanonical,
    ofMembers?_entries]

theorem ofDocument?_ofFields_eq_some_iff {object : Fields}
    (hcanonical : Json.CanonicalEntries object.entries) {room : Nat}
    (hroom : (Json.ofFields object).depth ≤ room) (alarm : Alarm) :
    ofDocument? room (.ofJson (.ofFields object)) = some alarm ↔
      ∃ id, object.get? idField = some (.string id) ∧ alarm = ⟨id, object.erase idField⟩ := by
  rw [ofDocument?_ofFields hcanonical hroom]
  cases object.get? idField with
  | none => simp
  | some value => cases value <;> simp [Json.string?, eq_comm]

end Alarm

namespace RemoteAlarms

variable {remote : RemoteAlarms}

/-- An update of nothing writes all that it read, and nothing else. -/
theorem rewriting_empty (id : String) {document : Fields} {name : String}
    (hname : document.get? Alarm.idField = some (.string name)) :
    ∃ members accepted, remote.rewriting id .empty ⟨name, document.erase Alarm.idField⟩ =
        .ask ⟨.put, remote.alarmUrl id, remote.token?, some (.object members)⟩ accepted ∧
      members.Perm document.entries := by
  refine ⟨_, _, rfl, ?_⟩
  have hnothing : AlarmDocument.ofFlat .empty false = .empty :=
    AlarmDocument.ofFlat_of_free fun key _ ↦ OrderedMap.get?_empty key
  rw [hnothing]
  exact Alarm.perm_members hname

/-- An alarm without a field that is named like the id is read from the object that it is written
as.  An object is read as an alarm just if it has an id that is a string, and the alarm is written
as the same object, with each of its members in it once.  So an update of nothing puts the document
that it read, whatever fields that has.  Values are canonical here, as all are that were ever read,
and to read a value takes as much room as it is deep. -/
theorem flat_form_round_trips (hsend : remote.CanSend) (id : String) :
    (∀ (alarm : Alarm) (room : Nat), alarm.fields.get? Alarm.idField = none →
      Json.CanonicalEntries alarm.fields.entries → alarm.toJson.depth ≤ room →
      Alarm.ofDocument? room (.ofJson alarm.toJson) = some alarm) ∧
    (∀ (object : Fields) (room : Nat), Json.CanonicalEntries object.entries →
      (Json.ofFields object).depth ≤ room →
      ((Alarm.ofDocument? room (.ofJson (.ofFields object))).isSome ↔
        ∃ name, object.get? Alarm.idField = some (.string name)) ∧
      ∀ alarm, Alarm.ofDocument? room (.ofJson (.ofFields object)) = some alarm →
        alarm.members.Perm object.entries ∧ alarm.document = .ofFields object) ∧
    ∃ answered, (remote.update Dialogue.send id .empty).run =
        .ask ⟨.get, remote.alarmUrl id, remote.token?, none⟩ answered ∧
      ∀ response document, Http.isSuccess response.status = true →
        Alarm.IsFetched response.body document →
        ∃ members accepted, answered (some response) =
            .ask ⟨.put, remote.alarmUrl id, remote.token?, some (.object members)⟩ accepted ∧
          members.Perm document.entries := by
  refine ⟨fun alarm room hfree hcanonical hroom ↦ Alarm.ofDocument?_toJson hfree hcanonical hroom,
    fun object room hcanonical hroom ↦ ?_, remote.afterReading id .empty,
    run_update id .empty hsend, fun response document hsuccess hfetched ↦ ?_⟩
  · have hread := Alarm.ofDocument?_ofFields_eq_some_iff hcanonical hroom
    refine ⟨?_, fun alarm halarm ↦ ?_⟩
    · rw [Option.isSome_iff_exists]
      constructor
      · rintro ⟨alarm, halarm⟩
        obtain ⟨name, hname, -⟩ := (hread alarm).1 halarm
        exact ⟨name, hname⟩
      · rintro ⟨name, hname⟩
        exact ⟨_, (hread _).2 ⟨name, hname, rfl⟩⟩
    · obtain ⟨name, hname, rfl⟩ := (hread alarm).1 halarm
      exact ⟨Alarm.perm_members hname, Alarm.document_eq_ofFields hname⟩
  · obtain ⟨name, hname, hput⟩ :=
      exists_rewriting_of_isFetched id remote .empty hsuccess hfetched
    rw [hput]
    exact rewriting_empty id hname

/-- An alarm with a severity, which nothing here knows, and a rule of which only one field is. -/
theorem flat_form_round_trips_of_severity :
    let remote : RemoteAlarms := ⟨"http://alarms", none⟩
    let document : Fields := .ofList [("alarm_id", .string "a"), ("severity", .string "low"),
      ("threshold_rule",
        .ofEntries [("exclude_outliers", .bool true), ("period", .number (.int 60))])]
    let alarm : Alarm := ⟨"a", document.erase Alarm.idField⟩
    let answer : Http.Response := ⟨200, (Json.ofFields document).compact⟩
    remote.CanSend ∧ alarm.fields.get? Alarm.idField = none ∧
    Alarm.ofDocument? 3 (.ofJson alarm.toJson) = some alarm ∧
    Alarm.ofDocument? 3 (.ofJson (.ofFields document)) = some alarm ∧
    alarm.document = .ofFields document ∧
    Alarm.IsFetched answer.body document ∧
    ∃ answered members accepted, (remote.update Dialogue.send "a" .empty).run =
        .ask ⟨.get, remote.alarmUrl "a", remote.token?, none⟩ answered ∧
      answered (some answer) =
        .ask ⟨.put, remote.alarmUrl "a", remote.token?, some (.object members)⟩ accepted ∧
      members.Perm document.entries := by
  intro remote document alarm answer
  have hsend : remote.CanSend := by decide +kernel
  have hfree : alarm.fields.get? Alarm.idField = none := by decide +kernel
  have hname : document.get? Alarm.idField = some (.string "a") := by decide +kernel
  have hcanonical : (Json.ofFields document).Canonical := by decide +kernel
  have hfields : (Json.ofFields alarm.fields).Canonical := by decide +kernel
  have hfetched : Alarm.IsFetched answer.body document :=
    ⟨document.entries, "a", by decide +kernel, by decide +kernel,
      OrderedMap.ofList_entries document⟩
  obtain ⟨hwritten, hread, answered, hrun, hupdate⟩ := flat_form_round_trips hsend "a"
  obtain ⟨-, hdocument⟩ := hread document 3 hcanonical.2 (by decide +kernel)
  have halarm : Alarm.ofDocument? 3 (.ofJson (.ofFields document)) = some alarm :=
    Alarm.ofDocument?_ofFields hcanonical.2 (by decide +kernel)
  obtain ⟨members, accepted, hput, hmembers⟩ := hupdate answer document rfl hfetched
  exact ⟨hsend, hfree, hwritten alarm 3 hfree hfields.2 (by decide +kernel), halarm,
    (hdocument alarm halarm).2, hfetched, answered, members, accepted, hrun, hput, hmembers⟩

end RemoteAlarms

end MeteringAlarms
