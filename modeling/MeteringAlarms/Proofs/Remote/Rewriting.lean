import MeteringAlarms.Proofs.Alarm.Flattening
import MeteringAlarms.Proofs.Remote.Dialogue

/-!
# What an update writes back

An update puts back the whole document that it read.  Whatever that document is, the fields that the
changes name have their new values in it, those of the rule inside the rule, and everything else is
as it was read.  The document that was put back takes the same changes without being changed by
them, so an update that is repeated writes the same document once more.
-/

namespace MeteringAlarms

open PropertyName

/-! ## Documents with changes written into them -/

namespace AlarmDocument

/-- A document after flat changes were written into it, and nothing but these. -/
structure IsRewritten (document changes written : Fields) : Prop where
  /-- A field beside the rule has its new value. -/
  replaced : ∀ key value, key ∉ ruleFields → changes.get? key = some value →
    value.fields? = none ∨ (document.get? key).bind Json.fields? = none →
    written.get? key = some value
  /-- An object is written over an object by its entries. -/
  joined : ∀ key new old, key ∉ ruleFields → (changes.get? key).bind Json.fields? = some new →
    (document.get? key).bind Json.fields? = some old →
    ∃ both, written.get? key = some (.ofFields both) ∧
      ∀ name, both.get? name = (new.get? name).or (old.get? name)
  /-- If a field of the rule changes, the rule has the new values and otherwise its old ones. -/
  ruled : (∃ key ∈ ruleFields, changes.contains key = true) →
    ∃ rule, written.get? thresholdRule = some (.ofFields rule) ∧ ∀ name, rule.get? name =
      (if name = query then (changes.get? matchingMetadata).map queryOf
        else if name ∈ thresholdFields then changes.get? name else none).or
      (((document.get? thresholdRule).bind Json.fields?).bind (·.get? name))
  typed : (∃ key ∈ ruleFields, changes.contains key = true) →
    written.get? typeField = some (.string "threshold")
  unruled : (¬∃ key ∈ ruleFields, changes.contains key = true) →
    written.get? thresholdRule = document.get? thresholdRule ∧
      written.get? typeField = document.get? typeField
  kept : ∀ key, key ≠ thresholdRule → key ≠ typeField →
    (key ∈ ruleFields ∨ changes.get? key = none) → written.get? key = document.get? key

variable {document changes : Fields}

/-- A rule that is merged in has the new fields over those of an old rule, if there was one. -/
theorem exists_mergedValue_ofFields (current? : Option Json) (nested : Fields) :
    ∃ rule, mergedValue current? (.ofFields nested) = .ofFields rule ∧
      ∀ name, rule.get? name =
        (nested.get? name).or ((current?.bind Json.fields?).bind (·.get? name)) := by
  rw [mergedValue, fields?_ofFields]
  cases current?.bind Json.fields? with
  | none => exact ⟨nested, rfl, fun name ↦ (Option.or_none).symm⟩
  | some current => exact ⟨current.overlay nested, rfl, fun name ↦ OrderedMap.get?_overlay ..⟩

/-- A change beside the rule is merged into what is there. -/
theorem get?_merge_of_beside (hflat : IsFlat changes) {key : String} {value : Json}
    (hfield : key ∉ ruleFields) (hvalue : changes.get? key = some value) :
    (merge document (ofFlat changes false)).get? key =
      some (mergedValue (document.get? key) value) := by
  have hrule : key ≠ thresholdRule := by
    rintro rfl
    rw [hflat.rule] at hvalue
    cases hvalue
  have htype : key ≠ typeField := by
    rintro rfl
    rw [hflat.type] at hvalue
    cases hvalue
  rw [get?_merge, get?_ofFlat_other hflat false hrule htype, if_neg hfield, hvalue]

theorem isRewritten_merge (hflat : IsFlat changes) :
    IsRewritten document changes (merge document (ofFlat changes false)) where
  replaced key value hfield hvalue hplain := by
    rw [get?_merge_of_beside hflat hfield hvalue]
    rcases hplain with hvalue | hcurrent
    · rw [mergedValue_of_plain _ hvalue]
    · rw [mergedValue, hcurrent]
      cases value.fields? <;> rfl
  joined key new old hfield hnew hold := by
    obtain ⟨value, hvalue, hfields⟩ := Option.bind_eq_some_iff.1 hnew
    refine ⟨old.overlay new, ?_, fun name ↦ OrderedMap.get?_overlay ..⟩
    rw [get?_merge_of_beside hflat hfield hvalue, mergedValue, hfields, hold]
  ruled hruled := by
    obtain ⟨rule, hmerged, hfields⟩ :=
      exists_mergedValue_ofFields (document.get? thresholdRule) (nestedRule changes)
    refine ⟨rule, ?_, fun name ↦ ?_⟩
    · rw [get?_merge, get?_ofFlat_rule hflat, if_pos (Or.inr hruled)]
      exact congrArg some hmerged
    · rw [hfields, nestedRule, get?_ruleOf_withQuery hflat.query]
  typed hruled := by
    rw [get?_merge, get?_ofFlat_type hflat, if_pos (Or.inr hruled)]
    exact congrArg some (mergedValue_of_plain _ rfl)
  unruled hunruled := by
    have hnone : ¬(false = true ∨ ∃ key ∈ ruleFields, changes.contains key = true) := by
      rwa [or_iff_right Bool.false_ne_true]
    constructor
    · rw [get?_merge, get?_ofFlat_rule hflat, if_neg hnone]
    · rw [get?_merge, get?_ofFlat_type hflat, if_neg hnone]
  kept key hrule htype hfree := by
    rw [get?_merge, get?_ofFlat_other hflat false hrule htype]
    by_cases hfield : key ∈ ruleFields
    · rw [if_pos hfield]
    · rw [if_neg hfield, hfree.resolve_left hfield]

/-- Nothing about a document with changes written into it is left open. -/
theorem IsRewritten.eq {written other : Fields} (h : IsRewritten document changes written)
    (hother : IsRewritten document changes other) : written = other := by
  apply OrderedMap.ext_get?
  intro key
  by_cases hrule : key = thresholdRule
  · rw [hrule]
    by_cases hruled : ∃ key ∈ ruleFields, changes.contains key = true
    · obtain ⟨rule, hwritten, hfields⟩ := h.ruled hruled
      obtain ⟨otherRule, hotherWritten, hotherFields⟩ := hother.ruled hruled
      have hsame : rule = otherRule :=
        OrderedMap.ext_get? fun name ↦ (hfields name).trans (hotherFields name).symm
      rw [hwritten, hotherWritten, hsame]
    · rw [(h.unruled hruled).1, (hother.unruled hruled).1]
  by_cases htype : key = typeField
  · rw [htype]
    by_cases hruled : ∃ key ∈ ruleFields, changes.contains key = true
    · rw [h.typed hruled, hother.typed hruled]
    · rw [(h.unruled hruled).2, (hother.unruled hruled).2]
  by_cases hfield : key ∈ ruleFields
  · rw [h.kept key hrule htype (Or.inl hfield), hother.kept key hrule htype (Or.inl hfield)]
  cases hvalue : changes.get? key with
  | none => rw [h.kept key hrule htype (Or.inr hvalue), hother.kept key hrule htype (Or.inr hvalue)]
  | some value =>
    cases hnew : value.fields? with
    | none =>
      rw [h.replaced key value hfield hvalue (Or.inl hnew),
        hother.replaced key value hfield hvalue (Or.inl hnew)]
    | some new =>
      have hchange : (changes.get? key).bind Json.fields? = some new := by
        rw [hvalue, Option.bind_some, hnew]
      cases hold : (document.get? key).bind Json.fields? with
      | none =>
        rw [h.replaced key value hfield hvalue (Or.inr hold),
          hother.replaced key value hfield hvalue (Or.inr hold)]
      | some old =>
        obtain ⟨both, hwritten, hfields⟩ := h.joined key new old hfield hchange hold
        obtain ⟨otherBoth, hotherWritten, hotherFields⟩ :=
          hother.joined key new old hfield hchange hold
        have hsame : both = otherBoth :=
          OrderedMap.ext_get? fun name ↦ (hfields name).trans (hotherFields name).symm
        rw [hwritten, hotherWritten, hsame]

/-! ## Changes that are written twice -/

/-- If the value is an object, its keys are in order. -/
def IsOrdered (value : Json) : Prop :=
  ∀ nested, value.fields? = some nested → value = .ofFields nested

theorem mergedValue_mergedValue (current? : Option Json) {value : Json}
    (hordered : IsOrdered (mergedValue current? value)) :
    mergedValue (some (mergedValue current? value)) value = mergedValue current? value := by
  cases hnested : value.fields? with
  | none => rw [mergedValue_of_plain _ hnested, mergedValue_of_plain _ hnested]
  | some nested =>
    cases hcurrent : current?.bind Json.fields? with
    | none =>
      -- The new object took the place of something else, and now it is written over itself.
      have hplaced : mergedValue current? value = value := by
        rw [mergedValue, hnested, hcurrent]
      rw [hplaced] at hordered ⊢
      rw [hordered nested hnested, mergedValue_ofFields, OrderedMap.overlay_self]
    | some current =>
      have hwritten : mergedValue current? value = .ofFields (current.overlay nested) := by
        rw [mergedValue, hnested, hcurrent]
      rw [hwritten, mergedValue, hnested, Option.bind_some, fields?_ofFields]
      exact congrArg Json.ofFields (OrderedMap.overlay_overlay current nested)

/-- Changes that are merged into a document already leave it as it is. -/
theorem merge_merge (hordered : ∀ key value, (merge document changes).get? key = some value →
      IsOrdered value) :
    merge (merge document changes) changes = merge document changes := by
  apply OrderedMap.ext_get?
  intro key
  have hwritten := get?_merge document changes key
  rw [get?_merge]
  cases hvalue : changes.get? key with
  | none => rfl
  | some value =>
    rw [hvalue] at hwritten
    rw [hwritten]
    exact congrArg some (mergedValue_mergedValue _ (hordered key _ hwritten))

end AlarmDocument

/-! ## Documents that are read -/

namespace Document

/-- A document is read with the keys of its objects in order. -/
theorem isOrdered_of_toJson? {room : Nat} (document : Document) {value : Json}
    (h : document.toJson? room = some value) : AlarmDocument.IsOrdered value := by
  intro nested hnested
  cases document with
  | null | bool =>
    cases h
    cases hnested
  | number | string =>
    obtain ⟨_, -, rfl⟩ := Option.map_eq_some_iff.1 h
    cases hnested
  | array items =>
    cases room with
    | zero => cases h
    | succ room =>
      obtain ⟨values, -, rfl⟩ := Option.map_eq_some_iff.1 h
      cases hnested
  | object members =>
    cases room with
    | zero => cases h
    | succ room =>
      obtain ⟨entries, -, rfl⟩ := Option.map_eq_some_iff.1 h
      rw [Json.ofEntries, AlarmDocument.fields?_ofFields, Option.some.injEq] at hnested
      rw [Json.ofEntries, hnested]

theorem exists_of_mem_membersToJson? {room : Nat} {members : List (Option String × Document)}
    {entries : List (String × Json)} (h : membersToJson? room members = some entries)
    {entry : String × Json} (hentry : entry ∈ entries) :
    ∃ document : Document, document.toJson? room = some entry.2 := by
  induction members generalizing entries with
  | nil =>
    cases h
    cases hentry
  | cons member members ih =>
    obtain ⟨name, -, h⟩ := Option.bind_eq_some_iff.1 h
    obtain ⟨value, hvalue, h⟩ := Option.bind_eq_some_iff.1 h
    obtain ⟨values, hvalues, h⟩ := Option.bind_eq_some_iff.1 h
    cases h
    rcases List.mem_cons.1 hentry with rfl | hentry
    · exact ⟨member.2, hvalue⟩
    · exact ih hvalues hentry

theorem isOrdered_of_mem_membersOf? {text : String} {entries : List (String × Json)}
    (h : membersOf? text = some entries) {entry : String × Json} (hentry : entry ∈ entries) :
    AlarmDocument.IsOrdered entry.2 := by
  obtain ⟨members, -, hmembers⟩ := exists_of_membersOf?_eq_some h
  obtain ⟨document, hvalue⟩ := exists_of_mem_membersToJson? hmembers hentry
  exact isOrdered_of_toJson? document hvalue

end Document

namespace Alarm

theorem IsFetched.isOrdered {text : String} {document : Fields} (h : IsFetched text document)
    {key : String} {value : Json} (hvalue : document.get? key = some value) :
    AlarmDocument.IsOrdered value := by
  obtain ⟨members, name, hmembers, -, rfl⟩ := h
  have hmem := OrderedMap.mem_of_mem_ofList (OrderedMap.get?_eq_some_iff.1 hvalue)
  exact Document.isOrdered_of_mem_membersOf? hmembers hmem

/-- The id is written once if no other field has its name. -/
theorem nodup_keys_members (id : String) {fields : Fields} (h : fields.get? idField = none) :
    ((members ⟨id, fields⟩).map Prod.fst).Nodup := by
  refine List.nodup_cons.2 ⟨fun hmem ↦ ?_, fields.ascending.nodup_keys⟩
  obtain ⟨⟨name, value⟩, hentry, hname⟩ := List.mem_map.1 hmem
  have hvalue := OrderedMap.get?_eq_some_iff.2 hentry
  have hnone : fields.get? name = none := (congrArg fields.get? hname).trans h
  rw [hnone] at hvalue
  cases hvalue

end Alarm

/-! ## The update -/

/-- A change to other fields can be merged in before or after a field is taken out. -/
theorem AlarmDocument.erase_merge (document : Fields) {changes : Fields} {key : String}
    (h : changes.get? key = none) :
    (merge document changes).erase key = merge (document.erase key) changes := by
  apply OrderedMap.ext_get?
  intro name
  rw [OrderedMap.get?_erase, get?_merge, get?_merge, OrderedMap.get?_erase]
  by_cases hname : name = key
  · rw [if_pos hname, if_pos hname, hname, h]
  · rw [if_neg hname, if_neg hname]

namespace RemoteAlarms

variable {remote : RemoteAlarms} (id : String) {changes : Fields}

/-- An update of any alarm that can be read, whatever else its document holds, puts back that
document with the changes written into it, under its own id.  If what is read next is the document
that was put, the same update puts the same document again. -/
theorem update_writes_changes_only (hsend : remote.CanSend) (hflat : AlarmDocument.IsFlat changes)
    (hid : changes.get? Alarm.idField = none) :
    ∃ answered, (remote.update Dialogue.send id changes).run =
        .ask ⟨.get, remote.alarmUrl id, remote.token?, none⟩ answered ∧
      ∀ response document, Http.isSuccess response.status = true →
        Alarm.IsFetched response.body document →
        ∃ members accepted, answered (some response) =
            .ask ⟨.put, remote.alarmUrl id, remote.token?, some (.object members)⟩ accepted ∧
          (members.map Prod.fst).Nodup ∧
          AlarmDocument.IsRewritten document changes (.ofList members) ∧
          (OrderedMap.ofList members).get? Alarm.idField = document.get? Alarm.idField ∧
          ∀ again, Http.isSuccess again.status = true →
            Alarm.IsFetched again.body (.ofList members) →
            ∃ acceptedAgain, answered (some again) =
              .ask ⟨.put, remote.alarmUrl id, remote.token?, some (.object members)⟩
                acceptedAgain := by
  refine ⟨remote.afterReading id changes, run_update id changes hsend, ?_⟩
  intro response document hsuccess hfetched
  obtain ⟨name, hname, hput⟩ := exists_rewriting_of_isFetched id remote changes hsuccess hfetched
  have hnone : (AlarmDocument.ofFlat changes false).get? Alarm.idField = none := by
    rw [AlarmDocument.get?_ofFlat_other hflat false (by decide) (by decide), hid, ite_self]
  -- The changes leave the id alone, so what is put is the whole document with them merged in.
  have hmembers := Alarm.ofList_members_merge hname (AlarmDocument.ofFlat changes false)
  have herase := AlarmDocument.erase_merge document hnone
  have hrewritten : AlarmDocument.IsRewritten document changes
      (AlarmDocument.merge document (AlarmDocument.ofFlat changes false)) :=
    AlarmDocument.isRewritten_merge hflat
  have hkept := hrewritten.kept Alarm.idField (by decide) (by decide) (Or.inr hid)
  refine ⟨_, _, hput, ?_, ?_, ?_, ?_⟩
  · refine Alarm.nodup_keys_members name ?_
    rw [← herase, OrderedMap.get?_erase, if_pos rfl]
  · rwa [hmembers]
  · rwa [hmembers]
  · intro again hagain hfetchedAgain
    rw [hmembers] at hfetchedAgain
    obtain ⟨nameAgain, hnameAgain, hputAgain⟩ :=
      exists_rewriting_of_isFetched id remote changes hagain hfetchedAgain
    have hsame : nameAgain = name := by
      rw [hkept, hname, Option.some.injEq, Json.string.injEq] at hnameAgain
      exact hnameAgain.symm
    have hordered (key : String) (value : Json) (hvalue : (AlarmDocument.merge
          (document.erase Alarm.idField) (AlarmDocument.ofFlat changes false)).get? key =
        some value) : AlarmDocument.IsOrdered value := by
      rw [← herase, OrderedMap.get?_erase] at hvalue
      split at hvalue
      · cases hvalue
      · exact hfetchedAgain.isOrdered hvalue
    have hagainMerged := AlarmDocument.merge_merge hordered
    rw [hputAgain, hsame, herase, rewriting, writing]
    dsimp only
    rw [hagainMerged]
    exact ⟨_, rfl⟩

/-- A threshold and a switch are changed at an alarm whose rule has a meter besides, and then once
more in vain. -/
theorem update_writes_changes_only_of_threshold_and_switch :
    let remote : RemoteAlarms := ⟨"http://alarms", none⟩
    let changes : Fields := .ofList [("enabled", .bool false), ("threshold", .number (.int 80))]
    let rule (threshold : Int) := Json.ofEntries
      [("meter_name", .string "cpu_util"), ("threshold", .number (.int threshold))]
    let before : Fields := .ofList [("alarm_id", .string "a"), ("enabled", .bool true),
      ("severity", .string "low"), ("threshold_rule", rule 70)]
    let after : Fields := .ofList [("alarm_id", .string "a"), ("enabled", .bool false),
      ("severity", .string "low"), ("threshold_rule", rule 80), ("type", .string "threshold")]
    let answer (document : Fields) : Http.Response := ⟨200, (Json.ofFields document).compact⟩
    remote.CanSend ∧ AlarmDocument.IsFlat changes ∧ changes.get? Alarm.idField = none ∧
    Alarm.IsFetched (answer before).body before ∧ Alarm.IsFetched (answer after).body after ∧
    ∃ answered members accepted acceptedAgain, (remote.update Dialogue.send "a" changes).run =
        .ask ⟨.get, remote.alarmUrl "a", remote.token?, none⟩ answered ∧
      OrderedMap.ofList members = after ∧
      answered (some (answer before)) =
        .ask ⟨.put, remote.alarmUrl "a", remote.token?, some (.object members)⟩ accepted ∧
      answered (some (answer after)) =
        .ask ⟨.put, remote.alarmUrl "a", remote.token?, some (.object members)⟩
          acceptedAgain := by
  intro remote changes rule before after answer
  have hsend : remote.CanSend := by decide +kernel
  have hflat : AlarmDocument.IsFlat changes := ⟨rfl, rfl, rfl, rfl⟩
  have hid : changes.get? Alarm.idField = none := by decide +kernel
  have hbefore : Alarm.IsFetched (answer before).body before :=
    ⟨before.entries, "a", by decide +kernel, by decide +kernel, OrderedMap.ofList_entries before⟩
  have hafter : Alarm.IsFetched (answer after).body after :=
    ⟨after.entries, "a", by decide +kernel, by decide +kernel, OrderedMap.ofList_entries after⟩
  have hmerged : AlarmDocument.merge before (AlarmDocument.ofFlat changes false) = after := by
    decide +kernel
  obtain ⟨answered, hrun, hupdates⟩ := update_writes_changes_only "a" hsend hflat hid
  obtain ⟨members, accepted, hput, -, hrewritten, -, hagain⟩ :=
    hupdates (answer before) before rfl hbefore
  have hmembers : OrderedMap.ofList members = after :=
    (hrewritten.eq (AlarmDocument.isRewritten_merge hflat)).trans hmerged
  obtain ⟨acceptedAgain, hputAgain⟩ := hagain (answer after) rfl (by rwa [hmembers])
  exact ⟨hsend, hflat, hid, hbefore, hafter, answered, members, accepted, acceptedAgain, hrun,
    hmembers, hput, hputAgain⟩

end RemoteAlarms

end MeteringAlarms
