import MeteringAlarms.Proofs.Adapter.Confinement
import MeteringAlarms.Proofs.Rule.Undated

/-!
# Callbacks up to a renaming of ids

Two services in memory with id supplies of their own are compared through a renaming, which pairs
the ids that they gave to the same creations.  What one resource can see of such services is the
alarms under renamed ids, its own rule and whether the service is switched off.  A callback of the
resource that is carried out on both sides sees the same, does the same to it and has the same
outcome; a creation adds the pair of its two new ids to the renaming.
-/

namespace MeteringAlarms

/-- Pairs of ids that stand for each other. -/
abbrev Renaming := List (String × String)

namespace Renaming

/-- An id stands for no two others. -/
def IsOneToOne (names : Renaming) : Prop :=
  ∀ pair ∈ names, ∀ other ∈ names, pair.1 = other.1 ↔ pair.2 = other.2

/-- The pair of two ids that are new on their sides may be added. -/
theorem IsOneToOne.cons {names : Renaming} (h : names.IsOneToOne) {pair : String × String}
    (hleft : ∀ other ∈ names, other.1 ≠ pair.1) (hright : ∀ other ∈ names, other.2 ≠ pair.2) :
    IsOneToOne (pair :: names) := by
  rintro first (_ | ⟨_, hfirst⟩) second (_ | ⟨_, hsecond⟩)
  · exact iff_of_true rfl rfl
  · exact iff_of_false (hleft second hsecond).symm (hright second hsecond).symm
  · exact iff_of_false (hleft first hfirst) (hright first hfirst)
  · exact h first hfirst second hsecond

end Renaming

/-- The same failure up to the id that it is about. -/
inductive Failure.Renamed (names : Renaming) : Failure → Failure → Prop
  | alarmMissing {left right : String} (paired : (left, right) ∈ names) :
      Renamed names (.alarmMissing left) (.alarmMissing right)
  | other {failure : Failure} (other : ∀ id, failure ≠ .alarmMissing id) :
      Renamed names failure failure

/-- The same outcome of a callback up to ids. -/
inductive SameUpToIds (names : Renaming) : Except Failure Unit → Except Failure Unit → Prop
  | ok : SameUpToIds names (.ok ()) (.ok ())
  | error {left right : Failure} (renamed : left.Renamed names right) :
      SameUpToIds names (.error left) (.error right)

/-- Handles of one resource with corresponding alarms, or without any. -/
structure Handle.Renamed (names : Renaming) (left right : Handle) : Prop where
  state : left.state = right.state
  alarmId : left.alarmId? = none ∧ right.alarmId? = none ∨
    ∃ pair ∈ names, left.alarmId? = some pair.1 ∧ right.alarmId? = some pair.2

theorem Handle.Renamed.mem {names : Renaming} {left right : Handle} (h : left.Renamed names right)
    {id id' : String} (hleft : left.alarmId? = some id) (hright : right.alarmId? = some id') :
    (id, id') ∈ names := by
  rcases h.alarmId with ⟨hnone, -⟩ | ⟨pair, hpair, hid, hid'⟩
  · cases hnone.symm.trans hleft
  · cases hid.symm.trans hleft
    cases hid'.symm.trans hright
    exact hpair

section Mono

variable {names names' : Renaming} (hsubset : names ⊆ names')
include hsubset

theorem SameUpToIds.mono {left right : Except Failure Unit} (h : SameUpToIds names left right) :
    SameUpToIds names' left right := by
  cases h with
  | ok => exact .ok
  | error renamed =>
    cases renamed with
    | alarmMissing paired => exact .error (.alarmMissing (hsubset paired))
    | other other => exact .error (.other other)

theorem Handle.Renamed.mono {left right : Handle} (h : left.Renamed names right) :
    left.Renamed names' right := by
  refine ⟨h.state, h.alarmId.imp_right ?_⟩
  rintro ⟨pair, hpair, hids⟩
  exact ⟨pair, hsubset hpair, hids⟩

end Mono

/-- What is gone on one side is gone on the other. -/
theorem SameUpToIds.ignoreMissing {names : Renaming} {left right : Except Failure Unit}
    (h : SameUpToIds names left right) :
    SameUpToIds names (ignoreMissing left) (ignoreMissing right) := by
  cases h with
  | ok => exact .ok
  | error renamed =>
    cases renamed with
    | alarmMissing paired => exact .ok
    | other other =>
      rename_i failure
      rw [MeteringAlarms.ignoreMissing]
      cases failure.isMissing with
      | true => exact .ok
      | false => exact .error (.other other)

namespace AlarmMemory

variable (id : String) (changes : Fields) (memory : AlarmMemory)

/-- The outcome of a call about an alarm. -/
def answer : Except Failure Unit :=
  if memory.unavailable then .error refusal
  else if (memory.alarms.get? id).isSome then .ok ()
  else .error (.alarmMissing id)

theorem outcome_update : (memory.update id changes).1 = memory.answer id := by
  rw [answer]
  rcases memory.update_cases id changes with
    ⟨hdown, hstep⟩ | ⟨hup, hnone, hstep⟩ | ⟨hup, fields, hfields, hstep⟩
  · rw [hstep, if_pos hdown]
  · rw [hstep, hup, hnone]
    rfl
  · rw [hstep, hup, hfields]
    rfl

theorem get?_update :
    (memory.update id changes).2.alarms.get? id =
      if memory.unavailable then memory.alarms.get? id
      else (memory.alarms.get? id).map (·.overlay changes) := by
  rcases memory.update_cases id changes with
    ⟨hdown, hstep⟩ | ⟨hup, hnone, hstep⟩ | ⟨hup, fields, hfields, hstep⟩
  · rw [hstep, if_pos hdown]
  · rw [hstep, hup, hnone]
    exact hnone
  · rw [hstep, hup, hfields]
    exact (OrderedMap.get?_insert ..).trans (if_pos rfl)

theorem outcome_delete : (memory.delete id).1 = memory.answer id := by
  rw [answer]
  rcases memory.delete_cases id with ⟨hdown, hstep⟩ | ⟨hup, hnone, hstep⟩ | ⟨hup, hsome, hstep⟩
  · rw [hstep, if_pos hdown]
  · rw [hstep, hup, hnone]
    rfl
  · rw [hstep, hup, hsome]
    rfl

theorem get?_delete :
    (memory.delete id).2.alarms.get? id =
      if memory.unavailable then memory.alarms.get? id else none := by
  rcases memory.delete_cases id with ⟨hdown, hstep⟩ | ⟨hup, hnone, hstep⟩ | ⟨hup, hsome, hstep⟩
  · rw [hstep, if_pos hdown]
  · rw [hstep, hup]
    exact hnone
  · rw [hstep, hup]
    exact (OrderedMap.get?_erase ..).trans (if_pos rfl)

end AlarmMemory

variable {newId ownId : Nat → String} {names : Renaming}

/-- The alarms under ids that stand for each other are the same. -/
structure SameAlarms (newId ownId : Nat → String) (names : Renaming) (left right : AlarmMemory) :
    Prop where
  oneToOne : names.IsOneToOne
  issued : ∀ pair ∈ names, (∃ n < left.issued, newId n = pair.1) ∧
    ∃ n < right.issued, ownId n = pair.2
  unavailable : left.unavailable = right.unavailable
  alarms : ∀ pair ∈ names, left.alarms.get? pair.1 = right.alarms.get? pair.2

namespace SameAlarms

variable {left right left' right' : AlarmMemory}

/-- What is done to two alarms that stand for each other, and to no others, is the same. -/
theorem change (h : SameAlarms newId ownId names left right) {pair : String × String}
    (hpair : pair ∈ names) (hleft : left.Touches pair.1 left')
    (hright : right.Touches pair.2 right')
    (hsame : left'.alarms.get? pair.1 = right'.alarms.get? pair.2) :
    SameAlarms newId ownId names left' right' := by
  refine ⟨h.oneToOne, ?_, ?_, fun other hother ↦ ?_⟩
  · rw [hleft.issued, hright.issued]
    exact h.issued
  · rw [hleft.unavailable, hright.unavailable, h.unavailable]
  · by_cases hid : other.1 = pair.1
    · rw [hid, (h.oneToOne other hother pair hpair).1 hid, hsame]
    · have hid' : other.2 ≠ pair.2 := (h.oneToOne other hother pair hpair).not.1 hid
      rw [hleft.alarms _ hid, hright.alarms _ hid', h.alarms other hother]

variable (h : SameAlarms newId ownId names left right) {pair : String × String}
  (hpair : pair ∈ names)
include h hpair

theorem answer : SameUpToIds names (left.answer pair.1) (right.answer pair.2) := by
  rw [AlarmMemory.answer, AlarmMemory.answer, h.unavailable, h.alarms pair hpair]
  split
  · exact .error (.other nofun)
  · split
    · exact .ok
    · exact .error (.alarmMissing hpair)

theorem update (changes : Fields) :
    SameAlarms newId ownId names (left.update pair.1 changes).2
      (right.update pair.2 changes).2 := by
  refine h.change hpair (left.touches_update ..) (right.touches_update ..) ?_
  rw [AlarmMemory.get?_update, AlarmMemory.get?_update, h.unavailable, h.alarms pair hpair]

theorem delete :
    SameAlarms newId ownId names (left.delete pair.1).2 (right.delete pair.2).2 := by
  refine h.change hpair (left.touches_delete ..) (right.touches_delete ..) ?_
  rw [AlarmMemory.get?_delete, AlarmMemory.get?_delete, h.unavailable, h.alarms pair hpair]

omit hpair in
/-- Ids that are handed out next are in no pair yet. -/
theorem ne_new (hnew : Function.Injective newId) (hown : Function.Injective ownId) :
    ∀ other ∈ names, other.1 ≠ newId left.issued ∧ other.2 ≠ ownId right.issued := by
  intro other hother
  obtain ⟨⟨m, hm, hleft⟩, n, hn, hright⟩ := h.issued other hother
  rw [← hleft, ← hright]
  exact ⟨fun heq ↦ Nat.ne_of_lt hm (hnew heq), fun heq ↦ Nat.ne_of_lt hn (hown heq)⟩

omit hpair in
/-- A creation is refused on both sides or adds the pair of its two new ids. -/
theorem create (hnew : Function.Injective newId) (hown : Function.Injective ownId)
    (payload : Fields) :
    left.create newId payload = (.error AlarmMemory.refusal, left) ∧
        right.create ownId payload = (.error AlarmMemory.refusal, right) ∨
      (left.create newId payload).1 = .ok ⟨newId left.issued, payload⟩ ∧
        (right.create ownId payload).1 = .ok ⟨ownId right.issued, payload⟩ ∧
        SameAlarms newId ownId ((newId left.issued, ownId right.issued) :: names)
          (left.create newId payload).2 (right.create ownId payload).2 := by
  have hfresh := h.ne_new hnew hown
  have havailable := h.unavailable
  rcases left.create_cases newId payload with ⟨hdown, hleft⟩ | ⟨hup, hleft⟩ <;>
    rcases right.create_cases ownId payload with ⟨hdown', hright⟩ | ⟨hup', hright⟩
  · exact Or.inl ⟨hleft, hright⟩
  · simp [hdown, hup'] at havailable
  · simp [hup, hdown'] at havailable
  · rw [hleft, hright]
    refine Or.inr ⟨rfl, rfl, ?_, ?_, havailable, ?_⟩
    · exact h.oneToOne.cons (fun other hother ↦ (hfresh other hother).1)
        fun other hother ↦ (hfresh other hother).2
    · rintro other (_ | ⟨_, hother⟩)
      · exact ⟨⟨_, Nat.lt_succ_self _, rfl⟩, _, Nat.lt_succ_self _, rfl⟩
      · obtain ⟨⟨m, hm, hleft⟩, n, hn, hright⟩ := h.issued other hother
        exact ⟨⟨m, Nat.lt_succ_of_lt hm, hleft⟩, n, Nat.lt_succ_of_lt hn, hright⟩
    · rintro other (_ | ⟨_, hother⟩)
      · rw [OrderedMap.get?_insert, OrderedMap.get?_insert, if_pos rfl, if_pos rfl]
      · rw [OrderedMap.get?_insert, OrderedMap.get?_insert, if_neg (hfresh other hother).1,
          if_neg (hfresh other hother).2]
        exact h.alarms other hother

end SameAlarms

/-- The rule of a name is the same up to its times, and all rules are under their own names. -/
structure SameRule (name : String) (left right : RuleBook) : Prop where
  keyed : left.IsKeyed
  keyed' : right.IsKeyed
  rule : (left.get? name).map WatchRule.undated = (right.get? name).map WatchRule.undated

namespace SameRule

variable {name : String} {left right : RuleBook} (h : SameRule name left right)
  (keeping : RuleKeeping) (verdict : Verdict)
include h

theorem isSome : (left.get? name).isSome = (right.get? name).isSome := by
  have hsome := congrArg Option.isSome h.rule
  rw [Option.isSome_map, Option.isSome_map] at hsome
  exact hsome

theorem created (rule rule' : WatchRule) (hname : rule.name = name)
    (hundated : rule.undated = rule'.undated) :
    (keeping.created verdict rule left).1 = (keeping.created verdict rule' right).1 ∧
      SameRule name (keeping.created verdict rule left).2
        (keeping.created verdict rule' right).2 := by
  have hname' : rule'.name = name := (WatchRule.name_eq_of_undated hundated).symm.trans hname
  have hkeyed := (keeping.touchesRule_created verdict rule left).keyed h.keyed
  have hkeyed' := (keeping.touchesRule_created verdict rule' right).keyed h.keyed'
  suffices hsame : (keeping.created verdict rule left).1 = (keeping.created verdict rule' right).1 ∧
      ((keeping.created verdict rule left).2.get? name).map WatchRule.undated =
        ((keeping.created verdict rule' right).2.get? name).map WatchRule.undated from
    ⟨hsame.1, hkeyed, hkeyed', hsame.2⟩
  rw [RuleKeeping.created, RuleKeeping.created, hname, hname', h.isSome]
  split
  · exact ⟨rfl, h.rule⟩
  · split
    · refine ⟨rfl, ?_⟩
      rw [OrderedMap.get?_insert, OrderedMap.get?_insert, if_pos rfl, if_pos rfl, Option.map_some,
        Option.map_some, hundated]
    · exact ⟨rfl, h.rule⟩

theorem removed :
    (keeping.removed verdict name left).1 = (keeping.removed verdict name right).1 ∧
      SameRule name (keeping.removed verdict name left).2
        (keeping.removed verdict name right).2 := by
  have hkeyed := (keeping.touchesRule_removed verdict name left).keyed h.keyed
  have hkeyed' := (keeping.touchesRule_removed verdict name right).keyed h.keyed'
  suffices hsame : (keeping.removed verdict name left).1 = (keeping.removed verdict name right).1 ∧
      ((keeping.removed verdict name left).2.get? name).map WatchRule.undated =
        ((keeping.removed verdict name right).2.get? name).map WatchRule.undated from
    ⟨hsame.1, hkeyed, hkeyed', hsame.2⟩
  rw [RuleKeeping.removed, RuleKeeping.removed, h.isSome]
  split
  · split
    · refine ⟨rfl, ?_⟩
      rw [OrderedMap.get?_erase, OrderedMap.get?_erase, if_pos rfl, if_pos rfl]
    · exact ⟨rfl, h.rule⟩
  · exact ⟨rfl, h.rule⟩

end SameRule

theorem SameUpToIds.of_ne {outcome : Except Failure Unit}
    (h : ∀ id, outcome ≠ .error (.alarmMissing id)) : SameUpToIds names outcome outcome := by
  rcases outcome with failure | ⟨⟩
  · exact .error (.other fun id hfailure ↦ h id (congrArg Except.error hfailure))
  · exact .ok

namespace RuleKeeping

variable (keeping : RuleKeeping) (verdict : Verdict) (rules : RuleBook) (id : String)

theorem created_ne (rule : WatchRule) :
    (keeping.created verdict rule rules).1 ≠ .error (.alarmMissing id) := by
  rw [created]
  split
  · rintro ⟨⟩
  · split <;> rintro ⟨⟩

theorem removed_ne (name : String) :
    (keeping.removed verdict name rules).1 ≠ .error (.alarmMissing id) := by
  rw [removed]
  split
  · split <;> rintro ⟨⟩
  · rintro ⟨⟩

end RuleKeeping

/-- What a resource has on two sides after a callback: outcome, handle, alarms and rule. -/
structure Agree (newId ownId : Nat → String) (name : String) (names : Renaming)
    (left right : Except Failure Unit × Handle × AlarmMemory × RuleBook × Folder) : Prop where
  outcome : SameUpToIds names left.1 right.1
  handle : left.2.1.Renamed names right.2.1
  alarms : SameAlarms newId ownId names left.2.2.1 right.2.2.1
  rule : SameRule name left.2.2.2.1 right.2.2.2.1

section Callbacks

variable (hnew : Function.Injective newId) (hown : Function.Injective ownId)
  (keeping : RuleKeeping) (verdict : Verdict) (context : Context) (now now' : Timestamp)
  {handle handle' : Handle} (hhandle : handle.Renamed names handle')
  {memory memory' : AlarmMemory} (halarms : SameAlarms newId ownId names memory memory')
  {rules rules' : RuleBook} (hrule : SameRule context.physicalName rules rules')
  (folder folder' : Folder)
include hhandle halarms hrule

include hnew hown in
theorem CombinationAlarm.agree_create :
    let left := (create (.overMemory newId (keeping.store verdict)) context).on handle
      (memory, rules, folder)
    let right := (create (.overMemory ownId (keeping.store verdict)) context).on handle'
      (memory', rules', folder')
    Agree newId ownId context.physicalName names left right ∨
      Agree newId ownId context.physicalName
        ((newId memory.issued, ownId memory'.issued) :: names) left right := by
  rw [on_create, on_create, Services.overMemory_create, Services.overMemory_create]
  rcases halarms.create hnew hown (createPayload context) with
    ⟨hleft, hright⟩ | ⟨hleft, hright, hcreated⟩
  · rw [hleft, hright]
    exact Or.inl ⟨.error (.other nofun), hhandle, halarms, hrule⟩
  · rw [hleft, hright]
    refine Or.inr ⟨.ok, ⟨rfl, Or.inr ⟨_, List.mem_cons_self, rfl, rfl⟩⟩, hcreated, hrule⟩

include hnew hown in
theorem ThresholdAlarm.agree_create :
    let left := (create (.overMemory newId (keeping.store verdict)) context now).on handle
      (memory, rules, folder)
    let right := (create (.overMemory ownId (keeping.store verdict)) context now').on handle'
      (memory', rules', folder')
    Agree newId ownId context.physicalName names left right ∨
      Agree newId ownId context.physicalName
        ((newId memory.issued, ownId memory'.issued) :: names) left right := by
  rw [on_create, on_create, Services.overMemory_create, Services.overMemory_create]
  rcases halarms.create hnew hown (createPayload context) with
    ⟨hleft, hright⟩ | ⟨hleft, hright, hcreated⟩
  · rw [hleft, hright]
    exact Or.inl ⟨.error (.other nofun), hhandle, halarms, hrule⟩
  · obtain ⟨files, hstep⟩ := keeping.on_create verdict (watchRule context now) rules folder
    obtain ⟨files', hstep'⟩ := keeping.on_create verdict (watchRule context now') rules' folder'
    obtain ⟨houtcome, hrule⟩ := hrule.created keeping verdict (watchRule context now)
      (watchRule context now') rfl rfl
    have hne (id : String) := keeping.created_ne verdict rules' id (watchRule context now')
    rw [hleft, hright]
    dsimp only
    rw [Services.overMemory_createRule, Services.overMemory_createRule, hstep, hstep', houtcome]
    dsimp only
    revert hne
    rcases (keeping.created verdict (watchRule context now') rules').1 with failure | ⟨⟩
    · intro hne
      refine Or.inr ⟨.of_ne hne, hhandle.mono (List.subset_cons_self _ _), ?_, hrule⟩
      exact hcreated.delete List.mem_cons_self
    · intro _
      exact Or.inr ⟨.ok, ⟨rfl, Or.inr ⟨_, List.mem_cons_self, rfl, rfl⟩⟩, hcreated, hrule⟩

theorem agree_update (type : ResourceType) (changes : Fields) :
    Agree newId ownId context.physicalName names
      (((LifecycleEvent.update changes).handle type (.overMemory newId (keeping.store verdict))
        context now).on handle (memory, rules, folder))
      (((LifecycleEvent.update changes).handle type (.overMemory ownId (keeping.store verdict))
        context now').on handle' (memory', rules', folder')) := by
  rw [LifecycleEvent.on_update, LifecycleEvent.on_update]
  cases changes.isEmpty with
  | true => exact ⟨.ok, hhandle, halarms, hrule⟩
  | false =>
    rw [if_neg Bool.false_ne_true, if_neg Bool.false_ne_true]
    rcases hhandle.alarmId with ⟨hid, hid'⟩ | ⟨pair, hpair, hid, hid'⟩
    · rw [hid, hid']
      exact ⟨.error (.other nofun), hhandle, halarms, hrule⟩
    · have hupdate := halarms.update hpair (type.changePayload context changes)
      have hanswer := halarms.answer hpair
      rw [hid, hid']
      dsimp only
      rw [Services.overMemory_update, Services.overMemory_update]
      refine ⟨?_, hhandle, hupdate, hrule⟩
      dsimp only
      rw [AlarmMemory.outcome_update, AlarmMemory.outcome_update]
      exact hanswer

theorem agree_switch (enabled : Bool) (state : LifecycleState) :
    Agree newId ownId context.physicalName names
      ((Callback.switch (Services.overMemory newId (keeping.store verdict)).alarms enabled state).on
        handle (memory, rules, folder))
      ((Callback.switch (Services.overMemory ownId (keeping.store verdict)).alarms enabled state).on
        handle' (memory', rules', folder')) := by
  rw [Callback.on_switch, Callback.on_switch]
  rcases hhandle.alarmId with ⟨hid, hid'⟩ | ⟨pair, hpair, hid, hid'⟩
  · rw [hid, hid']
    exact ⟨.ok, hhandle, halarms, hrule⟩
  · have hupdate := halarms.update hpair (.ofList [(PropertyName.enabled, .bool enabled)])
    have hanswer := halarms.answer hpair
    rw [hid, hid']
    dsimp only
    rw [Services.overMemory_update, Services.overMemory_update]
    dsimp only
    rw [AlarmMemory.outcome_update, AlarmMemory.outcome_update]
    revert hanswer
    generalize memory.answer pair.1 = outcome
    generalize memory'.answer pair.2 = outcome'
    rintro (_ | renamed)
    · exact ⟨.ok, ⟨rfl, Or.inr ⟨pair, hpair, rfl, rfl⟩⟩, hupdate, hrule⟩
    · exact ⟨.error renamed, hhandle, hupdate, hrule⟩

/-- The removal of the alarm, after that of the rule or for want of one. -/
theorem CombinationAlarm.agree_delete :
    Agree newId ownId context.physicalName names
      ((delete (.overMemory newId (keeping.store verdict))).on handle (memory, rules, folder))
      ((delete (.overMemory ownId (keeping.store verdict))).on handle'
        (memory', rules', folder')) := by
  rw [on_delete, on_delete, Callback.on_removeAlarm, Callback.on_removeAlarm]
  rcases hhandle.alarmId with ⟨hid, hid'⟩ | ⟨pair, hpair, hid, hid'⟩
  · rw [hid, hid']
    exact ⟨.ok, ⟨rfl, Or.inl ⟨hid, hid'⟩⟩, halarms, hrule⟩
  · have hdelete := halarms.delete hpair
    have hanswer := (halarms.answer hpair).ignoreMissing
    rw [hid, hid']
    dsimp only
    rw [Services.overMemory_delete, Services.overMemory_delete]
    dsimp only
    rw [AlarmMemory.outcome_delete, AlarmMemory.outcome_delete]
    revert hanswer
    generalize ignoreMissing (memory.answer pair.1) = outcome
    generalize ignoreMissing (memory'.answer pair.2) = outcome'
    rintro (_ | renamed)
    · exact ⟨.ok, ⟨rfl, Or.inr ⟨pair, hpair, hid, hid'⟩⟩, hdelete, hrule⟩
    · exact ⟨.error renamed, hhandle, hdelete, hrule⟩

theorem ThresholdAlarm.agree_delete :
    Agree newId ownId context.physicalName names
      ((delete (.overMemory newId (keeping.store verdict)) context).on handle
        (memory, rules, folder))
      ((delete (.overMemory ownId (keeping.store verdict)) context).on handle'
        (memory', rules', folder')) := by
  obtain ⟨files, hstep⟩ :=
    keeping.on_removeRule verdict context.physicalName folder hrule.keyed
  obtain ⟨files', hstep'⟩ :=
    keeping.on_removeRule verdict context.physicalName folder' hrule.keyed'
  obtain ⟨houtcome, hremoved⟩ := hrule.removed keeping verdict
  have hne (id : String) := keeping.removed_ne verdict rules' id context.physicalName
  have hsame : SameUpToIds names _ _ := (SameUpToIds.of_ne hne).ignoreMissing
  rw [on_delete, on_delete, Services.overMemory_removeRule, Services.overMemory_removeRule, hstep,
    hstep', houtcome]
  dsimp only
  revert hsame
  rcases ignoreMissing (keeping.removed verdict context.physicalName rules').1 with failure | ⟨⟩
  · exact fun hsame ↦ ⟨hsame, hhandle, halarms, hremoved⟩
  · intro _
    exact CombinationAlarm.agree_delete keeping verdict context hhandle halarms hremoved files
      files'

include hnew hown in
/-- A callback that is carried out on two sides sees and does the same on both, and at most pairs
the two ids that come next. -/
theorem LifecycleEvent.agree (type : ResourceType) (event : LifecycleEvent) :
    let left := (event.handle type (.overMemory newId (keeping.store verdict)) context now).on
      handle (memory, rules, folder)
    let right := (event.handle type (.overMemory ownId (keeping.store verdict)) context now').on
      handle' (memory', rules', folder')
    Agree newId ownId context.physicalName names left right ∨
      Agree newId ownId context.physicalName
        ((newId memory.issued, ownId memory'.issued) :: names) left right := by
  cases event with
  | create =>
    cases type with
    | threshold =>
      exact ThresholdAlarm.agree_create hnew hown keeping verdict context now now' hhandle halarms
        hrule folder folder'
    | combination =>
      exact CombinationAlarm.agree_create hnew hown keeping verdict context hhandle halarms hrule
        folder folder'
  | update changes =>
    exact Or.inl (agree_update keeping verdict context now now' hhandle halarms hrule folder folder'
      type changes)
  | suspend =>
    exact Or.inl (agree_switch keeping verdict context hhandle halarms hrule folder folder' _ _)
  | resume =>
    exact Or.inl (agree_switch keeping verdict context hhandle halarms hrule folder folder' _ _)
  | delete =>
    cases type with
    | threshold =>
      exact Or.inl (ThresholdAlarm.agree_delete keeping verdict context hhandle halarms hrule folder
        folder')
    | combination =>
      exact Or.inl (CombinationAlarm.agree_delete keeping verdict context hhandle halarms hrule
        folder folder')

end Callbacks

end MeteringAlarms
