import MeteringAlarms.Proofs.Adapter.Creation
import MeteringAlarms.Proofs.Adapter.Sharing

/-!
# Callbacks that fail

A callback makes several calls to the services, and each of them may fail.  Services that log their
calls show which failure a callback reports: that of the call that stopped it, before which nothing
failed but for want of what was to be removed, and after which at most a new alarm is taken back.
The resource then is as it was.  Where stores undo what they fail to do, the alarms and the rules
are as they were too, except that a removal may have taken the rule before the alarm could not be
taken.
-/

namespace MeteringAlarms

variable {ω ρ α : Type}

/-- A call to one of the services. -/
inductive ServiceCall where
  | createAlarm (payload : Fields)
  | updateAlarm (id : String) (changes : Fields)
  | deleteAlarm (id : String)
  | getAlarm (id : String)
  | createRule (rule : WatchRule)
  | loadRule (name : String)
  | destroyRule (name : String)

namespace ServiceCall

/-- A call and what came of it. -/
structure Entry where
  call : ServiceCall
  outcome : Except Failure Unit

/-- The call does not stop the callback: it succeeds, or finds that there is nothing to remove. -/
def Entry.Passes (event : LifecycleEvent) (entry : Entry) : Prop :=
  ∀ failure, entry.outcome = .error failure → event = .delete ∧ failure.isMissing = true

theorem Entry.passes_of_ok (event : LifecycleEvent) (call : ServiceCall) :
    Entry.Passes event ⟨call, .ok ()⟩ := by
  rintro failure ⟨⟩

theorem Entry.passes_of_mem_ok (event : LifecycleEvent) (call : ServiceCall) :
    ∀ entry ∈ [(⟨call, .ok ()⟩ : Entry)], entry.Passes event :=
  List.forall_mem_singleton.2 (passes_of_ok event call)

/-- One of the calls failed in this way and stopped the callback.  Those before it did not, and all
that may follow it in a creation is that the new alarm is taken back. -/
def Stops (event : LifecycleEvent) (failure : Failure) (calls : List Entry) : Prop :=
  ∃ earlier call later, calls = earlier ++ ⟨call, .error failure⟩ :: later ∧
    (∀ entry ∈ earlier, entry.Passes event) ∧
    ¬Entry.Passes event ⟨call, .error failure⟩ ∧
    ∀ entry ∈ later, event = .create ∧ ∃ id, entry.call = .deleteAlarm id

/-- How the calls of a callback decide its outcome. -/
inductive Decide (event : LifecycleEvent) (resource : Resource) :
    List Entry → Except Failure Unit → Prop
  | passed {calls : List Entry} (passed : ∀ entry ∈ calls, entry.Passes event) :
      Decide event resource calls (.ok ())
  | stopped {calls : List Entry} {failure : Failure} (stopped : Stops event failure calls) :
      Decide event resource calls (.error failure)
  | noAlarm {changes : Fields} (update : event = .update changes)
      (none : resource.handle.alarmId? = none) :
      Decide event resource [] (.error (.noAlarm resource.context.physicalName))

variable {event : LifecycleEvent} {resource : Resource} {failure : Failure}

/-- A call that fails stops the callback, unless it finds that there is nothing to remove. -/
theorem Decide.single (call : ServiceCall) {outcome : Except Failure Unit}
    (hevent : event = .delete → ∀ failure, outcome = .error failure → failure.isMissing = false) :
    Decide event resource [⟨call, outcome⟩] outcome := by
  rcases outcome with failure | ⟨⟩
  · refine .stopped ⟨[], call, [], rfl, by simp, fun hpasses ↦ ?_, by simp⟩
    obtain ⟨hdelete, hmissing⟩ := hpasses failure rfl
    rw [hevent hdelete failure rfl] at hmissing
    cases hmissing
  · exact .passed (Entry.passes_of_mem_ok event call)

theorem Decide.ignoreMissing (call : ServiceCall) (outcome : Except Failure Unit) :
    Decide .delete resource [⟨call, outcome⟩] (ignoreMissing outcome) := by
  rcases outcome with failure | ⟨⟩
  · rw [MeteringAlarms.ignoreMissing]
    cases hmissing : failure.isMissing with
    | true =>
      refine .passed (List.forall_mem_singleton.2 ?_)
      rintro other ⟨⟩
      exact ⟨rfl, hmissing⟩
    | false =>
      refine .single call ?_
      rintro - other ⟨⟩
      exact hmissing
  · exact .single call nofun

/-- A removal may go on after calls that do not stop it. -/
theorem Decide.append {earlier calls : List Entry} {outcome : Except Failure Unit}
    (hearlier : Decide .delete resource earlier (.ok ()))
    (h : Decide .delete resource calls outcome) :
    Decide .delete resource (earlier ++ calls) outcome := by
  obtain ⟨hpassed⟩ := hearlier
  have hall {later : List Entry} (hlater : ∀ entry ∈ later, entry.Passes .delete) :
      ∀ entry ∈ earlier ++ later, entry.Passes .delete := by
    intro entry hentry
    exact (List.mem_append.1 hentry).elim (hpassed entry) (hlater entry)
  cases h with
  | passed passed => exact .passed (hall passed)
  | stopped stopped =>
    obtain ⟨before, call, later, rfl, hbefore, hcall, hlater⟩ := stopped
    exact .stopped ⟨earlier ++ before, call, later, (List.append_assoc ..).symm, hall hbefore,
      hcall, hlater⟩
  | noAlarm update => cases update

end ServiceCall

open ServiceCall

namespace Services

/-- An operation that is entered in a log of calls, in the order in which they are made. -/
def logging (call : ServiceCall) (attempt : Attempt (StateM ω) α) :
    Attempt (StateM (ω × List Entry)) α :=
  .ofStep fun (world, log) ↦
    let (outcome, world) := attempt.on world
    (outcome, world, log ++ [⟨call, outcome.map fun _ ↦ ()⟩])

/-- The services with a log of the calls that are made to them. -/
def logged (services : Services (StateM ω)) : Services (StateM (ω × List Entry)) where
  alarms :=
    { create payload := logging (.createAlarm payload) (services.alarms.create payload)
      update id changes := logging (.updateAlarm id changes) (services.alarms.update id changes)
      delete id := logging (.deleteAlarm id) (services.alarms.delete id)
      get id := logging (.getAlarm id) (services.alarms.get id) }
  rules :=
    { create rule := logging (.createRule rule) (services.rules.create rule)
      load name := logging (.loadRule name) (services.rules.load name)
      destroy name := logging (.destroyRule name) (services.rules.destroy name) }

variable (services : Services (StateM ω)) (world : ω) (log : List Entry)

theorem on_logging (call : ServiceCall) (attempt : Attempt (StateM ω) α) :
    (logging call attempt).on (world, log) =
      ((attempt.on world).1, (attempt.on world).2,
        log ++ [⟨call, (attempt.on world).1.map fun _ ↦ ()⟩]) := rfl

/-- The log of an operation without a result has its outcome. -/
theorem on_logging_unit (call : ServiceCall) (attempt : Attempt (StateM ω) Unit) :
    (logging call attempt).on (world, log) =
      ((attempt.on world).1, (attempt.on world).2, log ++ [⟨call, (attempt.on world).1⟩]) := by
  rw [on_logging]
  rcases attempt.on world with ⟨_ | _, _⟩ <;> rfl

theorem logged_create (payload : Fields) :
    (services.logged.alarms.create payload).on (world, log) =
      (((services.alarms.create payload).on world).1,
        ((services.alarms.create payload).on world).2,
        log ++ [⟨.createAlarm payload,
          ((services.alarms.create payload).on world).1.map fun _ ↦ ()⟩]) :=
  on_logging ..

theorem logged_update (id : String) (changes : Fields) :
    (services.logged.alarms.update id changes).on (world, log) =
      (((services.alarms.update id changes).on world).1,
        ((services.alarms.update id changes).on world).2,
        log ++ [⟨.updateAlarm id changes, ((services.alarms.update id changes).on world).1⟩]) :=
  on_logging_unit ..

theorem logged_delete (id : String) :
    (services.logged.alarms.delete id).on (world, log) =
      (((services.alarms.delete id).on world).1, ((services.alarms.delete id).on world).2,
        log ++ [⟨.deleteAlarm id, ((services.alarms.delete id).on world).1⟩]) :=
  on_logging_unit ..

theorem logged_createRule (rule : WatchRule) :
    (services.logged.rules.create rule).on (world, log) =
      (((services.rules.create rule).on world).1, ((services.rules.create rule).on world).2,
        log ++ [⟨.createRule rule, ((services.rules.create rule).on world).1⟩]) :=
  on_logging_unit ..

theorem logged_load (name : String) :
    (services.logged.rules.load name).on (world, log) =
      (((services.rules.load name).on world).1, ((services.rules.load name).on world).2,
        log ++ [⟨.loadRule name, ((services.rules.load name).on world).1.map fun _ ↦ ()⟩]) :=
  on_logging ..

theorem logged_destroy (name : String) :
    (services.logged.rules.destroy name).on (world, log) =
      (((services.rules.destroy name).on world).1, ((services.rules.destroy name).on world).2,
        log ++ [⟨.destroyRule name, ((services.rules.destroy name).on world).1⟩]) :=
  on_logging_unit ..

end Services

section Callbacks

variable (services : Services (StateM ω)) (world : ω) (log : List Entry) (type : ResourceType)
  (context : Context) (handle : Handle) (now : Timestamp)

/-- The log of a callback: what it does is what it does without a log, and its calls decide its
outcome. -/
structure IsLogged (event : LifecycleEvent) (resource : Resource)
    (step : Except Failure Unit × Handle × ω) (log : List Entry)
    (logged : Except Failure Unit × Handle × ω × List Entry) : Prop where
  same : (logged.1, logged.2.1, logged.2.2.1) = step
  calls : ∃ calls, logged.2.2.2 = log ++ calls ∧ Decide event resource calls step.1

theorem ThresholdAlarm.isLogged_create :
    IsLogged .create ⟨.threshold, context, handle⟩
      ((create services context now).on handle world) log
      ((create services.logged context now).on handle (world, log)) := by
  rw [on_create, on_create, Services.logged_create]
  rcases (services.alarms.create (createPayload context)).on world with ⟨failure | alarm, created⟩
  · exact ⟨rfl, _, rfl, .single _ nofun⟩
  · dsimp only
    rw [Services.logged_createRule]
    rcases (services.rules.create (watchRule context now)).on created with
      ⟨failure | ⟨⟩, registered⟩
    · dsimp only
      rw [Services.logged_delete]
      refine ⟨rfl, _, by rw [List.append_assoc, List.append_assoc], .stopped ?_⟩
      refine ⟨[_], _, [_], rfl, Entry.passes_of_mem_ok .create _, fun hpasses ↦ ?_,
        List.forall_mem_singleton.2 ⟨rfl, _, rfl⟩⟩
      cases (hpasses failure rfl).1
    · refine ⟨rfl, _, by rw [List.append_assoc], .passed ?_⟩
      exact List.forall_mem_cons.2 ⟨Entry.passes_of_ok .create _, Entry.passes_of_mem_ok .create _⟩

theorem CombinationAlarm.isLogged_create :
    IsLogged .create ⟨.combination, context, handle⟩
      ((create services context).on handle world) log
      ((create services.logged context).on handle (world, log)) := by
  rw [on_create, on_create, Services.logged_create]
  rcases (services.alarms.create (createPayload context)).on world with ⟨failure | alarm, created⟩
  · exact ⟨rfl, _, rfl, .single _ nofun⟩
  · exact ⟨rfl, _, rfl, .passed (Entry.passes_of_mem_ok .create _)⟩

theorem isLogged_update (changes : Fields) :
    IsLogged (.update changes) ⟨type, context, handle⟩
      (((LifecycleEvent.update changes).handle type services context now).on handle world) log
      (((LifecycleEvent.update changes).handle type services.logged context now).on handle
        (world, log)) := by
  rw [LifecycleEvent.on_update, LifecycleEvent.on_update]
  cases changes.isEmpty with
  | true => exact ⟨rfl, [], (List.append_nil log).symm, .passed (List.forall_mem_nil _)⟩
  | false =>
    rw [if_neg Bool.false_ne_true, if_neg Bool.false_ne_true]
    rcases hid : handle.alarmId? with _ | id
    · exact ⟨rfl, [], (List.append_nil log).symm, .noAlarm rfl hid⟩
    · dsimp only
      rw [Services.logged_update]
      exact ⟨rfl, _, rfl, .single _ nofun⟩

theorem isLogged_switch (event : LifecycleEvent) (hevent : event ≠ .delete) (enabled : Bool)
    (state : LifecycleState) :
    IsLogged event ⟨type, context, handle⟩
      ((Callback.switch services.alarms enabled state).on handle world) log
      ((Callback.switch services.logged.alarms enabled state).on handle (world, log)) := by
  rw [Callback.on_switch, Callback.on_switch]
  rcases handle.alarmId? with _ | id
  · exact ⟨rfl, [], (List.append_nil log).symm, .passed (List.forall_mem_nil _)⟩
  · dsimp only
    rw [Services.logged_update]
    have hdecide {outcome : Except Failure Unit} (call : ServiceCall) :
        Decide event ⟨type, context, handle⟩ [⟨call, outcome⟩] outcome :=
      .single call fun hdelete ↦ absurd hdelete hevent
    rcases (services.alarms.update id (.ofList [(PropertyName.enabled, .bool enabled)])).on world
      with ⟨failure | ⟨⟩, updated⟩ <;> exact ⟨rfl, _, rfl, hdecide _⟩

/-- Once a rule is out of the way, or for want of one, all that is removed is the alarm. -/
theorem CombinationAlarm.isLogged_delete :
    IsLogged .delete ⟨type, context, handle⟩ ((delete services).on handle world) log
      ((delete services.logged).on handle (world, log)) := by
  rw [on_delete, on_delete, Callback.on_removeAlarm, Callback.on_removeAlarm]
  rcases handle.alarmId? with _ | id
  · exact ⟨rfl, [], (List.append_nil log).symm, .passed (List.forall_mem_nil _)⟩
  · dsimp only
    rw [Services.logged_delete]
    have hdecide : Decide .delete ⟨type, context, handle⟩ [⟨.deleteAlarm id, _⟩] _ :=
      .ignoreMissing _ ((services.alarms.delete id).on world).1
    dsimp only
    revert hdecide
    generalize ((services.alarms.delete id).on world).1 = outcome
    cases ignoreMissing outcome <;> exact fun hdecide ↦ ⟨rfl, _, rfl, hdecide⟩

theorem ThresholdAlarm.removeRule_logged (resource : Resource) (name : String) :
    ∃ calls,
      (removeRule services.logged.rules name).on (world, log) =
        (((removeRule services.rules name).on world).1,
          ((removeRule services.rules name).on world).2, log ++ calls) ∧
      Decide .delete resource calls
        (MeteringAlarms.ignoreMissing ((removeRule services.rules name).on world).1) := by
  rw [on_removeRule, on_removeRule, Services.logged_load]
  rcases (services.rules.load name).on world with ⟨failure | rule, loaded⟩
  · exact ⟨_, rfl, .ignoreMissing _ _⟩
  · dsimp only
    rw [Services.logged_destroy, List.append_assoc]
    exact ⟨_, rfl, .append (.passed (Entry.passes_of_mem_ok .delete _)) (.ignoreMissing _ _)⟩

theorem ThresholdAlarm.isLogged_delete :
    IsLogged .delete ⟨.threshold, context, handle⟩ ((delete services context).on handle world) log
      ((delete services.logged context).on handle (world, log)) := by
  obtain ⟨calls, hremoved, hdecide⟩ := removeRule_logged services world log
    ⟨.threshold, context, handle⟩ context.physicalName
  rw [on_delete, on_delete, hremoved]
  revert hdecide
  rcases (removeRule services.rules context.physicalName).on world with ⟨outcome, removed⟩
  dsimp only
  rcases MeteringAlarms.ignoreMissing outcome with failure | ⟨⟩
  · exact fun hdecide ↦ ⟨rfl, calls, rfl, hdecide⟩
  · intro hdecide
    obtain ⟨hsame, later, hlog, hlater⟩ := CombinationAlarm.isLogged_delete services removed
      (log ++ calls) .threshold context handle
    exact ⟨hsame, calls ++ later, hlog.trans (List.append_assoc ..), hdecide.append hlater⟩

/-- Every callback. -/
theorem isLogged (event : LifecycleEvent) :
    IsLogged event ⟨type, context, handle⟩
      ((event.handle type services context now).on handle world) log
      ((event.handle type services.logged context now).on handle (world, log)) := by
  cases event with
  | create =>
    cases type with
    | threshold => exact ThresholdAlarm.isLogged_create services world log context handle now
    | combination => exact CombinationAlarm.isLogged_create services world log context handle
  | update changes => exact isLogged_update services world log type context handle now changes
  | suspend => exact isLogged_switch services world log type context handle .suspend nofun false _
  | resume => exact isLogged_switch services world log type context handle .resume nofun true _
  | delete =>
    cases type with
    | threshold => exact ThresholdAlarm.isLogged_delete services world log context handle
    | combination =>
      exact CombinationAlarm.isLogged_delete services world log .combination context handle

/-! A callback that fails leaves the handle as it was. -/

variable {failure : Failure}

theorem ThresholdAlarm.handle_of_create_error :
    ((create services context now).on handle world).1 = .error failure →
      ((create services context now).on handle world).2.1 = handle := by
  rw [on_create]
  rcases (services.alarms.create (createPayload context)).on world with ⟨other | alarm, created⟩
  · exact fun _ ↦ rfl
  · dsimp only
    rcases (services.rules.create (watchRule context now)).on created with
      ⟨other | ⟨⟩, registered⟩
    · exact fun _ ↦ rfl
    · exact nofun

theorem CombinationAlarm.handle_of_create_error :
    ((create services context).on handle world).1 = .error failure →
      ((create services context).on handle world).2.1 = handle := by
  rw [on_create]
  rcases (services.alarms.create (createPayload context)).on world with ⟨other | alarm, created⟩
  · exact fun _ ↦ rfl
  · exact nofun

/-- An update leaves the handle as it was in any case. -/
theorem LifecycleEvent.handle_of_update (changes : Fields) :
    (((LifecycleEvent.update changes).handle type services context now).on handle world).2.1 =
      handle := by
  rw [on_update]
  split
  · rfl
  · rcases handle.alarmId? with _ | id <;> rfl

theorem Callback.handle_of_switch_error (enabled : Bool) (state : LifecycleState) :
    ((switch services.alarms enabled state).on handle world).1 = .error failure →
      ((switch services.alarms enabled state).on handle world).2.1 = handle := by
  rw [on_switch]
  rcases handle.alarmId? with _ | id
  · exact fun _ ↦ rfl
  · dsimp only
    cases ((services.alarms.update id (.ofList [(PropertyName.enabled, .bool enabled)])).on
      world).1 with
    | error other => exact fun _ ↦ rfl
    | ok => exact nofun

theorem CombinationAlarm.handle_of_delete_error :
    ((delete services).on handle world).1 = .error failure →
      ((delete services).on handle world).2.1 = handle := by
  rw [on_delete, Callback.on_removeAlarm]
  rcases handle.alarmId? with _ | id
  · exact nofun
  · dsimp only
    cases ignoreMissing ((services.alarms.delete id).on world).1 with
    | error other => exact fun _ ↦ rfl
    | ok => exact nofun

theorem ThresholdAlarm.handle_of_delete_error :
    ((delete services context).on handle world).1 = .error failure →
      ((delete services context).on handle world).2.1 = handle := by
  rw [on_delete]
  rcases (removeRule services.rules context.physicalName).on world with ⟨outcome, removed⟩
  dsimp only
  cases ignoreMissing outcome with
  | error other => exact fun _ ↦ rfl
  | ok => exact CombinationAlarm.handle_of_delete_error services removed handle

theorem LifecycleEvent.handle_of_error (event : LifecycleEvent) :
    ((event.handle type services context now).on handle world).1 = .error failure →
      ((event.handle type services context now).on handle world).2.1 = handle := by
  cases event with
  | create =>
    cases type with
    | threshold => exact ThresholdAlarm.handle_of_create_error services world context handle now
    | combination => exact CombinationAlarm.handle_of_create_error services world context handle
  | update changes =>
    exact fun _ ↦ handle_of_update services world type context handle now changes
  | suspend => exact Callback.handle_of_switch_error services world handle false .suspended
  | resume => exact Callback.handle_of_switch_error services world handle true .active
  | delete =>
    cases type with
    | threshold => exact ThresholdAlarm.handle_of_delete_error services world context handle
    | combination => exact CombinationAlarm.handle_of_delete_error services world handle

end Callbacks

/-- A rule store that undoes what it fails to do, and finds under a name what is stored there. -/
structure RuleStore.RollsBack (store : RuleStore (StateM ρ)) (rulesOf : ρ → RuleBook) : Prop where
  create : ∀ rule state failure, ((store.create rule).on state).1 = .error failure →
    rulesOf ((store.create rule).on state).2 = rulesOf state
  load : ∀ name state, rulesOf ((store.load name).on state).2 = rulesOf state
  found : ∀ name state rule, ((store.load name).on state).1 = .ok rule →
    (rulesOf state).get? name = some rule
  destroy : ∀ name state failure, ((store.destroy name).on state).1 = .error failure →
    rulesOf ((store.destroy name).on state).2 = rulesOf state
  destroyed : ∀ name state, ((store.destroy name).on state).1 = .ok () →
    rulesOf ((store.destroy name).on state).2 = (rulesOf state).erase name

/-- Both kinds of store do so, whatever steps on files fail. -/
theorem RuleKeeping.rollsBack (keeping : RuleKeeping) (verdict : Verdict) :
    (keeping.store verdict).RollsBack Prod.fst where
  create rule state failure hfailed := by
    obtain ⟨rules, folder⟩ := state
    rcases keeping.create_cases verdict rule rules folder with
      ⟨_, hstep⟩ | ⟨_, _, hstep⟩ | ⟨_, _, files, _, hstep⟩
    · rw [hstep]
    · rw [hstep] at hfailed
      cases hfailed
    · rw [hstep]
  load name state := by rw [keeping.load_eq]
  found name state rule hfound := by
    rw [keeping.load_eq, RuleBook.load] at hfound
    split at hfound
    · cases hfound
      assumption
    · cases hfound
  destroy name state failure hfailed := by
    obtain ⟨rules, folder⟩ := state
    cases hrule : rules.get? name with
    | none => rw [keeping.destroy_of_none verdict name rules folder hrule]
    | some rule =>
      rcases keeping.destroy_of_some verdict name rules folder hrule with
        ⟨_, hstep⟩ | ⟨_, files, _, hstep⟩
      · rw [hstep] at hfailed
        cases hfailed
      · rw [hstep]
  destroyed name state hdone := by
    obtain ⟨rules, folder⟩ := state
    cases hrule : rules.get? name with
    | none =>
      rw [keeping.destroy_of_none verdict name rules folder hrule] at hdone
      cases hdone
    | some rule =>
      rcases keeping.destroy_of_some verdict name rules folder hrule with
        ⟨_, hstep⟩ | ⟨_, files, _, hstep⟩
      · rw [hstep]
      · rw [hstep] at hdone
        cases hdone

/-- Removing the rule of a name does nothing or takes that rule. -/
theorem RuleStore.RollsBack.removeRule_cases {store : RuleStore (StateM ρ)}
    {rulesOf : ρ → RuleBook} (h : store.RollsBack rulesOf) (name : String) {state : ρ}
    (hkeyed : (rulesOf state).IsKeyed) :
    (∃ failure, ((ThresholdAlarm.removeRule store name).on state).1 = .error failure ∧
      rulesOf ((ThresholdAlarm.removeRule store name).on state).2 = rulesOf state) ∨
    ((ThresholdAlarm.removeRule store name).on state).1 = .ok () ∧
      ((rulesOf state).get? name).isSome ∧
      rulesOf ((ThresholdAlarm.removeRule store name).on state).2 = (rulesOf state).erase name := by
  have hload := h.load name state
  have hfound := h.found name state
  rw [ThresholdAlarm.on_removeRule]
  revert hload hfound
  rcases (store.load name).on state with ⟨failure | rule, loaded⟩
  · exact fun hload _ ↦ Or.inl ⟨failure, rfl, hload⟩
  · intro hload hfound
    have hrule : (rulesOf state).get? name = some rule := hfound rule rfl
    have hname : rule.name = name := hkeyed name rule hrule
    have hloaded : rulesOf loaded = rulesOf state := hload
    dsimp only
    rw [hname, hrule, ← hloaded]
    cases houtcome : ((store.destroy name).on loaded).1 with
    | error failure => exact Or.inl ⟨failure, rfl, h.destroy name loaded failure houtcome⟩
    | ok => exact Or.inr ⟨rfl, rfl, h.destroyed name loaded houtcome⟩

namespace AlarmMemory

variable {memory : AlarmMemory} {id : String} {failure : Failure}

theorem alarms_update_of_error {changes : Fields}
    (hfailed : (memory.update id changes).1 = .error failure) :
    (memory.update id changes).2.alarms = memory.alarms := by
  obtain ⟨-, ⟨_, -, hsame⟩ | ⟨_, hdone, -⟩⟩ := memory.update_effect id changes
  · exact hsame
  · rw [hdone] at hfailed
    cases hfailed

theorem alarms_delete_of_error (hfailed : (memory.delete id).1 = .error failure) :
    (memory.delete id).2.alarms = memory.alarms := by
  rcases memory.delete_cases id with ⟨_, hstep⟩ | ⟨_, _, hstep⟩ | ⟨_, _, hstep⟩
  · rw [hstep]
  · rw [hstep, record]
  · rw [hstep] at hfailed
    cases hfailed

end AlarmMemory

section Memory

variable (newId : Nat → String) {store : RuleStore (StateM ρ)} {rulesOf : ρ → RuleBook}
  (hstore : store.RollsBack rulesOf) (context : Context) (now : Timestamp) (handle : Handle)
  {memory : AlarmMemory} (hfresh : memory.alarms.get? (newId memory.issued) = none) (state : ρ)
  {failure : Failure}

/-- The services hold the same alarms and the same rules. -/
structure SameHoldings (rulesOf : ρ → RuleBook) (left right : AlarmMemory × ρ) : Prop where
  alarms : left.1.alarms = right.1.alarms
  rules : rulesOf left.2 = rulesOf right.2

include hstore hfresh in
theorem ThresholdAlarm.sameHoldings_of_create :
    ((create (.overMemory newId store) context now).on handle (memory, state)).1 =
        .error failure →
      SameHoldings rulesOf
        ((create (.overMemory newId store) context now).on handle (memory, state)).2.2
        (memory, state) := by
  have hwithdrawn := alarms_withdrawn newId (createPayload context) hfresh
  rw [on_create, Services.overMemory_create]
  rcases memory.create_cases newId (createPayload context) with ⟨_, hcreate⟩ | ⟨_, hcreate⟩
  · rw [hcreate]
    exact fun _ ↦ ⟨rfl, rfl⟩
  · rw [withdrawn, hcreate] at hwithdrawn
    rw [hcreate]
    dsimp only at hwithdrawn ⊢
    have hrules := hstore.create (watchRule context now) state
    rw [Services.overMemory_createRule]
    revert hrules
    rcases (store.create (watchRule context now)).on state with ⟨other | ⟨⟩, registered⟩
    · exact fun hrules _ ↦ ⟨hwithdrawn, hrules other rfl⟩
    · rintro _ ⟨⟩

variable (memory) in
theorem CombinationAlarm.sameHoldings_of_create :
    ((create (.overMemory newId store) context).on handle (memory, state)).1 = .error failure →
      SameHoldings rulesOf
        ((create (.overMemory newId store) context).on handle (memory, state)).2.2
        (memory, state) := by
  rw [on_create, Services.overMemory_create]
  rcases memory.create_cases newId (createPayload context) with ⟨_, hcreate⟩ | ⟨_, hcreate⟩
  · rw [hcreate]
    exact fun _ ↦ ⟨rfl, rfl⟩
  · rw [hcreate]
    exact nofun

variable (memory) in
theorem sameHoldings_of_update (type : ResourceType) (changes : Fields) :
    (((LifecycleEvent.update changes).handle type (.overMemory newId store) context now).on handle
        (memory, state)).1 = .error failure →
      SameHoldings rulesOf
        (((LifecycleEvent.update changes).handle type (.overMemory newId store) context now).on
          handle (memory, state)).2.2
        (memory, state) := by
  rw [LifecycleEvent.on_update]
  cases changes.isEmpty with
  | true => exact nofun
  | false =>
    rw [if_neg Bool.false_ne_true]
    rcases handle.alarmId? with _ | id
    · exact fun _ ↦ ⟨rfl, rfl⟩
    · exact fun hfailed ↦ ⟨AlarmMemory.alarms_update_of_error hfailed, rfl⟩

variable (memory) in
theorem sameHoldings_of_switch (enabled : Bool) (lifecycle : LifecycleState) :
    ((Callback.switch (Services.overMemory newId store).alarms enabled lifecycle).on handle
        (memory, state)).1 = .error failure →
      SameHoldings rulesOf
        ((Callback.switch (Services.overMemory newId store).alarms enabled lifecycle).on handle
          (memory, state)).2.2
        (memory, state) := by
  rw [Callback.on_switch]
  rcases handle.alarmId? with _ | id
  · exact nofun
  · dsimp only
    rw [Services.overMemory_update]
    dsimp only
    cases houtcome : (memory.update id (.ofList [(PropertyName.enabled, .bool enabled)])).1 with
    | error other => exact fun _ ↦ ⟨AlarmMemory.alarms_update_of_error houtcome, rfl⟩
    | ok => exact nofun

variable (memory) in
/-- A removal that cannot take the alarm changes nothing after the rule is gone. -/
theorem sameHoldings_of_delete :
    ((CombinationAlarm.delete (.overMemory newId store)).on handle (memory, state)).1 =
        .error failure →
      SameHoldings rulesOf
        ((CombinationAlarm.delete (.overMemory newId store)).on handle (memory, state)).2.2
        (memory, state) ∧
      ∃ id, handle.alarmId? = some id ∧ (memory.delete id).1 = .error failure := by
  rw [CombinationAlarm.on_delete, Callback.on_removeAlarm]
  rcases handle.alarmId? with _ | id
  · exact nofun
  · dsimp only
    rw [Services.overMemory_delete]
    dsimp only
    cases houtcome : (memory.delete id).1 with
    | error other =>
      rw [ignoreMissing]
      cases other.isMissing with
      | true => exact nofun
      | false =>
        rintro ⟨⟩
        exact ⟨⟨AlarmMemory.alarms_delete_of_error houtcome, rfl⟩, id, rfl, houtcome⟩
    | ok => exact nofun

/-- What a removal leaves that fails: all that there was, or all but the rule, when the alarm could
not be taken after it. -/
inductive Remains (rulesOf : ρ → RuleBook) (name : String) (alarmId? : Option String)
    (failure : Failure) (before after : AlarmMemory × ρ) : Prop
  | all (same : SameHoldings rulesOf after before)
  | allButRule (alarms : after.1.alarms = before.1.alarms)
      (stored : ((rulesOf before.2).get? name).isSome)
      (rules : rulesOf after.2 = (rulesOf before.2).erase name)
      (failed : ∃ id, alarmId? = some id ∧ (before.1.delete id).1 = .error failure)

variable (memory) {state} in
include hstore in
theorem ThresholdAlarm.remains_of_delete (hkeyed : (rulesOf state).IsKeyed) :
    ((delete (.overMemory newId store) context).on handle (memory, state)).1 = .error failure →
      Remains rulesOf context.physicalName handle.alarmId? failure (memory, state)
        ((delete (.overMemory newId store) context).on handle (memory, state)).2.2 := by
  rw [on_delete, Services.overMemory_removeRule]
  dsimp only
  rcases hstore.removeRule_cases context.physicalName hkeyed with
    ⟨other, houtcome, hrules⟩ | ⟨houtcome, hstored, hrules⟩
  · rw [houtcome, ignoreMissing]
    cases other.isMissing with
    | true =>
      intro hfailed
      obtain ⟨hsame, hid⟩ := sameHoldings_of_delete newId handle memory _ hfailed
      exact .all ⟨hsame.alarms, hsame.rules.trans hrules⟩
    | false => exact fun _ ↦ .all ⟨rfl, hrules⟩
  · rw [houtcome]
    intro hfailed
    obtain ⟨hsame, hid⟩ := sameHoldings_of_delete newId handle memory _ hfailed
    exact .allButRule hsame.alarms hstored (hsame.rules.trans hrules) hid

end Memory

namespace Resource

/-- What a callback that fails leaves behind in services in memory. -/
theorem remains_of_error (newId : Nat → String) {store : RuleStore (StateM ρ)}
    {rulesOf : ρ → RuleBook} (hstore : store.RollsBack rulesOf) (resource : Resource)
    (now : Timestamp) (event : LifecycleEvent) {memory : AlarmMemory}
    (hfresh : memory.alarms.get? (newId memory.issued) = none) {state : ρ}
    (hkeyed : (rulesOf state).IsKeyed) {failure : Failure}
    (hfailed : (resource.perform (.overMemory newId store) now event (memory, state)).1 =
      .error failure) :
    let after := (resource.perform (.overMemory newId store) now event (memory, state)).2.2
    SameHoldings rulesOf after (memory, state) ∨
      event = .delete ∧ resource.type = .threshold ∧
        Remains rulesOf resource.context.physicalName resource.handle.alarmId? failure
          (memory, state) after := by
  obtain ⟨type, context, handle⟩ := resource
  rw [perform_eq] at hfailed ⊢
  dsimp only at hfailed ⊢
  cases event with
  | create =>
    left
    cases type with
    | threshold =>
      exact ThresholdAlarm.sameHoldings_of_create newId hstore context now handle hfresh state
        hfailed
    | combination =>
      exact CombinationAlarm.sameHoldings_of_create newId context handle memory state hfailed
  | update changes =>
    exact Or.inl (sameHoldings_of_update newId context now handle memory state type changes hfailed)
  | suspend => exact Or.inl (sameHoldings_of_switch newId handle memory state false _ hfailed)
  | resume => exact Or.inl (sameHoldings_of_switch newId handle memory state true _ hfailed)
  | delete =>
    cases type with
    | threshold =>
      exact Or.inr ⟨rfl, rfl, ThresholdAlarm.remains_of_delete newId hstore context handle memory
        hkeyed hfailed⟩
    | combination => exact Or.inl (sameHoldings_of_delete newId handle memory state hfailed).1

/-- A callback that fails leaves its resource as it was, whatever the services answer, and reports
the failure of the call that stopped it, never that of a call that takes back a new alarm, or that
there is no alarm to update.  Over services in memory and a rule store that undoes what it fails to
do, all alarms and rules are those from before, unless a removal has taken the rule of its own name
before the alarm could not be taken. -/
theorem failure_leaves_no_trace (services : Services (StateM ω)) (world : ω)
    (newId : Nat → String) {store : RuleStore (StateM ρ)} {rulesOf : ρ → RuleBook}
    (hstore : store.RollsBack rulesOf) (resource : Resource) (now : Timestamp)
    (event : LifecycleEvent) {memory : AlarmMemory}
    (hfresh : memory.alarms.get? (newId memory.issued) = none) {state : ρ}
    (hkeyed : (rulesOf state).IsKeyed) (failure : Failure) :
    let name := resource.context.physicalName
    let after := resource.perform services now event world
    let logged := resource.perform services.logged now event (world, [])
    let inMemory := resource.perform (.overMemory newId store) now event (memory, state)
    (logged.1, logged.2.1, logged.2.2.1) = after ∧
    (after.1 = .error failure → after.2.1 = resource ∧
      (Stops event failure logged.2.2.2 ∨
        logged.2.2.2 = [] ∧ resource.handle.alarmId? = none ∧ failure = .noAlarm name)) ∧
    (inMemory.1 = .error failure →
      inMemory.2.2.1.alarms = memory.alarms ∧
      (rulesOf inMemory.2.2.2 = rulesOf state ∨
        event = .delete ∧ resource.type = .threshold ∧ ((rulesOf state).get? name).isSome ∧
          rulesOf inMemory.2.2.2 = (rulesOf state).erase name ∧
          ∃ id, resource.handle.alarmId? = some id ∧ (memory.delete id).1 = .error failure)) := by
  intro name after logged inMemory
  obtain ⟨hsame, calls, hcalls, hdecide⟩ := isLogged services world [] resource.type
    resource.context resource.handle now event
  refine ⟨congrArg (fun step ↦ (step.1, { resource with handle := step.2.1 }, step.2.2)) hsame,
    fun hfailed ↦ ⟨?_, ?_⟩, fun hfailed ↦ ?_⟩
  · exact congrArg (fun handle ↦ { resource with handle })
      (event.handle_of_error services world resource.type resource.context resource.handle now
        hfailed)
  · have hlog : logged.2.2.2 = calls := hcalls
    have houtcome : ((event.handle resource.type services resource.context now).on resource.handle
      world).1 = .error failure := hfailed
    rw [houtcome] at hdecide
    rw [hlog]
    cases hdecide with
    | stopped stopped => exact Or.inl stopped
    | noAlarm update none => exact Or.inr ⟨rfl, none, rfl⟩
  · rcases remains_of_error newId hstore resource now event hfresh hkeyed hfailed with
      hsame | ⟨hevent, htype, hremains⟩
    · exact ⟨hsame.alarms, Or.inl hsame.rules⟩
    · cases hremains with
      | all same => exact ⟨same.alarms, Or.inl same.rules⟩
      | allButRule alarms stored rules failed =>
        exact ⟨alarms, Or.inr ⟨hevent, htype, stored, rules, failed⟩⟩

/-- A removal takes the rule of its name from the file and then finds the alarm service switched
off. -/
theorem failure_leaves_no_trace_of_refused_removal :
    let newId (n : Nat) := String.ofList (List.replicate n 'a')
    let store := (RuleKeeping.snapshot "rules").store ⟨true, none, true, true⟩
    let resource : Resource :=
      ⟨.threshold, ⟨"OS::Ceilometer::Alarm", "own", "stack", .empty, .empty⟩, .attached "a"⟩
    let memory : AlarmMemory :=
      { alarms := .ofList [("a", .empty)], unavailable := true, issued := 2 }
    let rules : RuleBook := .ofList [("own", .made "own" .null "stack" .delegated ⟨0, 0⟩)]
    store.RollsBack Prod.fst ∧ rules.IsKeyed ∧
    memory.alarms.get? (newId memory.issued) = none ∧
    ∃ after,
      after = resource.perform (.overMemory newId store) ⟨1, 0⟩ .delete (memory, rules, .empty) ∧
      after.1 = .error AlarmMemory.refusal ∧ after.2.1 = resource ∧
      after.2.2.1.alarms = memory.alarms ∧ after.2.2.2.1 = rules.erase "own" := by
  intro newId store resource memory rules
  have hstore : store.RollsBack Prod.fst := RuleKeeping.rollsBack _ _
  have hkeyed : (Prod.fst (rules, (.empty : Folder))).IsKeyed := by
    intro name rule hrule
    rw [OrderedMap.get?_ofList_singleton] at hrule
    split at hrule
    · rename_i hname
      cases hrule
      exact hname.symm
    · cases hrule
  have hfresh : memory.alarms.get? (newId memory.issued) = none := rfl
  have hfailed : (resource.perform (.overMemory newId store) ⟨1, 0⟩ .delete
      (memory, rules, .empty)).1 = .error AlarmMemory.refusal := by
    decide +kernel
  have hgone : (resource.perform (.overMemory newId store) ⟨1, 0⟩ .delete
      (memory, rules, .empty)).2.2.2.1.get? "own" = none := by
    decide +kernel
  obtain ⟨-, hresource, hholdings⟩ := failure_leaves_no_trace (.overMemory newId store)
    (memory, rules, .empty) newId hstore resource ⟨1, 0⟩ .delete hfresh hkeyed AlarmMemory.refusal
  obtain ⟨halarms, hrules⟩ := hholdings hfailed
  refine ⟨hstore, hkeyed, hfresh, _, rfl, hfailed, (hresource hfailed).1, halarms, ?_⟩
  rcases hrules with hsame | ⟨-, -, -, htaken, -⟩
  · rw [hsame] at hgone
    cases hgone
  · exact htaken

end Resource

end MeteringAlarms
