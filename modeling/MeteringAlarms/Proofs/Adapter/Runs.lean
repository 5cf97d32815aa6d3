import MeteringAlarms.Proofs.Adapter.Callbacks
import MeteringAlarms.Proofs.Alarm.Memory
import MeteringAlarms.Proofs.Rule.Book

/-!
# Runs of callbacks

A run of a resource is a sequence of callbacks, each at a time of its own, between which the alarm
service may be switched off and on.  A `Moment` is what such a run has come to: the callbacks so far
with their outcomes, the resource, and the state that the services share.  Runs are given in two
ways, as the moments that some run leads to and as the moments that a given list of steps passes.
-/

namespace MeteringAlarms

variable {ω : Type}

structure Moment (ω : Type) where
  /-- The callbacks so far with their outcomes, the latest first. -/
  history : List (LifecycleEvent × Except Failure Unit) := []
  resource : Resource
  world : ω

namespace Moment

/-- The moment after a callback. -/
def after (services : Services (StateM ω)) (now : Timestamp) (event : LifecycleEvent)
    (moment : Moment ω) : Moment ω :=
  let (outcome, resource, world) := moment.resource.perform services now event moment.world
  ⟨(event, outcome) :: moment.history, resource, world⟩

/-- The moment after a change of the services that no callback makes. -/
def withWorld (change : ω → ω) (moment : Moment ω) : Moment ω :=
  { moment with world := change moment.world }

end Moment

/-- The moments that runs from a start lead to, of callbacks that are asked for when `Asked` says
so, with the alarm service switched off and on at will by `setAvailable`. -/
inductive Reachable (services : Services (StateM ω)) (setAvailable : Bool → ω → ω)
    (Asked : Resource → LifecycleEvent → Prop) (start : Moment ω) : Moment ω → Prop
  | start : Reachable services setAvailable Asked start start
  | callback {moment : Moment ω} (event : LifecycleEvent) (now : Timestamp)
      (before : Reachable services setAvailable Asked start moment)
      (asked : Asked moment.resource event) :
      Reachable services setAvailable Asked start (moment.after services now event)
  | switch {moment : Moment ω} (available : Bool)
      (before : Reachable services setAvailable Asked start moment) :
      Reachable services setAvailable Asked start (moment.withWorld (setAvailable available))

/-- A step of a run. -/
inductive Step where
  | callback (event : LifecycleEvent)
  | switch (available : Bool)

namespace Step

/-- The moment after a step. -/
def take (services : Services (StateM ω)) (setAvailable : Bool → ω → ω) (now : Timestamp)
    (step : Step) (moment : Moment ω) : Moment ω :=
  match step with
  | .callback event => moment.after services now event
  | .switch available => moment.withWorld (setAvailable available)

/-- The moments after each of the steps; `clock n` is the time of the `n`-th from zero. -/
def trace (services : Services (StateM ω)) (setAvailable : Bool → ω → ω) :
    (clock : Nat → Timestamp) → List Step → Moment ω → List (Moment ω)
  | _, [], _ => []
  | clock, step :: steps, moment =>
    let next := step.take services setAvailable (clock 0) moment
    next :: trace services setAvailable (fun n ↦ clock (n + 1)) steps next

/-- Runs of the same steps over two services agree at every moment if what they have in common is
kept by each step that the first passes. -/
theorem forall₂_trace {ω' : Type} {services : Services (StateM ω)}
    {services' : Services (StateM ω')} {setAvailable : Bool → ω → ω}
    {setAvailable' : Bool → ω' → ω'} {Coupled Agrees : Moment ω → Moment ω' → Prop}
    {Takes : Step → Prop} {Passes : Moment ω → Prop} {clock clock' : Nat → Timestamp}
    {steps : List Step} {left : Moment ω} {right : Moment ω'} (h : Coupled left right)
    (hsteps : ∀ step ∈ steps, Takes step)
    (hpasses : ∀ moment ∈ trace services setAvailable clock steps left, Passes moment)
    (hagrees : ∀ left right, Coupled left right → Agrees left right)
    (htake : ∀ step left right now now', Takes step → Coupled left right →
      Passes (step.take services setAvailable now left) →
      Coupled (step.take services setAvailable now left)
        (step.take services' setAvailable' now' right)) :
    List.Forall₂ Agrees (trace services setAvailable clock steps left)
      (trace services' setAvailable' clock' steps right) := by
  induction steps generalizing clock clock' left right with
  | nil => exact .nil
  | cons step steps ih =>
    obtain ⟨hstep, hsteps⟩ := List.forall_mem_cons.1 hsteps
    obtain ⟨hnext, hpasses⟩ := List.forall_mem_cons.1 hpasses
    have hcoupled := htake step left right (clock 0) (clock' 0) hstep h hnext
    exact .cons (hagrees _ _ hcoupled) (ih hcoupled hsteps hpasses)

end Step

namespace Services

variable {ρ : Type}

/-- The alarm service in memory beside a rule store; `newId n` is the id of the `n`-th alarm. -/
def overMemory (newId : Nat → String) (rules : RuleStore (StateM ρ)) :
    Services (StateM (AlarmMemory × ρ)) :=
  join (AlarmMemory.service newId) rules

/-- The services in memory. -/
abbrev inMemory (newId : Nat → String) : Services (StateM (AlarmMemory × RuleBook)) :=
  overMemory newId RuleBook.store

variable (newId : Nat → String) (store : RuleStore (StateM ρ)) (memory : AlarmMemory) (rules : ρ)

@[simp] theorem overMemory_create (payload : Fields) :
    ((overMemory newId store).alarms.create payload).on (memory, rules) =
      ((memory.create newId payload).1, (memory.create newId payload).2, rules) := rfl

@[simp] theorem overMemory_update (id : String) (changes : Fields) :
    ((overMemory newId store).alarms.update id changes).on (memory, rules) =
      ((memory.update id changes).1, (memory.update id changes).2, rules) := rfl

@[simp] theorem overMemory_delete (id : String) :
    ((overMemory newId store).alarms.delete id).on (memory, rules) =
      ((memory.delete id).1, (memory.delete id).2, rules) := rfl

@[simp] theorem overMemory_createRule (rule : WatchRule) :
    ((overMemory newId store).rules.create rule).on (memory, rules) =
      (((store.create rule).on rules).1, memory, ((store.create rule).on rules).2) := rfl

theorem overMemory_removeRule (name : String) :
    (ThresholdAlarm.removeRule (overMemory newId store).rules name).on (memory, rules) =
      (((ThresholdAlarm.removeRule store name).on rules).1, memory,
        ((ThresholdAlarm.removeRule store name).on rules).2) :=
  join_removeRule _ store memory rules name

end Services

namespace RuleBook

variable {name : String} {rules : RuleBook}

theorem removeRule_of_none (h : rules.get? name = none) :
    (ThresholdAlarm.removeRule RuleBook.store name).on rules =
      (.error (.ruleMissing name), rules) := by
  have hload : (RuleBook.store.load name).on rules = (.error (.ruleMissing name), rules) :=
    load_of_none h
  rw [ThresholdAlarm.on_removeRule, hload]

theorem removeRule_eq_destroy {rule : WatchRule} (h : rules.get? name = some rule) :
    (ThresholdAlarm.removeRule RuleBook.store name).on rules =
      RuleBook.destroy rule.name rules := by
  have hload : (RuleBook.store.load name).on rules = (.ok rule, rules) := load_of_some h
  rw [ThresholdAlarm.on_removeRule, hload]
  rfl

theorem removeRule_of_some {rule : WatchRule} (h : rules.get? name = some rule)
    (hname : rule.name = name) :
    (ThresholdAlarm.removeRule RuleBook.store name).on rules = (.ok (), rules.erase name) := by
  rw [removeRule_eq_destroy h, hname, destroy_of_some h]

end RuleBook

end MeteringAlarms
