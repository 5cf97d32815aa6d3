import MeteringAlarms.Attempt
import MeteringAlarms.Data.Timestamp
import MeteringAlarms.Json.Record
import MeteringAlarms.Template.Terms

/-!
# Watch rules and their stores

A watch rule records under the physical name of a resource what its template asked to be watched. A
store keeps rules by name and refuses a name that is taken. In memory a store is a map; nothing else
can fail there.
-/

namespace MeteringAlarms

structure WatchRule where
  name : String
  /-- What the template asked for. -/
  rule : Json
  stackId : String
  state : RuleState
  createdAt : Timestamp
  updatedAt : Timestamp
  deriving DecidableEq

namespace WatchRule

/-- A rule made at a point in time. -/
def made (name : String) (rule : Json) (stackId : String) (state : RuleState) (now : Timestamp) :
    WatchRule :=
  { name, rule, stackId, state, createdAt := now, updatedAt := now }

def fieldNames : List String :=
  ["name", "rule", "stack_id", "state", "created_at", "updated_at"]

/-- The fields of a rule in their declared order, as they are written. -/
def members (rule : WatchRule) : List (String × Json) :=
  [("name", .string rule.name), ("rule", rule.rule), ("stack_id", .string rule.stackId),
    ("state", .string rule.state.name), ("created_at", .string rule.createdAt.toText),
    ("updated_at", .string rule.updatedAt.toText)]

def toJson (rule : WatchRule) : Json :=
  .object rule.members

def timestamp? (document : Document) : Option Timestamp :=
  document.string? >>= Timestamp.ofText?

/-- The rule that a document describes, with `room` levels of nesting left for it. -/
def ofDocument? (room : Nat) (document : Document) : Option WatchRule := do
  if room = 0 then none else
  let record ← document.record? fieldNames
  let name ← record.required "name" Document.string?
  let rule ← record.required "rule" (Document.toJson? (room - 1))
  let stackId ← record.required "stack_id" Document.string?
  let state ← record.required "state" fun document ↦ document.constantName? >>= RuleState.ofName?
  let createdAt ← record.required "created_at" timestamp?
  let updatedAt ← record.required "updated_at" timestamp?
  some { name, rule, stackId, state, createdAt, updatedAt }

def ofText? (text : String) : Option WatchRule :=
  Document.ofText? text >>= ofDocument? Document.maxDepth

end WatchRule

/-- The rules of a store, by name. -/
abbrev RuleBook := OrderedMap WatchRule

structure RuleStore (m : Type → Type) where
  /-- Adds a rule under its own name. -/
  create : WatchRule → Attempt m Unit
  load : (name : String) → Attempt m WatchRule
  /-- Removes the rule of a name. -/
  destroy : (name : String) → Attempt m Unit

namespace RuleStore

variable {m n : Type → Type}

/-- The same store in another monad. -/
def hoist (f : {α : Type} → m α → n α) (store : RuleStore m) : RuleStore n where
  create rule := (store.create rule).hoist f
  load name := (store.load name).hoist f
  destroy name := (store.destroy name).hoist f

end RuleStore

namespace RuleBook

def create (rule : WatchRule) (rules : RuleBook) : Except Failure Unit × RuleBook :=
  if rules.contains rule.name then (.error (.ruleExists rule.name), rules)
  else (.ok (), rules.insert rule.name rule)

def load (name : String) (rules : RuleBook) : Except Failure WatchRule × RuleBook :=
  match rules.get? name with
  | some rule => (.ok rule, rules)
  | none => (.error (.ruleMissing name), rules)

def destroy (name : String) (rules : RuleBook) : Except Failure Unit × RuleBook :=
  if rules.contains name then (.ok (), rules.erase name)
  else (.error (.ruleMissing name), rules)

/-- The store in memory. -/
def store : RuleStore (StateM RuleBook) where
  create rule := .ofStep (create rule)
  load name := .ofStep (load name)
  destroy name := .ofStep (destroy name)

end RuleBook

end MeteringAlarms
