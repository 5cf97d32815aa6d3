import MeteringAlarms.Failure

/-!
# The closed vocabularies of alarms

Comparisons, statistics and connectives as templates write them, the states a resource goes through
and the states a watch rule can be in, each with its written name.
-/

namespace MeteringAlarms

/-- The first listed value whose name is the given text. -/
def findNamed? {α : Type} (name : α → String) (all : List α) (text : String) : Option α :=
  all.find? fun value ↦ name value = text

inductive Comparison where
  | atLeast | above | equal | different | below | atMost
  deriving DecidableEq

namespace Comparison

def all : List Comparison := [.atLeast, .above, .equal, .different, .below, .atMost]

def name : Comparison → String
  | .atLeast => "ge"
  | .above => "gt"
  | .equal => "eq"
  | .different => "ne"
  | .below => "lt"
  | .atMost => "le"

def ofName? : String → Option Comparison := findNamed? name all

def read (text : String) : Except Failure Comparison :=
  match ofName? text with
  | some value => .ok value
  | none => .error (.property "comparison_operator" (.unknownOperator text))

end Comparison

inductive Statistic where
  | count | average | sum | least | greatest
  deriving DecidableEq

namespace Statistic

def all : List Statistic := [.count, .average, .sum, .least, .greatest]

def name : Statistic → String
  | .count => "count"
  | .average => "avg"
  | .sum => "sum"
  | .least => "min"
  | .greatest => "max"

def ofName? : String → Option Statistic := findNamed? name all

def read (text : String) : Except Failure Statistic :=
  match ofName? text with
  | some value => .ok value
  | none => .error (.property "statistic" (.unknownStatistic text))

end Statistic

/-- How a combination alarm joins its alarms. -/
inductive Connective where
  | conjunction | disjunction
  deriving DecidableEq

namespace Connective

def all : List Connective := [.conjunction, .disjunction]

def name : Connective → String
  | .conjunction => "and"
  | .disjunction => "or"

def ofName? : String → Option Connective := findNamed? name all

def read (text : String) : Except Failure Connective :=
  match ofName? text with
  | some value => .ok value
  | none => .error (.property "operator" (.unknownOperator text))

end Connective

/-- Where a resource is between its creation and its removal. -/
inductive LifecycleState where
  | absent | active | suspended | deleted
  deriving DecidableEq

namespace LifecycleState

def all : List LifecycleState := [.absent, .active, .suspended, .deleted]

def name : LifecycleState → String
  | .absent => "absent"
  | .active => "active"
  | .suspended => "suspended"
  | .deleted => "deleted"

def ofName? : String → Option LifecycleState := findNamed? name all

instance : Inhabited LifecycleState := ⟨.absent⟩

end LifecycleState

/-- The evaluation state of a watch rule. -/
inductive RuleState where
  | normal | alarm | noData | suspended
  /-- The alarm service evaluates in the rule's place. -/
  | delegated
  deriving DecidableEq

namespace RuleState

def all : List RuleState := [.normal, .alarm, .noData, .suspended, .delegated]

def name : RuleState → String
  | .normal => "NORMAL"
  | .alarm => "ALARM"
  | .noData => "NODATA"
  | .suspended => "SUSPENDED"
  | .delegated => "CEILOMETER_CONTROLLED"

def ofName? : String → Option RuleState := findNamed? name all

instance : Inhabited RuleState := ⟨.normal⟩

end RuleState

end MeteringAlarms
