import MeteringAlarms.Template.Property

/-!
# Registered resource types

The two types of resource that templates can declare, each with its registered name, how long it has
been supported, and the properties it declares.
-/

namespace MeteringAlarms

inductive SupportStatus where
  | supported
  | since (release : String)
  deriving DecidableEq

namespace SupportStatus

def text : SupportStatus → String
  | .supported => "supported"
  | .since release => "supported since " ++ release

end SupportStatus

inductive ResourceType where
  /-- Compares a statistic of one meter with a threshold. -/
  | threshold
  /-- Joins other alarms by a connective. -/
  | combination
  deriving DecidableEq

namespace ResourceType

/-- All types in the order of their names. -/
def all : List ResourceType := [.threshold, .combination]

def name : ResourceType → String
  | .threshold => "OS::Ceilometer::Alarm"
  | .combination => "OS::Ceilometer::CombinationAlarm"

def ofName? : String → Option ResourceType := findNamed? name all

def supportStatus : ResourceType → SupportStatus
  | .threshold => .supported
  | .combination => .since "2014.1"

def schema : ResourceType → Schema
  | .threshold => Schema.threshold
  | .combination => Schema.combination

/-- The type registered under a name. -/
def find (name : String) : Except Failure ResourceType :=
  match ofName? name with
  | some type => .ok type
  | none => .error (.property "type" (.unknownType name))

end ResourceType

end MeteringAlarms
