import MeteringAlarms.Data.Digits

/-!
# What can go wrong

One type of failure for the whole library. A failure says what caused it; `Failure.message` is the
only place that puts it into words. Failures that say that something is already gone are told apart
from the rest, because removing something that is gone counts as done.
-/

namespace MeteringAlarms

/-- Why a file could not be read as text. -/
inductive ReadFault where
  | missing
  | notText
  | isDirectory
  | notDirectory
  | denied
  | nameTooLong
  | nulInName
  deriving DecidableEq

namespace ReadFault

def message : ReadFault → String
  | .missing => "No such file or directory (os error 2)"
  | .notText => "stream did not contain valid UTF-8"
  | .isDirectory => "Is a directory (os error 21)"
  | .notDirectory => "Not a directory (os error 20)"
  | .denied => "Permission denied (os error 13)"
  | .nameTooLong => "File name too long (os error 36)"
  | .nulInName => "file name contained an unexpected NUL byte"

end ReadFault

/-- What a file was to be read for. -/
inductive FileRole where
  | definition
  | configuration
  deriving DecidableEq

inductive ConfigurationFault where
  | emptyEndpoint
  | unsupportedScheme (endpoint : String)
  | zeroTimeout
  | malformed
  | unreadable (role : FileRole) (path : String) (fault : ReadFault)
  | other (detail : String)
  deriving DecidableEq

namespace ConfigurationFault

def message : ConfigurationFault → String
  | .emptyEndpoint => "endpoint cannot be empty"
  | .unsupportedScheme endpoint =>
    "endpoint must start with http:// or https://, got '" ++ endpoint ++ "'"
  | .zeroTimeout => "timeout_secs must be greater than 0"
  | .malformed => "invalid TOML"
  | .unreadable .definition path fault =>
    "failed to read definition '" ++ path ++ "': " ++ fault.message
  | .unreadable .configuration path fault =>
    "failed to read config file '" ++ path ++ "': " ++ fault.message
  | .other detail => detail

end ConfigurationFault

inductive PropertyFault where
  | unknownOperator (text : String)
  | unknownStatistic (text : String)
  | unknownType (name : String)
  | unset
  | other (detail : String)
  deriving DecidableEq

namespace PropertyFault

def message : PropertyFault → String
  | .unknownOperator text => "unknown operator '" ++ text ++ "'"
  | .unknownStatistic text => "unknown statistic '" ++ text ++ "'"
  | .unknownType name => "unknown resource type '" ++ name ++ "'"
  | .unset => "property is required"
  | .other detail => detail

end PropertyFault

inductive Failure where
  /-- The alarm service has no alarm of this id. -/
  | alarmMissing (id : String)
  /-- The rule store has no rule of this name. -/
  | ruleMissing (name : String)
  | ruleExists (name : String)
  | property (name : String) (fault : PropertyFault)
  /-- An operation needs an alarm, and the resource has none. -/
  | noAlarm (resource : String)
  /-- The alarm service answered, but not with success. -/
  | refused (status : Nat) (message : String)
  /-- No usable answer came back from the alarm service. -/
  | transport (detail : String)
  | configuration (fault : ConfigurationFault)
  /-- A text is not the JSON document it should be. -/
  | document (detail : String)
  /-- The rule store could not be written or read. -/
  | storage (detail : String)
  deriving DecidableEq

namespace Failure

def message : Failure → String
  | .alarmMissing id => "alarm not found: " ++ id
  | .ruleMissing name => "watch rule not found: " ++ name
  | .ruleExists name => "watch rule already exists: " ++ name
  | .property name fault => "invalid property " ++ name ++ ": " ++ fault.message
  | .noAlarm resource => "resource " ++ resource ++ " has no alarm yet"
  | .refused status message =>
    "alarm API error (status " ++ String.ofList (Digits.decimal status) ++ "): " ++ message
  | .transport detail => "transport error: " ++ detail
  | .configuration fault => "configuration error: " ++ fault.message
  | .document detail => "serialization error: " ++ detail
  | .storage detail => "persistence error: " ++ detail

/-- The failure says that what was asked for is not there. -/
def isMissing : Failure → Bool
  | .alarmMissing _ | .ruleMissing _ => true
  | _ => false

end Failure

/-- The outcome of a removal, for which something missing is as good as removed. -/
def ignoreMissing : Except Failure Unit → Except Failure Unit
  | .error failure => if failure.isMissing then .ok () else .error failure
  | .ok () => .ok ()

end MeteringAlarms
