import MeteringAlarms.Data.Text
import MeteringAlarms.Failure
import MeteringAlarms.Json.Record
import MeteringAlarms.Toml.Reader

/-!
# Settings of the alarm service

Where the alarm service is and how to reach it. Settings come from a TOML file; a setting that is
not there takes its default. An endpoint must be an `http` or `https` address and the time-out at
least a second.
-/

namespace MeteringAlarms

structure Settings where
  endpoint : String := "http://localhost:8777"
  token? : Option String := none
  timeoutSeconds : Nat := 30
  /-- The directory of the rule store; without one rules are kept in memory. -/
  ruleDirectory? : Option String := none
  deriving DecidableEq

namespace Settings

def fieldNames : List String :=
  ["endpoint", "auth_token", "timeout_secs", "watch_rule_path"]

/-- The first fault of settings, if there is one. -/
def validate (settings : Settings) : Except Failure Unit :=
  if settings.endpoint.isEmpty then .error (.configuration .emptyEndpoint)
  else if !Text.startsWith settings.endpoint "http://" &&
      !Text.startsWith settings.endpoint "https://" then
    .error (.configuration (.unsupportedScheme settings.endpoint))
  else if settings.timeoutSeconds = 0 then .error (.configuration .zeroTimeout)
  else .ok ()

/-- The settings that a JSON document describes. -/
def ofDocument? (document : Document) : Option Settings := do
  let record ← document.record? fieldNames
  let endpoint ← record.withDefault "endpoint" ({} : Settings).endpoint Document.string?
  let token? ← record.withDefault "auth_token" none Document.optionalString?
  let timeoutSeconds ← record.withDefault "timeout_secs" 30 Document.unsigned?
  let ruleDirectory? ← record.withDefault "watch_rule_path" none Document.optionalString?
  some { endpoint, token?, timeoutSeconds, ruleDirectory? }

def ofJson? (value : Json) : Option Settings :=
  ofDocument? (.ofJson value)

/-- A setting whose value is a string; one that is not there is `none`. -/
def tomlString? (entries : Toml.Entries) (name : String) : Option (Option String) :=
  match Toml.find? name entries with
  | none => some none
  | some (.string text) => some (some text)
  | some _ => none

/-- A setting whose value is a whole number that is not negative. -/
def tomlUnsigned? (entries : Toml.Entries) (name : String) : Option (Option Nat) :=
  match Toml.find? name entries with
  | none => some none
  | some (.integer value) => if 0 ≤ value then some (some value.toNat) else none
  | some _ => none

/-- The settings that the entries of a TOML document describe; other entries do not matter. -/
def ofToml? (entries : Toml.Entries) : Option Settings := do
  let endpoint? ← tomlString? entries "endpoint"
  let token? ← tomlString? entries "auth_token"
  let timeout? ← tomlUnsigned? entries "timeout_secs"
  let ruleDirectory? ← tomlString? entries "watch_rule_path"
  let default : Settings := {}
  some {
    endpoint := endpoint?.getD default.endpoint
    token?
    timeoutSeconds := timeout?.getD default.timeoutSeconds
    ruleDirectory? }

/-- Reads and validates the settings of a TOML text. -/
def ofText (text : String) : Except Failure Settings :=
  match Toml.ofText? text >>= ofToml? with
  | none => .error (.configuration .malformed)
  | some settings => do
    settings.validate
    pure settings

/-- Reads the content of a settings file. -/
def ofFile (path : String) (content : Except ReadFault String) : Except Failure Settings :=
  match content with
  | .error fault => .error (.configuration (.unreadable .configuration path fault))
  | .ok text => ofText text

end Settings

end MeteringAlarms
