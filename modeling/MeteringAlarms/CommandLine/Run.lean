import MeteringAlarms.Adapter.Dispatch
import MeteringAlarms.Alarm.Remote
import MeteringAlarms.CommandLine.Arguments
import MeteringAlarms.Rule.Snapshot
import MeteringAlarms.Settings.Basic

/-!
# Carrying out a command

Every command but the list of types reads a definition file and acts on the resource that it
describes. The remote service and the rule store come from the settings; a rendering needs neither.
The answer of a command is a JSON document, indented, on lines of its own.
-/

namespace MeteringAlarms.CommandLine

/-- What a command finds around it. -/
structure Platform (m : Type → Type) where
  files : FileSystem m
  /-- Sends a request over the network; `none` if no answer comes back. -/
  send : Http.Request → m (Option Http.Response)
  /-- A new suffix for a physical name. -/
  newSuffix : m String
  newStackId : m String
  now : m Timestamp

/-- A link of the chain of causes that a failed command reports, outermost first. -/
inductive Cause where
  /-- What was being done. -/
  | context (text : String)
  | failure (failure : Failure)
  /-- A file could not be read. -/
  | unreadable (fault : ReadFault)
  /-- A text is not JSON. -/
  | notJson
  deriving DecidableEq

abbrev Run (m : Type → Type) := ExceptT (List Cause) m

variable {m : Type → Type} [Monad m] {α : Type}

/-- The outcome of a step; a failure is reported after what was being done, if that is said. -/
def orFail (outcome : Except Failure α) (doing : List String) : Run m α :=
  match outcome with
  | .ok value => pure value
  | .error failure => throw (doing.map .context ++ [.failure failure])

/-- The settings of the settings file, if one is given, with the endpoint that is given. -/
def settings (platform : Platform m) (invocation : Invocation) : Run m Settings := do
  let settings ← match invocation.config? with
    | some path =>
      orFail (Settings.ofFile path (← platform.files.read path)) ["loading config " ++ path]
    | none => pure {}
  match invocation.endpoint? with
  | some endpoint => pure { settings with endpoint }
  | none => pure settings

/-- Services that are ready for use: the rule store is a state, and this is what it holds. -/
structure Session (m : Type → Type) where
  services : Services (StateT RuleBook m)
  rules : RuleBook

/-- Opens the services that the settings ask for. -/
def openSession (platform : Platform m) (invocation : Invocation) : Run m (Session m) := do
  let settings ← settings platform invocation
  orFail settings.validate []
  let remote := RemoteAlarms.ofEndpoint settings.endpoint settings.token?
  let alarms := (remote.service platform.send).hoist fun action ↦ StateT.lift action
  match settings.ruleDirectory? with
  | some directory =>
    let outcome ← (Snapshot.openAt platform.files directory).run
    let rules ← orFail outcome []
    pure ⟨⟨alarms, Snapshot.store platform.files directory⟩, rules⟩
  | none => pure ⟨⟨alarms, RuleBook.store.hoist fun step rules ↦ pure (step.run rules)⟩, .empty⟩

def readDefinition (platform : Platform m) (subject : Subject) : Run m Definition := do
  let path := subject.definition
  let definition ←
    orFail (Definition.ofFile path (← platform.files.read path)) ["loading definition " ++ path]
  match subject.physicalName? with
  | some name => pure { definition with physicalName? := some name }
  | none => pure definition

/--
The definition of a resource that was created by an earlier command. Its physical name must be the
one of that time, so it cannot be left open.
-/
def readExisting (platform : Platform m) (subject : Subject) : Run m Definition := do
  let definition ← readDefinition platform subject
  if definition.physicalName?.isNone then
    throw [.context ("definition " ++ subject.definition ++
      " has no physical_name; pass --physical-name with the name printed by create")]
  pure definition

/-- The resource of a definition and its type. -/
def load (platform : Platform m) (definition : Definition) : Run m (Context × ResourceType) := do
  let context := Context.ofDefinition definition (← platform.newSuffix) (← platform.newStackId)
  let type ← orFail (ResourceType.find context.typeName) []
  pure (context, type)

/-- The changes of a file, which must be an object. -/
def readChanges (platform : Platform m) (path : String) : Run m Fields := do
  match ← platform.files.read path with
  | .error fault => throw [.context ("reading changes " ++ path), .unreadable fault]
  | .ok text =>
    match Json.ofText? text with
    | none => throw [.notJson]
    | some value =>
      match value.fields? with
      | some changes => pure changes
      | none => throw [.context ("changes must be a JSON object, got " ++ value.compact)]

/-- Carries out a callback from a given handle and gives the handle after it. -/
def perform (platform : Platform m) (session : Session m) (type : ResourceType)
    (context : Context) (handle : Handle) (event : LifecycleEvent) : Run m Handle := do
  let now ← platform.now
  let callback := event.handle type session.services context now
  let ((outcome, handle), _) ← (callback.run.run handle).run session.rules
  orFail outcome []
  pure handle

def listTypes : Json :=
  .array <| ResourceType.all.map fun type ↦ .ofEntries [
    ("type", .string type.name),
    ("support_status", .string type.supportStatus.text),
    ("properties", .array (type.schema.names.map .string))]

def render (platform : Platform m) (subject : Subject) : Run m Json := do
  let definition ← readDefinition platform subject
  let (context, type) ← load platform definition
  orFail context.validate []
  pure (.ofFields (type.createPayload context))

def create (platform : Platform m) (session : Session m) (subject : Subject) : Run m Json := do
  let definition ← readDefinition platform subject
  let (context, type) ← load platform definition
  orFail context.validate []
  let handle ← perform platform session type context {} .create
  pure <| .ofEntries [
    ("alarm_id", .ofOption handle.alarmId?),
    ("physical_name", .string context.physicalName),
    ("state", .string handle.state.name)]

/-- Applies changes and shows the alarm as the definition describes it with them. -/
def update (platform : Platform m) (session : Session m) (subject : Subject)
    (alarmId changesPath : String) : Run m Json := do
  let changes ← readChanges platform changesPath
  let definition ← readExisting platform subject
  let (context, type) ← load platform definition
  discard <| perform platform session type context (.attached alarmId) (.update changes)
  pure <| .ofEntries [
    ("alarm_id", .string alarmId),
    ("updated", .array (changes.keys.map .string)),
    ("alarm", .ofFields (type.createPayload (context.setProperties changes)))]

def toggle (platform : Platform m) (session : Session m) (subject : Subject) (alarmId : String)
    (event : LifecycleEvent) : Run m Json := do
  let definition ← readExisting platform subject
  let (context, type) ← load platform definition
  let handle ← perform platform session type context (.attached alarmId) event
  pure <| .ofEntries [
    ("alarm_id", .string alarmId), ("state", .string handle.state.name)]

/-- Carries out a command and gives its answer. -/
def Invocation.answer (platform : Platform m) (invocation : Invocation) : Run m Json := do
  match invocation.command with
  | .types => pure listTypes
  | .render subject => render platform subject
  | .create subject => create platform (← openSession platform invocation) subject
  | .update subject alarmId changes =>
    update platform (← openSession platform invocation) subject alarmId changes
  | .suspend subject alarmId =>
    toggle platform (← openSession platform invocation) subject alarmId .suspend
  | .resume subject alarmId =>
    toggle platform (← openSession platform invocation) subject alarmId .resume
  | .delete subject alarmId =>
    toggle platform (← openSession platform invocation) subject alarmId .delete

/-- Carries out a command and gives what it prints. -/
def Invocation.run (platform : Platform m) (invocation : Invocation) : Run m String := do
  let answer ← invocation.answer platform
  pure (answer.indented ++ "\n")

end MeteringAlarms.CommandLine
