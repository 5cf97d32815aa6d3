import MeteringAlarms.Data.Text

/-!
# The arguments of the command line

A command stands after the options that hold for all commands and before its own; the former may
stand after it as well, where they count for more. An option is written `-o value`, `-ovalue`,
`-o=value`, `--option value` or `--option=value`, and once at most on either side of the command.
An option's value that stands alone may not look like an option itself; only `-` may.
-/

namespace MeteringAlarms.CommandLine

/-- Why arguments are not carried out. Asking for help or for the version is among the reasons. -/
inductive UsageFault where
  | unknownArgument
  | unknownCommand
  | missingArgument
  | missingCommand
  | repeatedOption
  | badValue
  | surplusValue
  | helpAsked
  | versionAsked
  /-- There are no arguments at all. -/
  | nothingGiven
  deriving DecidableEq

inductive OptionName where
  | config | endpoint | definition | alarmId | physicalName | changes
  deriving DecidableEq

namespace OptionName

def long : OptionName → String
  | .config => "config"
  | .endpoint => "endpoint"
  | .definition => "definition"
  | .alarmId => "alarm-id"
  | .physicalName => "physical-name"
  | .changes => "changes"

def short? : OptionName → Option Char
  | .config => some 'c'
  | .endpoint => some 'e'
  | .definition => some 'd'
  | .alarmId => some 'a'
  | .physicalName => none
  | .changes => none

/-- The value is the path of a file and so not empty. -/
def isPath : OptionName → Bool
  | .config | .definition | .changes => true
  | _ => false

/-- The options that hold for all commands. -/
def shared : List OptionName := [.config, .endpoint]

end OptionName

inductive CommandName where
  | types | render | create | update | suspend | resume | delete
  deriving DecidableEq

namespace CommandName

def all : List CommandName := [.types, .render, .create, .update, .suspend, .resume, .delete]

def text : CommandName → String
  | .types => "types"
  | .render => "render"
  | .create => "create"
  | .update => "update"
  | .suspend => "suspend"
  | .resume => "resume"
  | .delete => "delete"

def ofText? (text : String) : Option CommandName :=
  all.find? fun name ↦ name.text = text

def required : CommandName → List OptionName
  | .types => []
  | .render | .create => [.definition]
  | .update => [.definition, .alarmId, .changes]
  | .suspend | .resume | .delete => [.definition, .alarmId]

/-- All options that may stand after the command. -/
def options (name : CommandName) : List OptionName :=
  OptionName.shared ++ name.required ++ (if name = .types then [] else [.physicalName])

end CommandName

/-- Where options and values are being read: before the command, or after it. -/
structure Level where
  options : List OptionName
  commands : List CommandName

namespace Level

def outer : Level := ⟨OptionName.shared, CommandName.all⟩
def inner (name : CommandName) : Level := ⟨name.options, []⟩

/-- Help is offered everywhere, the version only before the command. -/
def flag? (level : Level) (long : String) : Option UsageFault :=
  if long = "help" then some .helpAsked
  else if long = "version" ∧ !level.commands.isEmpty then some .versionAsked
  else none

def shortFlag? (level : Level) (c : Char) : Option UsageFault :=
  if c = 'h' then level.flag? "help" else if c = 'V' then level.flag? "version" else none

def command? (level : Level) (text : String) : Option CommandName :=
  level.commands.find? fun name ↦ name.text = text

/-- The word before a command that asks for help on it. -/
def isHelpWord (level : Level) (text : String) : Bool :=
  text = "help" && !level.commands.isEmpty

/-- The text stands where it does for a command or for help on one. -/
def isCommand (level : Level) (text : String) : Bool :=
  (level.command? text).isSome || level.isHelpWord text

end Level

/-- What has been read at a level. -/
structure Progress where
  /-- Options with their values. -/
  given : List (OptionName × String) := []
  /-- The last option, while its value may still have to come. -/
  pending? : Option (OptionName × Option String) := none
  /-- After `--` nothing is an option or a command any more. -/
  onlyValues : Bool := false

namespace Progress

/-- Takes an option with its value. -/
def take (progress : Progress) (option : OptionName) (value : String) :
    Except UsageFault Progress :=
  if progress.given.any fun entry ↦ entry.1 = option then .error .repeatedOption
  else if option.isPath && value.isEmpty then .error .badValue
  else .ok { progress with given := progress.given ++ [(option, value)] }

/-- Takes the option that is still open, which must have its value by now. -/
def settle (progress : Progress) : Except UsageFault Progress :=
  match progress.pending? with
  | none => .ok progress
  | some (_, none) => .error .badValue
  | some (option, some value) => { progress with pending? := none }.take option value

/-- An option, with the value that is attached to it or else may follow it. -/
def begin (progress : Progress) (option : OptionName) (attached? : Option String) :
    Except UsageFault Progress := do
  let progress ← progress.settle
  match attached? with
  | some value => progress.take option value
  | none => .ok { progress with pending? := some (option, none) }

def flag (progress : Progress) (asked : UsageFault) : Except UsageFault Progress := do
  discard progress.settle
  .error asked

/-- An argument `--name` or `--name=value`, without its dashes. -/
def long (progress : Progress) (level : Level) (cs : List Char) : Except UsageFault Progress :=
  let name := String.ofList (cs.takeWhile (· ≠ '='))
  let attached? := match cs.dropWhile (· ≠ '=') with
    | _ :: value => some (String.ofList value)
    | [] => none
  match level.options.find? fun option ↦ option.long = name with
  | some option => progress.begin option attached?
  | none =>
    match level.flag? name with
    | some asked => if attached?.isSome then .error .surplusValue else progress.flag asked
    | none => .error .unknownArgument

/-- An argument `-o`, with whatever is attached. -/
def short (progress : Progress) (level : Level) (c : Char) (attached : List Char) :
    Except UsageFault Progress :=
  match level.options.find? fun option ↦ option.short? = some c with
  | some option =>
    progress.begin option <| match attached with
      | [] => none
      | '=' :: value => some (String.ofList value)
      | value => some (String.ofList value)
  | none =>
    match level.shortFlag? c with
    | some asked => progress.flag asked
    | none => .error .unknownArgument

/-- An argument that is no option: the value of the open option, or out of place. -/
def value (progress : Progress) (level : Level) (text : String) : Except UsageFault Progress :=
  match progress.pending? with
  | some (option, none) =>
    if progress.onlyValues then misplaced
    else .ok { progress with pending? := some (option, some text) }
  | _ => misplaced
where
  misplaced : Except UsageFault Progress :=
    .error <|
      if level.commands.isEmpty || (progress.onlyValues && level.isCommand text) then
        .unknownArgument
      else .unknownCommand

/-- The next argument could be the value of an option. -/
def awaitsValue (progress : Progress) : Bool :=
  match progress.pending? with
  | some (_, none) => true
  | _ => false

/-- Reads an argument that is no command. -/
def argument (progress : Progress) (level : Level) (text : String) : Except UsageFault Progress :=
  if progress.onlyValues then progress.value level text
  else match text.toList with
    | ['-', '-'] => .ok { progress with onlyValues := true }
    | '-' :: '-' :: cs => progress.long level cs
    | '-' :: c :: cs => progress.short level c cs
    | _ => progress.value level text

end Progress

/-- Help on a command that is named, if it is one. -/
def help : List String → UsageFault
  | [] => .helpAsked
  | [name] =>
    if name = "help" ∨ (CommandName.ofText? name).isSome then .helpAsked else .unknownCommand
  | _ => .unknownCommand

/-- Reads arguments up to a command or to their end. -/
def scan (level : Level) (progress : Progress) :
    List String → Except UsageFault (Progress × Option (CommandName × List String))
  | [] => .ok (progress, none)
  | text :: rest =>
    if progress.onlyValues || progress.awaitsValue then continueWith text rest
    else match level.command? text with
      | some name => .ok (progress, some (name, rest))
      | none =>
        if level.isHelpWord text then .error (help rest)
        else continueWith text rest
where
  continueWith (text : String) (rest : List String) :
      Except UsageFault (Progress × Option (CommandName × List String)) := do
    scan level (← progress.argument level text) rest

/-- The options of a level by name. -/
abbrev Given := List (OptionName × String)

def Given.get? (given : Given) (option : OptionName) : Option String :=
  (given.find? fun entry ↦ entry.1 = option).map Prod.snd

/-- The definition file a command works on, and the physical name that replaces its own. -/
structure Subject where
  definition : String
  physicalName? : Option String

inductive Command where
  | types
  | render (subject : Subject)
  | create (subject : Subject)
  | update (subject : Subject) (alarmId changes : String)
  | suspend (subject : Subject) (alarmId : String)
  | resume (subject : Subject) (alarmId : String)
  | delete (subject : Subject) (alarmId : String)

namespace Command

/-- The command of a name with its options; `none` if one that it needs is missing. -/
def ofGiven? (name : CommandName) (given : Given) : Option Command :=
  let subject? : Option Subject :=
    (given.get? .definition).map fun definition ↦ ⟨definition, given.get? .physicalName⟩
  match name with
  | .types => some .types
  | .render => subject?.map .render
  | .create => subject?.map .create
  | .update => do some (.update (← subject?) (← given.get? .alarmId) (← given.get? .changes))
  | .suspend => do some (.suspend (← subject?) (← given.get? .alarmId))
  | .resume => do some (.resume (← subject?) (← given.get? .alarmId))
  | .delete => do some (.delete (← subject?) (← given.get? .alarmId))

end Command

/-- Arguments that make sense. -/
structure Invocation where
  config? : Option String
  endpoint? : Option String
  command : Command

/-- Reads the options after a command. -/
def readInner (name : CommandName) (arguments : List String) :
    Except UsageFault (Given × Command) := do
  let (progress, _) ← scan (.inner name) {} arguments
  let given := (← progress.settle).given
  match Command.ofGiven? name given with
  | some command => .ok (given, command)
  | none => .error .missingArgument

/-- Reads the arguments after the name of the program. -/
def Invocation.ofArguments (arguments : List String) : Except UsageFault Invocation := do
  let (progress, command?) ← scan .outer {} arguments
  match command? with
  | some (name, rest) =>
    let (inner, command) ← readInner name rest
    let outer : Given := (← progress.settle).given
    .ok {
      config? := inner.get? .config <|> outer.get? .config
      endpoint? := inner.get? .endpoint <|> outer.get? .endpoint
      command }
  | none =>
    let outer := (← progress.settle).given
    .error (if outer.isEmpty then .nothingGiven else .missingCommand)

end MeteringAlarms.CommandLine
