import MeteringAlarms.Json.Printer
import MeteringAlarms.Rule.Basic
import MeteringAlarms.Storage.FileSystem

/-!
# Rules kept in a file

A store that holds its rules in memory and keeps a snapshot of all of them in one file of a
directory. The snapshot is read when the store is opened and replaced at every change: a new one is
written beside it and renamed over it. When either step fails the new file is removed if it can be,
the change is taken back, and the operation fails, so memory and file never disagree for good.
-/

namespace MeteringAlarms.Snapshot

def fileName : String := "watch_rules.json"

/-- The name under which a new snapshot is written. -/
def newFileName : String := "watch_rules.json.tmp"

/-- All rules under their names. The names are in ascending order, which stands for any order: none
is promised for the members of a snapshot, and reading does not ask for one. -/
def toText (rules : RuleBook) : String :=
  Json.indented (.ofFields (rules.mapValues fun _ rule ↦ rule.toJson))

/-- The rules of a snapshot under the keys that it gives them. -/
def ofText? (text : String) : Option RuleBook :=
  match Document.ofText? text with
  | some (.object members) => do
    let entries ← members.mapM fun (name?, document) ↦ do
      let name ← name?
      let rule ← WatchRule.ofDocument? (Document.maxDepth - 1) document
      some (name, rule)
    some (.ofList entries)
  | _ => none

variable {m : Type → Type} [Monad m]

/-- Reads the rules of a directory, which is made if it is not there. -/
def openAt (files : FileSystem m) (directory : String) : Attempt m RuleBook := do
  let path := FileSystem.join directory fileName
  if !(← files.makeDirectory directory) then throw (.storage "the directory cannot be made")
  if ← files.isPresent path then
    match ← files.read path with
    | .error fault => throw (.storage fault.message)
    | .ok text =>
      match ofText? text with
      | some rules => pure rules
      | none => throw (.document "not a snapshot of watch rules")
  else pure .empty

/-- Replaces the snapshot of a directory; tells whether it is replaced. -/
def replace (files : FileSystem m) (directory : String) (rules : RuleBook) : m Bool := do
  let new := FileSystem.join directory newFileName
  let written ← files.write new (toText rules)
  let renamed ←
    if written then files.rename new (FileSystem.join directory fileName) else pure false
  if !renamed then discard <| files.remove new
  pure renamed

def storageFailure : Failure := .storage "the snapshot cannot be written"

/-- Makes a change of the rules last, or undoes it. -/
def settle (files : FileSystem m) (directory : String) (undo : RuleBook → RuleBook)
    (changed : RuleBook) : m (Except Failure Unit × RuleBook) := do
  if ← replace files directory changed then pure (.ok (), changed)
  else pure (.error storageFailure, undo changed)

/-- Adds a rule, which is taken out again when the snapshot cannot be replaced. -/
def create (files : FileSystem m) (directory : String) (rule : WatchRule) :
    Attempt (StateT RuleBook m) Unit :=
  ExceptT.mk fun rules ↦
    match RuleBook.create rule rules with
    | (.error failure, rules) => pure (.error failure, rules)
    | (.ok (), rules) => settle files directory (·.erase rule.name) rules

/-- Removes the rule of a name, which is put back when the snapshot cannot be replaced. -/
def destroy (files : FileSystem m) (directory : String) (name : String) :
    Attempt (StateT RuleBook m) Unit :=
  ExceptT.mk fun rules ↦
    match rules.get? name with
    | none => pure (.error (.ruleMissing name), rules)
    | some removed => settle files directory (·.insert name removed) (rules.erase name)

/-- The store on a directory, its state the rules in memory. -/
def store (files : FileSystem m) (directory : String) : RuleStore (StateT RuleBook m) where
  create rule := create files directory rule
  load name := ExceptT.mk fun rules ↦ pure (RuleBook.load name rules)
  destroy name := destroy files directory name

end MeteringAlarms.Snapshot
