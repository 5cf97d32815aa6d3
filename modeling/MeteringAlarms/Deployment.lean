import MeteringAlarms.Adapter.Dispatch
import MeteringAlarms.Alarm.Memory
import MeteringAlarms.Alarm.Remote
import MeteringAlarms.Rule.Snapshot
import MeteringAlarms.Storage.Disk

/-!
# Deployments

Resources under management and the services that they share. A resource has its context, which the
stack may change, and the handle of its adapter. The services run on a common state, so callbacks of
different resources follow one another on it in any order. `World` is such a state for services in
memory, for a remote service behind a scripted server, and for a rule store on a disk.
-/

namespace MeteringAlarms

structure Resource where
  type : ResourceType
  context : Context
  handle : Handle := {}

namespace Resource

/-- The resource of a definition, without an alarm. -/
def ofDefinition (definition : Definition) (suffix stackId : String) : Except Failure Resource := do
  let context := Context.ofDefinition definition suffix stackId
  let type ← ResourceType.find context.typeName
  pure { type, context }

variable {ω : Type}

/-- Carries out a callback over services on a common state. -/
def perform (services : Services (StateM ω)) (now : Timestamp) (event : LifecycleEvent)
    (resource : Resource) (world : ω) : Except Failure Unit × Resource × ω :=
  let callback := event.handle resource.type services resource.context now
  let ((outcome, handle), world) := (callback.run.run resource.handle).run world
  (outcome, { resource with handle }, world)

end Resource

/-- The state that the services of a deployment share. -/
structure World where
  alarms : AlarmMemory := {}
  server : Http.ScriptedServer := {}
  /-- The rules in memory, of whichever store. -/
  rules : RuleBook := .empty
  disk : Disk := {}
  /-- Operations of the alarm service that fail before they are begun. -/
  faults : List (AlarmService.Operation × Failure) := []

namespace World

instance : Inhabited World := ⟨{}⟩

def fault? (operation : AlarmService.Operation) : StateM World (Option Failure) := fun world ↦
  ((world.faults.find? fun entry ↦ entry.1 = operation).map Prod.snd, world)

def setFault (operation : AlarmService.Operation) (failure? : Option Failure) (world : World) :
    World :=
  let others := world.faults.filter fun entry ↦ entry.1 ≠ operation
  match failure? with
  | some failure => { world with faults := (operation, failure) :: others }
  | none => { world with faults := others }

/-- The alarm service in memory. -/
def memoryAlarms (newId : Nat → String) : AlarmService (StateM World) :=
  ((AlarmMemory.service newId).hoist
    (StateM.focus World.alarms fun alarms world ↦ { world with alarms })).guarded fault?

/-- Sends a request to the server. -/
def send (request : Http.Request) : StateM World (Option Http.Response) :=
  StateM.focus World.server (fun server world ↦ { world with server })
    (Http.ScriptedServer.send request)

/-- The remote alarm service over a given way to send requests. -/
def remoteAlarms (remote : RemoteAlarms)
    (send : Http.Request → StateM World (Option Http.Response)) : AlarmService (StateM World) :=
  (remote.service send).guarded fault?

/-- The rule store in memory. -/
def memoryRules : RuleStore (StateM World) :=
  RuleBook.store.hoist (StateM.focus World.rules fun rules world ↦ { world with rules })

/-- The rule store on a directory of the disk. -/
def snapshotRules (directory : String) : RuleStore (StateM World) :=
  (Snapshot.store Disk.files directory).hoist fun step world ↦
    let ((value, rules), disk) := (step.run world.rules).run world.disk
    (value, { world with rules, disk })

/-- Opens the rule store on a directory; the rules in memory are replaced if that succeeds. -/
def openRules (directory : String) (world : World) : Except Failure Unit × World :=
  match (Snapshot.openAt Disk.files directory).run.run world.disk with
  | (.ok rules, disk) => (.ok (), { world with rules, disk })
  | (.error failure, disk) => (.error failure, { world with disk })

end World

end MeteringAlarms
