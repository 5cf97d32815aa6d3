import MeteringAlarms.Proofs.Adapter.Creation
import MeteringAlarms.Proofs.CommandLine.Sessions
import MeteringAlarms.Proofs.Rule.Reopening

/-!
# A resource over separate commands

The life of a resource may be spread over many commands, each of which starts from the files alone:
it builds the resource anew from its definition, attaches it to an alarm by an id, and opens the
rule store again.  What holds the commands together is the id and the name that the creation prints.
Given these, and as long as services and files work, every later command succeeds and the removal
leaves alarms and rules as they were before the creation.  Without a name a later command stops
before it asks anything of a service.
-/

namespace MeteringAlarms

/-- The rules with that of a new resource, if its type has one. -/
def ResourceType.withRule (type : ResourceType) (context : Context) (now : Timestamp)
    (rules : RuleBook) : RuleBook :=
  match type with
  | .threshold => rules.insert context.physicalName (ThresholdAlarm.watchRule context now)
  | .combination => rules

namespace CommandLine

variable {σ : Type}

/-! ## Commands on a resource that exists -/

/-- The subject of a command that is about a resource created earlier. -/
def Command.existing? : Command → Option Subject
  | .types | .render _ | .create _ => none
  | .update subject _ _ | .suspend subject _ | .resume subject _ | .delete subject _ =>
    some subject

/-- What such a command asks of the resource, whose alarm it takes to be that of an id. -/
inductive Command.Asks (folder : Folder) : Command → Subject → String → LifecycleEvent → Prop
  | update (subject : Subject) (id path : String) {changes : Fields}
      (read : changesOf folder path = .ok changes) :
      Asks folder (.update subject id path) subject id (.update changes)
  | suspend (subject : Subject) (id : String) :
      Asks folder (.suspend subject id) subject id .suspend
  | resume (subject : Subject) (id : String) :
      Asks folder (.resume subject id) subject id .resume
  | delete (subject : Subject) (id : String) :
      Asks folder (.delete subject id) subject id .delete

/-- The context and the type of a subject whose name is fixed. -/
def Subject.existing (subject : Subject) (circumstances : Circumstances) (folder : Folder) :
    Except (List Cause) (Context × ResourceType) :=
  match subject.described folder with
  | .error causes => .error causes
  | .ok definition =>
    if definition.physicalName?.isNone then
      .error [.context ("definition " ++ subject.definition ++
        " has no physical_name; pass --physical-name with the name printed by create")]
    else match ResourceType.find definition.type with
      | .error failure => .error [.failure failure]
      | .ok type =>
        .ok (.ofDefinition definition circumstances.suffix circumstances.stackId, type)

section Steps

variable (send : Http.Request → StateM σ (Option Http.Response)) (alarms : AlarmService (StateM σ))
  (keeping : RuleKeeping) (verdict : Verdict) (circumstances : Circumstances) (state : σ)
  (folder : Folder) {subject : Subject}

variable (subject) in
/-- Later commands begin alike. -/
theorem on_existing (next : Context × ResourceType → Run (StateM (σ × Folder)) Json) :
    Run.on (do
        let definition ← readExisting (.over send verdict circumstances) subject
        let (context, type) ← load (.over send verdict circumstances) definition
        next (context, type)) (state, folder) =
      match subject.existing circumstances folder with
      | .ok existing => (next existing).on (state, folder)
      | .error causes => (.error causes, state, folder) := by
  rw [Run.on_bind, on_readExisting, Subject.existing]
  cases subject.described folder with
  | error causes => rfl
  | ok definition =>
    dsimp only
    cases definition.physicalName?.isNone with
    | true => rfl
    | false =>
      simp only [Bool.false_eq_true, if_false]
      rw [Run.on_bind, on_load]
      cases ResourceType.find definition.type <;> rfl

/-- What a command other than an update does to a resource that exists. -/
theorem on_toggle (session : Session (StateM (σ × Folder))) (id : String)
    (event : LifecycleEvent) :
    (toggle (.over send verdict circumstances) session subject id event).on (state, folder) =
      match subject.existing circumstances folder with
      | .error causes => (.error causes, state, folder)
      | .ok (context, type) =>
        match (perform (.over send verdict circumstances) session type context (.attached id)
          event).on (state, folder) with
        | (.error causes, world) => (.error causes, world)
        | (.ok handle, world) =>
          (.ok (.ofEntries [("alarm_id", .string id), ("state", .string handle.state.name)]),
            world) := by
  have htoggle := on_existing send verdict circumstances state folder subject
    fun (context, type) ↦ do
      let handle ← perform (.over send verdict circumstances) session type context (.attached id)
        event
      pure <| .ofEntries [("alarm_id", .string id), ("state", .string handle.state.name)]
  refine Eq.trans htoggle ?_
  cases subject.existing circumstances folder with
  | error causes => rfl
  | ok existing =>
    dsimp only
    rw [Run.on_bind]
    rcases (perform (.over send verdict circumstances) session existing.2 existing.1 (.attached id)
      event).on (state, folder) with ⟨_ | _, _⟩ <;> rfl

theorem on_update (session : Session (StateM (σ × Folder))) (id path : String) :
    (update (.over send verdict circumstances) session subject id path).on (state, folder) =
      match changesOf folder path, subject.existing circumstances folder with
      | .error causes, _ => (.error causes, state, folder)
      | .ok _, .error causes => (.error causes, state, folder)
      | .ok changes, .ok (context, type) =>
        match (perform (.over send verdict circumstances) session type context (.attached id)
          (.update changes)).on (state, folder) with
        | (.error causes, world) => (.error causes, world)
        | (.ok _, world) =>
          (.ok (.ofEntries [
            ("alarm_id", .string id),
            ("updated", .array (changes.keys.map .string)),
            ("alarm", .ofFields (type.createPayload (context.setProperties changes)))]),
            world) := by
  rw [update, Run.on_bind, on_readChanges]
  cases changesOf folder path with
  | error causes => rfl
  | ok changes =>
    have hupdate := on_existing send verdict circumstances state folder subject
      fun (context, type) ↦ do
        discard <| perform (.over send verdict circumstances) session type context (.attached id)
          (.update changes)
        pure <| .ofEntries [
          ("alarm_id", .string id),
          ("updated", .array (changes.keys.map .string)),
          ("alarm", .ofFields (type.createPayload (context.setProperties changes)))]
    refine Eq.trans hupdate ?_
    cases subject.existing circumstances folder with
    | error causes => rfl
    | ok existing =>
      dsimp only
      rw [Run.on_bind, discard_eq_bind, Run.on_bind]
      rcases (perform (.over send verdict circumstances) session existing.2 existing.1
        (.attached id) (.update changes)).on (state, folder) with ⟨_ | _, _⟩ <;> rfl

/-- A later command carries out one callback on a resource attached to its alarm. -/
theorem on_answer_existing {command : Command} {id : String} {event : LifecycleEvent}
    (hasks : command.Asks folder subject id event) {rules : RuleBook}
    (hopens : keeping.opened folder = .ok rules) {context : Context} {type : ResourceType}
    (hexisting : subject.existing circumstances folder = .ok (context, type)) :
    ∃ shown : Handle → Json,
      Run.on (answerWith (.over send verdict circumstances)
          (Session.opening alarms keeping verdict) command) (state, folder) =
        match (event.handle type (.join alarms (keeping.store verdict)) context
          circumstances.now).on (.attached id) (state, rules, folder) with
        | (.ok (), handle, state, _, folder) => (.ok (shown handle), state, folder)
        | (.error failure, _, state, _, folder) => (.error [.failure failure], state, folder) := by
  have hopening : (Session.opening alarms keeping verdict).on (state, folder) =
      (.ok (.over alarms keeping verdict rules), state, folder) := by
    rw [on_opening, hopens]
  have htoggle (event : LifecycleEvent) : ∃ shown : Handle → Json,
      Run.on (Session.opening alarms keeping verdict >>= fun session ↦
          toggle (.over send verdict circumstances) session subject id event) (state, folder) =
        match (event.handle type (.join alarms (keeping.store verdict)) context
          circumstances.now).on (.attached id) (state, rules, folder) with
        | (.ok (), handle, state, _, folder) => (.ok (shown handle), state, folder)
        | (.error failure, _, state, _, folder) => (.error [.failure failure], state, folder) := by
    refine ⟨fun handle ↦
      .ofEntries [("alarm_id", .string id), ("state", .string handle.state.name)], ?_⟩
    rw [Run.on_bind, hopening]
    dsimp only
    rw [on_toggle, hexisting]
    dsimp only
    rw [on_perform]
    rcases (event.handle type (.join alarms (keeping.store verdict)) context circumstances.now).on
      (.attached id) (state, rules, folder) with ⟨_ | _, _, _, _, _⟩ <;> rfl
  cases hasks with
  | @update _ _ path changes read =>
    refine ⟨fun _ ↦ .ofEntries [
      ("alarm_id", .string id),
      ("updated", .array (changes.keys.map .string)),
      ("alarm", .ofFields (type.createPayload (context.setProperties changes)))], ?_⟩
    rw [answerWith, Run.on_bind, hopening]
    dsimp only
    rw [on_update, read, hexisting]
    dsimp only
    rw [on_perform]
    rcases ((LifecycleEvent.update changes).handle type (.join alarms (keeping.store verdict))
      context circumstances.now).on (.attached id) (state, rules, folder) with
      ⟨_ | _, _, _, _, _⟩ <;> rfl
  | suspend => exact htoggle .suspend
  | resume => exact htoggle .resume
  | delete => exact htoggle .delete

variable (subject) in
theorem existing_nameless (hgiven : subject.physicalName? = none)
    (hfile : ∀ definition, Definition.ofFile subject.definition
      (folder.content subject.definition) = .ok definition → definition.physicalName? = none) :
    ∃ causes, subject.existing circumstances folder = .error causes := by
  rw [Subject.existing, Subject.described]
  cases hread : Definition.ofFile subject.definition (folder.content subject.definition) with
  | error failure => exact ⟨_, rfl⟩
  | ok definition =>
    rw [hgiven]
    dsimp only
    rw [hfile definition hread]
    exact ⟨_, rfl⟩

/-- Without a name a later command fails before it asks anything. -/
theorem on_answer_nameless {command : Command} (hcommand : command.existing? = some subject)
    (hgiven : subject.physicalName? = none)
    (hfile : ∀ definition, Definition.ofFile subject.definition
      (folder.content subject.definition) = .ok definition → definition.physicalName? = none) :
    ∃ causes, Run.on (answerWith (.over send verdict circumstances)
        (Session.opening alarms keeping verdict) command) (state, folder) =
      (.error causes, state, folder) := by
  obtain ⟨causes, hnameless⟩ := existing_nameless circumstances folder subject hgiven hfile
  have hbegin (next : Session (StateM (σ × Folder)) → Run (StateM (σ × Folder)) Json)
      (hnext : ∀ session, ∃ causes, (next session).on (state, folder) =
        (.error causes, state, folder)) :
      ∃ causes, (Session.opening alarms keeping verdict >>= next).on (state, folder) =
        (.error causes, state, folder) := by
    rw [Run.on_bind, on_opening]
    cases keeping.opened folder with
    | error failure => exact ⟨_, rfl⟩
    | ok rules => exact hnext _
  have htoggle (session : Session (StateM (σ × Folder))) (id : String) (event : LifecycleEvent) :
      ∃ causes, (toggle (.over send verdict circumstances) session subject id event).on
        (state, folder) = (.error causes, state, folder) := by
    rw [on_toggle, hnameless]
    exact ⟨_, rfl⟩
  cases command with
  | types => cases hcommand
  | render _ => cases hcommand
  | create _ => cases hcommand
  | update _ id path =>
    obtain rfl := Option.some.inj hcommand
    refine hbegin _ fun session ↦ ?_
    rw [on_update, hnameless]
    cases changesOf folder path with
    | error causes => exact ⟨_, rfl⟩
    | ok changes => exact ⟨_, rfl⟩
  | suspend _ id =>
    obtain rfl := Option.some.inj hcommand
    exact hbegin _ fun session ↦ htoggle session id .suspend
  | resume _ id =>
    obtain rfl := Option.some.inj hcommand
    exact hbegin _ fun session ↦ htoggle session id .resume
  | delete _ id =>
    obtain rfl := Option.some.inj hcommand
    exact hbegin _ fun session ↦ htoggle session id .delete

end Steps

/-! ## The life of a resource -/

/-- Carries out a command as a process of its own. -/
def Command.carryOut (send : Http.Request → StateM σ (Option Http.Response))
    (alarms : AlarmService (StateM σ)) (keeping : RuleKeeping) (verdict : Verdict)
    (circumstances : Circumstances) (command : Command) (world : σ × Folder) :
    Except (List Cause) Json × σ × Folder :=
  Run.on (answerWith (.over send verdict circumstances) (Session.opening alarms keeping verdict)
    command) world

/-- Openings of the services that take the same step make no difference to a command. -/
theorem on_answerWith_congr {platform : Platform (StateM (σ × Folder))}
    {left right : Run (StateM (σ × Folder)) (Session (StateM (σ × Folder)))} {world : σ × Folder}
    (h : left.on world = right.on world) (command : Command) :
    Run.on (answerWith platform left command) world =
      Run.on (answerWith platform right command) world := by
  have hbind (next : Session (StateM (σ × Folder)) → Run (StateM (σ × Folder)) Json) :
      Run.on (left >>= next) world = Run.on (right >>= next) world := by
    rw [Run.on_bind, Run.on_bind, h]
  cases command with
  | types => rfl
  | render _ => rfl
  | create subject => exact hbind _
  | update subject id path => exact hbind _
  | suspend subject id => exact hbind _
  | resume subject id => exact hbind _
  | delete subject id => exact hbind _

/-- An invocation with valid settings carries out its command on the services that these ask for. -/
theorem Invocation.on_answer (send : Http.Request → StateM σ (Option Http.Response))
    (verdict : Verdict) (circumstances : Circumstances) (invocation : Invocation)
    {world : σ × Folder} {settings : Settings}
    (hsettings : invocation.configuration world.2 = .ok settings)
    (hvalid : settings.validate = .ok ()) :
    Run.on (invocation.answer (.over send verdict circumstances)) world =
      invocation.command.carryOut send (settings.remote.service send) settings.keeping verdict
        circumstances world := by
  rw [Invocation.answer_eq, Command.carryOut]
  refine on_answerWith_congr ?_ invocation.command
  rw [openSession_over, Run.on_bind, on_settings, hsettings]
  dsimp only
  rw [Run.on_bind, Run.on_orFail, hvalid]
  rfl

/-- Carries out commands one after another. -/
def carryOutAll (send : Http.Request → StateM σ (Option Http.Response))
    (alarms : AlarmService (StateM σ)) (keeping : RuleKeeping) (verdict : Verdict) :
    List (Circumstances × Command) → σ × Folder →
      List (Except (List Cause) Json) × σ × Folder
  | [], world => ([], world)
  | (circumstances, command) :: later, world =>
    let step := command.carryOut send alarms keeping verdict circumstances world
    let rest := carryOutAll send alarms keeping verdict later step.2
    (step.1 :: rest.1, rest.2)

/-- The subject has the file of an earlier one, and says or finds there the name of that time. -/
structure Subject.Renews (subject : Subject) (name : String) (folder : Folder) (later : Subject) :
    Prop where
  file : later.definition = subject.definition
  named : ∃ definition, later.described folder = .ok definition ∧
    definition.physicalName? = some name

/-- A file of the rule store. -/
def IsStoreFile (directory path : String) : Prop :=
  path = Snapshot.path directory ∨ path = Snapshot.newPath directory

/-- A command that is told the id and the name which the creation of a resource printed, and that
is not about its removal. -/
inductive Command.Continues (directory : String) (subject : Subject) (name id : String)
    (folder : Folder) : Command → Prop
  | update {later : Subject} (renews : subject.Renews name folder later) {path : String}
      (apart : ¬IsStoreFile directory path) {changes : Fields}
      (read : changesOf folder path = .ok changes) :
      Continues directory subject name id folder (.update later id path)
  | suspend {later : Subject} (renews : subject.Renews name folder later) :
      Continues directory subject name id folder (.suspend later id)
  | resume {later : Subject} (renews : subject.Renews name folder later) :
      Continues directory subject name id folder (.resume later id)

theorem Subject.prepared_eq_ok {subject : Subject} {circumstances : Circumstances}
    {folder : Folder} {context : Context} {type : ResourceType}
    (h : subject.prepared circumstances folder = .ok (context, type)) :
    ∃ definition, subject.described folder = .ok definition ∧
      ResourceType.find definition.type = .ok type ∧
      context = .ofDefinition definition circumstances.suffix circumstances.stackId := by
  rw [Subject.prepared] at h
  cases hdescribed : subject.described folder with
  | error causes =>
    rw [hdescribed] at h
    cases h
  | ok definition =>
    rw [hdescribed] at h
    dsimp only at h
    split at h
    · cases h
    · cases h
    · cases h
      exact ⟨definition, rfl, ‹_›, rfl⟩

/-- A subject that renews another one is about a resource of the same type and name. -/
theorem Subject.Renews.existing {subject later : Subject} {name : String} {folder : Folder}
    (h : subject.Renews name folder later) {definition : Definition}
    (hdescribed : subject.described folder = .ok definition) {type : ResourceType}
    (htype : ResourceType.find definition.type = .ok type) (circumstances : Circumstances) :
    ∃ context, later.existing circumstances folder = .ok (context, type) ∧
      context.physicalName = name := by
  obtain ⟨hfile, renewed, hrenewed, hname⟩ := h
  have hsame : renewed.type = definition.type := by
    rw [Subject.described, hfile] at hrenewed
    rw [Subject.described] at hdescribed
    cases hread : Definition.ofFile subject.definition (folder.content subject.definition) with
    | error failure =>
      rw [hread] at hdescribed
      cases hdescribed
    | ok read =>
      rw [hread] at hrenewed hdescribed
      cases hrenewed
      cases hdescribed
      rfl
  refine ⟨.ofDefinition renewed circumstances.suffix circumstances.stackId, ?_, ?_⟩
  · rw [Subject.existing, hrenewed]
    dsimp only
    rw [hname, hsame, htype]
    rfl
  · rw [Context.ofDefinition, hname]
    rfl

theorem Subject.existing_congr (subject : Subject) (circumstances : Circumstances)
    {left right : Folder} (h : left.get? subject.definition = right.get? subject.definition) :
    subject.existing circumstances left = subject.existing circumstances right := by
  rw [existing, existing, described, described, Folder.content, Folder.content, h]

theorem changesOf_congr {left right : Folder} {path : String}
    (h : left.get? path = right.get? path) :
    changesOf left path = changesOf right path := by
  rw [changesOf, changesOf, Folder.content, Folder.content, h]

section Life

variable (newId : Nat → String) (send : Http.Request → StateM AlarmMemory (Option Http.Response))
  {directory : String} {verdict : Verdict} {memory : AlarmMemory} {folder : Folder}
  {held : RuleBook} {id : String}

/-- A resource has been created and not been removed: its alarm is among those that there were, the
rule store opens with certain rules, and apart from it the files are what they were. -/
structure Lives (directory : String) (memory : AlarmMemory) (folder : Folder) (held : RuleBook)
    (id : String) (world : AlarmMemory × Folder) : Prop where
  available : world.1.unavailable = false
  alarm : ∃ fields, world.1.alarms = memory.alarms.insert id fields
  opens : (RuleKeeping.snapshot directory).opened world.2 = .ok held
  files : ∀ path, ¬IsStoreFile directory path → world.2.get? path = folder.get? path

namespace Lives

variable {world : AlarmMemory × Folder}

/-- A change of the alarm succeeds. -/
theorem update_alarm (h : Lives directory memory folder held id world) (changes : Fields) :
    ∃ after, world.1.update id changes = (.ok (), after) ∧
      Lives directory memory folder held id (after, world.2) := by
  obtain ⟨fields, halarms⟩ := h.alarm
  rcases world.1.update_cases id changes with ⟨hdown, -⟩ | ⟨-, hnone, -⟩ | ⟨hup, old, -, hstep⟩
  · rw [h.available] at hdown
    cases hdown
  · rw [halarms] at hnone
    simp at hnone
  · refine ⟨_, hstep, hup, ⟨old.overlay changes, ?_⟩, h.opens, h.files⟩
    dsimp only
    rw [halarms, OrderedMap.insert_insert]

/-- So does every callback on the resource but its creation and its removal. -/
theorem on_handle (h : Lives directory memory folder held id world) (type : ResourceType)
    (store : RuleStore (StateM (RuleBook × Folder))) (context : Context) (now : Timestamp)
    {event : LifecycleEvent} (hcreate : event ≠ .create) (hdelete : event ≠ .delete) :
    ∃ handle after, (event.handle type (.overMemory newId store) context now).on (.attached id)
        (world.1, held, world.2) = (.ok (), handle, after, held, world.2) ∧
      Lives directory memory folder held id (after, world.2) := by
  have hswitch (enabled : Bool) (state : LifecycleState) : ∃ handle after,
      (Callback.switch (Services.overMemory newId store).alarms enabled state).on (.attached id)
        (world.1, held, world.2) = (.ok (), handle, after, held, world.2) ∧
      Lives directory memory folder held id (after, world.2) := by
    obtain ⟨after, hstep, hlives⟩ :=
      h.update_alarm (.ofList [(PropertyName.enabled, .bool enabled)])
    refine ⟨⟨some id, state⟩, after, ?_, hlives⟩
    rw [Callback.on_switch, Handle.attached]
    dsimp only
    rw [Services.overMemory_update, hstep]
  cases event with
  | create => exact absurd rfl hcreate
  | delete => exact absurd rfl hdelete
  | suspend => exact hswitch false .suspended
  | resume => exact hswitch true .active
  | update changes =>
    rw [LifecycleEvent.on_update]
    cases changes.isEmpty with
    | true => exact ⟨.attached id, world.1, rfl, h⟩
    | false =>
      obtain ⟨after, hstep, hlives⟩ := h.update_alarm (type.changePayload context changes)
      refine ⟨.attached id, after, ?_, hlives⟩
      rw [Handle.attached]
      dsimp only
      rw [Services.overMemory_update, hstep]
      rfl

variable (verdict) in
/-- A command that continues the life of a resource succeeds. -/
theorem carryOut {subject : Subject} {name : String} {definition : Definition} {type : ResourceType}
    (h : Lives directory memory folder held id world)
    (hdescribed : subject.described folder = .ok definition)
    (htype : ResourceType.find definition.type = .ok type)
    (hfile : ¬IsStoreFile directory subject.definition) {command : Command}
    (hcontinues : command.Continues directory subject name id folder)
    (circumstances : Circumstances) :
    ∃ answer after, command.carryOut send (AlarmMemory.service newId) (.snapshot directory) verdict
        circumstances world = (.ok answer, after) ∧
      Lives directory memory folder held id after := by
  have hperformed {later : Subject} (hrenews : subject.Renews name folder later)
      {event : LifecycleEvent} (hasks : command.Asks world.2 later id event)
      (hcreate : event ≠ .create) (hdelete : event ≠ .delete) :
      ∃ answer after, command.carryOut send (AlarmMemory.service newId) (.snapshot directory)
          verdict circumstances world = (.ok answer, after) ∧
        Lives directory memory folder held id after := by
    obtain ⟨context, hexisting, -⟩ := hrenews.existing hdescribed htype circumstances
    rw [← later.existing_congr circumstances (h.files later.definition (hrenews.file ▸ hfile))]
      at hexisting
    obtain ⟨shown, hanswer⟩ := on_answer_existing send (AlarmMemory.service newId)
      (.snapshot directory) verdict circumstances world.1 world.2 hasks h.opens hexisting
    obtain ⟨handle, after, hstep, hlives⟩ := h.on_handle newId type
      ((RuleKeeping.snapshot directory).store verdict) context circumstances.now hcreate hdelete
    rw [Services.overMemory] at hstep
    rw [hstep] at hanswer
    exact ⟨shown handle, (after, world.2), hanswer, hlives⟩
  cases hcontinues with
  | @update later hrenews path hapart changes hread =>
    rw [← changesOf_congr (h.files path hapart)] at hread
    exact hperformed hrenews (.update later id path hread) nofun nofun
  | suspend hrenews => exact hperformed hrenews (.suspend _ id) nofun nofun
  | resume hrenews => exact hperformed hrenews (.resume _ id) nofun nofun

/-- And so does any number of them. -/
theorem carryOutAll {subject : Subject} {name : String} {definition : Definition}
    {type : ResourceType} (hdescribed : subject.described folder = .ok definition)
    (htype : ResourceType.find definition.type = .ok type)
    (hfile : ¬IsStoreFile directory subject.definition) {runs : List (Circumstances × Command)}
    (hcontinue : ∀ run ∈ runs, run.2.Continues directory subject name id folder)
    (h : Lives directory memory folder held id world) :
    ∃ (answers : List Json) (after : AlarmMemory × Folder),
      CommandLine.carryOutAll send (AlarmMemory.service newId) (.snapshot directory) verdict runs
        world = (answers.map .ok, after) ∧
      Lives directory memory folder held id after := by
  induction runs generalizing world with
  | nil => exact ⟨[], world, rfl, h⟩
  | cons run later ih =>
    obtain ⟨hfirst, hlater⟩ := List.forall_mem_cons.1 hcontinue
    obtain ⟨answer, middle, hstep, hlives⟩ :=
      h.carryOut newId send verdict hdescribed htype hfile hfirst run.1
    obtain ⟨answers, after, hrest, hlives⟩ := ih hlater hlives
    refine ⟨answer :: answers, after, ?_, hlives⟩
    rw [CommandLine.carryOutAll, hstep]
    dsimp only
    rw [hrest]
    rfl

/-- The removal of the alarm leaves the alarms that there were. -/
theorem removeAlarm (h : Lives directory memory folder held id world)
    (hnew : memory.alarms.get? id = none) {ρ : Type} (store : RuleStore (StateM ρ)) (rules : ρ) :
    ∃ after, (CombinationAlarm.delete (.overMemory newId store)).on (.attached id)
        (world.1, rules) = (.ok (), ⟨some id, .deleted⟩, after, rules) ∧
      after.alarms = memory.alarms := by
  obtain ⟨fields, halarms⟩ := h.alarm
  rcases AlarmMemory.delete_cases id world.1 with
    ⟨hdown, -⟩ | ⟨-, hnone, -⟩ | ⟨-, -, hstep⟩
  · rw [h.available] at hdown
    cases hdown
  · rw [halarms] at hnone
    simp at hnone
  · refine ⟨{ world.1.record (.delete id) with alarms := world.1.alarms.erase id }, ?_, ?_⟩
    · rw [CombinationAlarm.on_delete, Callback.on_removeAlarm, Handle.attached]
      dsimp only
      rw [Services.overMemory_delete, hstep]
      rfl
    · dsimp only
      rw [halarms, OrderedMap.erase_insert_of_get?_eq_none hnew]

end Lives

theorem opened_keep {rules : RuleBook}
    (hreads : Snapshot.ofText? (Snapshot.toText rules) = some rules) :
    (RuleKeeping.snapshot directory).opened
      ((RuleKeeping.snapshot directory).keep rules folder) = .ok rules := by
  rw [RuleKeeping.opened, RuleKeeping.keep, OrderedMap.get?_insert, if_pos rfl, Snapshot.openText,
    hreads]

theorem get?_keep {path : String} (h : ¬IsStoreFile directory path) (rules : RuleBook) :
    ((RuleKeeping.snapshot directory).keep rules folder).get? path = folder.get? path := by
  obtain ⟨hpath, hnew⟩ := not_or.1 h
  rw [RuleKeeping.keep, OrderedMap.get?_insert, if_neg hpath, OrderedMap.get?_erase, if_neg hnew]

variable {rules : RuleBook} {context : Context}

/-- The creation of a resource begins its life. -/
theorem on_handle_create (hup : memory.unavailable = false)
    (hlasts : (RuleKeeping.snapshot directory).lasts verdict = true)
    (hopens : (RuleKeeping.snapshot directory).opened folder = .ok rules)
    (hfree : rules.get? context.physicalName = none) (type : ResourceType) (now : Timestamp)
    (hreads : Snapshot.ofText? (Snapshot.toText (type.withRule context now rules)) =
      some (type.withRule context now rules)) :
    ∃ after files, (LifecycleEvent.create.handle type
        (.overMemory newId ((RuleKeeping.snapshot directory).store verdict)) context now).on {}
        (memory, rules, folder) =
          (.ok (), .attached (newId memory.issued), after, type.withRule context now rules, files) ∧
      Lives directory memory folder (type.withRule context now rules) (newId memory.issued)
        (after, files) := by
  cases type with
  | threshold =>
    rcases ThresholdAlarm.creation_cases newId (.snapshot directory) verdict context now {} memory
      rules folder with ⟨hdown, -⟩ | ⟨-, htaken, -⟩ | ⟨-, -, hfails, -⟩ | ⟨-, -, -, hstep⟩
    · rw [hup] at hdown
      cases hdown
    · rw [hfree] at htaken
      cases htaken
    · rw [hlasts] at hfails
      cases hfails
    · refine ⟨_, _, hstep, ?_⟩
      rw [AlarmMemory.create, hup, if_neg Bool.false_ne_true]
      exact ⟨hup, ⟨_, rfl⟩, opened_keep hreads, fun path hpath ↦ get?_keep hpath _⟩
  | combination =>
    rcases memory.create_cases newId (CombinationAlarm.createPayload context) with
      ⟨hdown, -⟩ | ⟨-, hstep⟩
    · rw [hup] at hdown
      cases hdown
    · refine ⟨{ memory.record (.create (CombinationAlarm.createPayload context)) with
        alarms :=
          memory.alarms.insert (newId memory.issued) (CombinationAlarm.createPayload context)
        issued := memory.issued + 1 }, folder, ?_, hup, ⟨_, rfl⟩, hopens, fun _ _ ↦ rfl⟩
      rw [LifecycleEvent.handle, CombinationAlarm.on_create, Services.overMemory_create, hstep]
      rfl

/-- The removal of a resource ends its life. -/
theorem Lives.on_handle_delete {type : ResourceType} {now : Timestamp} {id : String}
    {world : AlarmMemory × Folder}
    (h : Lives directory memory folder (type.withRule context now rules) id world)
    (hnew : memory.alarms.get? id = none)
    (hlasts : (RuleKeeping.snapshot directory).lasts verdict = true)
    (hfree : rules.get? context.physicalName = none)
    (hreads : Snapshot.ofText? (Snapshot.toText rules) = some rules) {removed : Context}
    (hname : removed.physicalName = context.physicalName) (removal : Timestamp) :
    ∃ after files, (LifecycleEvent.delete.handle type
        (.overMemory newId ((RuleKeeping.snapshot directory).store verdict)) removed removal).on
        (.attached id) (world.1, type.withRule context now rules, world.2) =
          (.ok (), ⟨some id, .deleted⟩, after, rules, files) ∧
      after.alarms = memory.alarms ∧
      (RuleKeeping.snapshot directory).opened files = .ok rules := by
  cases type with
  | combination =>
    obtain ⟨after, hstep, halarms⟩ := h.removeAlarm newId hnew
      ((RuleKeeping.snapshot directory).store verdict) (rules, world.2)
    exact ⟨after, world.2, hstep, halarms, h.opens⟩
  | threshold =>
    let held := rules.insert context.physicalName (ThresholdAlarm.watchRule context now)
    have hheld : held.get? context.physicalName = some (ThresholdAlarm.watchRule context now) := by
      rw [OrderedMap.get?_insert, if_pos rfl]
    have hrule : (ThresholdAlarm.removeRule ((RuleKeeping.snapshot directory).store verdict)
        removed.physicalName).on (held, world.2) =
          (.ok (), rules, (RuleKeeping.snapshot directory).keep rules world.2) := by
      rw [ThresholdAlarm.on_removeRule, hname, RuleKeeping.load_eq, RuleBook.load_of_some hheld]
      dsimp only
      rcases (RuleKeeping.snapshot directory).destroy_of_some verdict context.physicalName held
        world.2 hheld with ⟨-, hstep⟩ | ⟨hfails, -⟩
      · rw [OrderedMap.erase_insert_of_get?_eq_none hfree] at hstep
        exact hstep
      · rw [hlasts] at hfails
        cases hfails
    obtain ⟨after, hstep, halarms⟩ := h.removeAlarm newId hnew
      ((RuleKeeping.snapshot directory).store verdict)
      (rules, (RuleKeeping.snapshot directory).keep rules world.2)
    refine ⟨after, (RuleKeeping.snapshot directory).keep rules world.2, ?_, halarms,
      opened_keep hreads⟩
    rw [LifecycleEvent.handle, ThresholdAlarm.on_delete, Services.overMemory_removeRule,
      ResourceType.withRule, hrule]
    exact hstep

/-- The creation of a resource prints its id and its name. -/
theorem carryOut_create {subject : Subject} {creation : Circumstances} {type : ResourceType}
    (hup : memory.unavailable = false)
    (hlasts : (RuleKeeping.snapshot directory).lasts verdict = true)
    (hopens : (RuleKeeping.snapshot directory).opened folder = .ok rules)
    (hprepared : subject.prepared creation folder = .ok (context, type))
    (hfree : rules.get? context.physicalName = none)
    (hreads : Snapshot.ofText? (Snapshot.toText (type.withRule context creation.now rules)) =
      some (type.withRule context creation.now rules)) :
    ∃ after, (Command.create subject).carryOut send (AlarmMemory.service newId)
        (.snapshot directory) verdict creation (memory, folder) =
          (.ok (.ofEntries [
            ("alarm_id", .string (newId memory.issued)),
            ("physical_name", .string context.physicalName),
            ("state", .string LifecycleState.active.name)]), after) ∧
      Lives directory memory folder (type.withRule context creation.now rules)
        (newId memory.issued) after := by
  obtain ⟨after, files, hstep, hlives⟩ :=
    on_handle_create newId hup hlasts hopens hfree type creation.now hreads
  refine ⟨(after, files), ?_, hlives⟩
  rw [Services.overMemory] at hstep
  rw [Command.carryOut, answerWith, Run.on_bind, on_opening, hopens]
  dsimp only
  rw [on_create, hprepared]
  dsimp only
  rw [on_perform, hstep]
  rfl

/-- The removal of a resource succeeds as well. -/
theorem Lives.carryOut_delete {subject later : Subject} {creation : Circumstances}
    {type : ResourceType} {id : String} {world : AlarmMemory × Folder}
    (h : Lives directory memory folder (type.withRule context creation.now rules) id world)
    (hnew : memory.alarms.get? id = none)
    (hlasts : (RuleKeeping.snapshot directory).lasts verdict = true)
    (hprepared : subject.prepared creation folder = .ok (context, type))
    (hfile : ¬IsStoreFile directory subject.definition)
    (hfree : rules.get? context.physicalName = none)
    (hreads : Snapshot.ofText? (Snapshot.toText rules) = some rules)
    (hrenews : subject.Renews context.physicalName folder later) (removal : Circumstances) :
    ∃ answer after, (Command.delete later id).carryOut send (AlarmMemory.service newId)
        (.snapshot directory) verdict removal world = (.ok answer, after) ∧
      after.1.alarms = memory.alarms ∧
      (RuleKeeping.snapshot directory).opened after.2 = .ok rules := by
  obtain ⟨definition, hdescribed, htype, -⟩ := Subject.prepared_eq_ok hprepared
  obtain ⟨removed, hexisting, hname⟩ := hrenews.existing hdescribed htype removal
  rw [← later.existing_congr removal (h.files later.definition (hrenews.file ▸ hfile))]
    at hexisting
  obtain ⟨shown, hanswer⟩ := on_answer_existing send (AlarmMemory.service newId)
    (.snapshot directory) verdict removal world.1 world.2 (.delete later id) h.opens hexisting
  obtain ⟨after, files, hstep, halarms, hopens⟩ :=
    h.on_handle_delete newId hnew hlasts hfree hreads hname removal.now
  rw [Services.overMemory] at hstep
  rw [hstep] at hanswer
  exact ⟨shown ⟨some id, .deleted⟩, (after, files), hanswer, halarms, hopens⟩

/-- Over an available service in memory and a directory of rules that is opened anew by each
command, where writing succeeds and snapshots are read back as they were written: the creation of a
valid resource under a free name prints the id of its new alarm and its name.  Any updates,
suspensions and resumptions that are told these succeed, and so does the removal that follows; then
the alarms and the rules are those from before the creation.  A later command that neither is told
nor finds in its file a name fails and touches nothing, over whatever services. -/
theorem separate_commands_leave_nothing {subject : Subject} {creation : Circumstances}
    {type : ResourceType} (hup : memory.unavailable = false)
    (hnew : memory.alarms.get? (newId memory.issued) = none)
    (hlasts : (RuleKeeping.snapshot directory).lasts verdict = true)
    (hopens : (Snapshot.openAt (Folder.files verdict) directory).on folder = (.ok rules, folder))
    (hprepared : subject.prepared creation folder = .ok (context, type))
    (hfile : ¬IsStoreFile directory subject.definition)
    (hfree : rules.get? context.physicalName = none)
    (hreads : ∀ book ∈ [rules, type.withRule context creation.now rules],
      Snapshot.ofText? (Snapshot.toText book) = some book) :
    let alarms := AlarmMemory.service newId
    let keeping := RuleKeeping.snapshot directory
    let id := newId memory.issued
    (∃ created, (Command.create subject).carryOut send alarms keeping verdict creation
        (memory, folder) = (.ok (.ofEntries [
          ("alarm_id", .string id),
          ("physical_name", .string context.physicalName),
          ("state", .string LifecycleState.active.name)]), created) ∧
      ∀ (runs : List (Circumstances × Command)) (later : Subject) (removal : Circumstances),
        (∀ run ∈ runs, run.2.Continues directory subject context.physicalName id folder) →
        subject.Renews context.physicalName folder later →
        ∃ (answers : List Json) (lived : AlarmMemory × Folder) (answer : Json)
            (left : AlarmMemory × Folder),
          carryOutAll send alarms keeping verdict runs created = (answers.map .ok, lived) ∧
          (Command.delete later id).carryOut send alarms keeping verdict removal lived =
            (.ok answer, left) ∧
          left.1.alarms = memory.alarms ∧
          (Snapshot.openAt (Folder.files verdict) directory).on left.2 = (.ok rules, left.2)) ∧
    ∀ {σ : Type} (send : Http.Request → StateM σ (Option Http.Response))
      (alarms : AlarmService (StateM σ)) (keeping : RuleKeeping) (verdict : Verdict)
      (circumstances : Circumstances) (world : σ × Folder) (command : Command) (later : Subject),
      command.existing? = some later → later.physicalName? = none →
      (∀ definition, Definition.ofFile later.definition (world.2.content later.definition) =
        .ok definition → definition.physicalName? = none) →
      ∃ causes, command.carryOut send alarms keeping verdict circumstances world =
        (.error causes, world) := by
  intro alarms keeping id
  have hopened : keeping.opened folder = .ok rules := by
    rw [Snapshot.on_openAt] at hopens
    exact congrArg Prod.fst hopens
  have hreadsRules := hreads rules (List.mem_cons_self ..)
  have hreadsHeld := hreads (type.withRule context creation.now rules)
    (List.mem_cons_of_mem _ (List.mem_singleton_self _))
  obtain ⟨created, hcreated, hlives⟩ :=
    carryOut_create newId send hup hlasts hopened hprepared hfree hreadsHeld
  refine ⟨⟨created, hcreated, ?_⟩, ?_⟩
  · intro runs later removal hcontinue hrenews
    obtain ⟨definition, hdescribed, htype, -⟩ := Subject.prepared_eq_ok hprepared
    obtain ⟨answers, lived, hruns, hlived⟩ :=
      hlives.carryOutAll newId send hdescribed htype hfile hcontinue
    obtain ⟨answer, left, hremoved, halarms, hrules⟩ := hlived.carryOut_delete newId send hnew
      hlasts hprepared hfile hfree hreadsRules hrenews removal
    refine ⟨answers, lived, answer, left, hruns, hremoved, halarms, ?_⟩
    rw [Snapshot.on_openAt]
    exact congrArg (·, left.2) hrules
  · intro σ send alarms keeping verdict circumstances world command later hcommand hgiven hfile
    exact on_answer_nameless send alarms keeping verdict circumstances world.1 world.2 hcommand
      hgiven hfile

end Life

/-- An alarm whose name is generated, beside another one and a rule: it is updated, suspended and
removed under the name that its creation printed, and without that name it is not suspended. -/
theorem separate_commands_leave_nothing_of_generated_name :
    let newId (n : Nat) := String.ofList (List.replicate n 'a')
    let send (_ : Http.Request) : StateM AlarmMemory (Option Http.Response) := pure none
    let sound : Verdict := ⟨true, none, true, true⟩
    let memory : AlarmMemory := { alarms := .ofList [("a", .empty)], issued := 2 }
    let rules : RuleBook := .ofList [("other", .made "other" .null "stack" .normal ⟨0, 0⟩)]
    let value : Json := .ofEntries [("type", .string "OS::Ceilometer::Alarm"),
      ("name", .string "cpu"), ("properties", .ofEntries [("meter_name", .string "cpu_util"),
        ("threshold", .number (.int 70))])]
    let changes : Json := .ofEntries [("threshold", .number (.int 80))]
    let folder : Folder := .ofList [("cpu.json", value.indented),
      ("changes.json", changes.indented), (Snapshot.path "rules", Snapshot.toText rules)]
    let later : Subject := ⟨"cpu.json", some "stack-cpu-x"⟩
    let alarms := AlarmMemory.service newId
    let keeping := RuleKeeping.snapshot "rules"
    (∃ (created : AlarmMemory × Folder) (answers : List Json) (lived : AlarmMemory × Folder)
        (answer : Json) (left : AlarmMemory × Folder),
      (Command.create ⟨"cpu.json", none⟩).carryOut send alarms keeping sound ⟨"x", "first", ⟨1, 0⟩⟩
        (memory, folder) = (.ok (.ofEntries [("alarm_id", .string "aa"),
          ("physical_name", .string "stack-cpu-x"), ("state", .string "active")]), created) ∧
      carryOutAll send alarms keeping sound
        [(⟨"y", "second", ⟨2, 0⟩⟩, .update later "aa" "changes.json"),
          (⟨"z", "third", ⟨3, 0⟩⟩, .suspend later "aa")] created = (answers.map .ok, lived) ∧
      (Command.delete later "aa").carryOut send alarms keeping sound ⟨"w", "fourth", ⟨4, 0⟩⟩ lived =
        (.ok answer, left) ∧
      left.1.alarms = memory.alarms ∧
      (Snapshot.openAt (Folder.files sound) "rules").on left.2 = (.ok rules, left.2)) ∧
    ∃ causes, (Command.suspend ⟨"cpu.json", none⟩ "a").carryOut send alarms keeping sound
      ⟨"v", "fifth", ⟨5, 0⟩⟩ (memory, folder) = (.error causes, memory, folder) := by
  intro newId send sound memory rules value changes folder later alarms keeping
  let subject : Subject := ⟨"cpu.json", none⟩
  let creation : Circumstances := ⟨"x", "first", ⟨1, 0⟩⟩
  let definition : Definition := ⟨"OS::Ceilometer::Alarm", "cpu", "stack", none, none,
    .ofList [("meter_name", .string "cpu_util"), ("threshold", .number (.int 70))], .empty⟩
  let context : Context := .ofDefinition definition "x" "first"
  have hvalue : folder.get? "cpu.json" = some value.indented := by decide +kernel
  have hexact : value.NumbersExact := by decide +kernel
  have hread : Definition.ofDocument? Document.maxDepth (.ofJson value) = some definition := by
    decide +kernel
  have hdescribed (name? : Option String) : Subject.described ⟨"cpu.json", name?⟩ folder =
      .ok { definition with physicalName? := name? } := by
    rw [Subject.described_of_file hvalue hexact hread]
    cases name? <;> rfl
  have hprepared : subject.prepared creation folder = .ok (context, .threshold) := by
    rw [Subject.prepared, hdescribed]
    rfl
  have hreads : ∀ book ∈ [rules, ResourceType.threshold.withRule context creation.now rules],
      Snapshot.ofText? (Snapshot.toText book) = some book := by
    intro book hbook
    apply Snapshot.ofText?_toText_of_readable
    revert book
    decide +kernel
  have hopens : (Snapshot.openAt (Folder.files sound) "rules").on folder = (.ok rules, folder) := by
    have hsnapshot : folder.get? (Snapshot.path "rules") = some (Snapshot.toText rules) := by
      decide +kernel
    rw [Snapshot.on_openAt, hsnapshot, Snapshot.openText, hreads rules (List.mem_cons_self ..)]
  have hfile : ¬IsStoreFile "rules" subject.definition :=
    not_or.2 ⟨by decide +kernel, by decide +kernel⟩
  have hrenews : subject.Renews "stack-cpu-x" folder later := ⟨rfl, _, hdescribed _, rfl⟩
  have hchanged : folder.get? "changes.json" = some changes.indented := by decide +kernel
  have hchanges : changesOf folder "changes.json" =
      .ok (.ofList [("threshold", .number (.int 80))]) :=
    changesOf_of_file hchanged (by decide +kernel) (by decide +kernel) (by decide +kernel) rfl
  have hcontinue : ∀ run ∈ [((⟨"y", "second", ⟨2, 0⟩⟩ : Circumstances),
      Command.update later "aa" "changes.json"), (⟨"z", "third", ⟨3, 0⟩⟩, .suspend later "aa")],
      run.2.Continues "rules" subject "stack-cpu-x" "aa" folder := by
    refine List.forall_mem_cons.2 ⟨?_, List.forall_mem_singleton.2 (.suspend hrenews)⟩
    exact .update hrenews (not_or.2 ⟨by decide +kernel, by decide +kernel⟩) hchanges
  have hunnamed : ∀ definition, Definition.ofFile "cpu.json" (folder.content "cpu.json") =
      .ok definition → definition.physicalName? = none := by
    intro found hfound
    have hcontent : folder.content "cpu.json" = .ok value.indented := by
      rw [Folder.content, hvalue]
    rw [hcontent, Definition.ofFile, Definition.ofText?_indented hexact, hread] at hfound
    cases hfound
    rfl
  have hup : memory.unavailable = false := rfl
  have hnew : memory.alarms.get? (newId memory.issued) = none := by decide +kernel
  have hlasts : (RuleKeeping.snapshot "rules").lasts sound = true := rfl
  have hfree : rules.get? context.physicalName = none := by decide +kernel
  have hid : newId memory.issued = "aa" := by decide +kernel
  have hname : context.physicalName = "stack-cpu-x" := by decide +kernel
  have hlife := separate_commands_leave_nothing newId send hup hnew hlasts hopens hprepared hfile
    hfree hreads
  rw [hid, hname] at hlife
  obtain ⟨⟨created, hcreated, hlater⟩, hnameless⟩ := hlife
  obtain ⟨answers, lived, answer, left, hlived, hremoved, halarms, hrules⟩ :=
    hlater _ later ⟨"w", "fourth", ⟨4, 0⟩⟩ hcontinue hrenews
  have hforgotten := hnameless send alarms keeping sound ⟨"v", "fifth", ⟨5, 0⟩⟩ (memory, folder)
    (.suspend subject "a") subject rfl rfl hunnamed
  exact ⟨⟨created, answers, lived, answer, left, hcreated, hlived, hremoved, halarms, hrules⟩,
    hforgotten⟩

end CommandLine

end MeteringAlarms
