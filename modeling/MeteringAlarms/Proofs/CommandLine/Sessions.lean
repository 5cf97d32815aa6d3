import MeteringAlarms.CommandLine.Run
import MeteringAlarms.Proofs.Adapter.Translation
import MeteringAlarms.Proofs.Rule.Reopening

/-!
# Commands as steps

A command runs in a process of its own: it opens the services, carries out at most one callback on
them and ends.  Between two commands the alarm service and the files stay, and nothing else does.
This module says of the parts of a command which step they take on the pair of the two, for any
alarm service; the callback in the middle is the one over the joined services, so all that is known
of callbacks holds of commands.
-/

namespace MeteringAlarms

variable {σ φ α β : Type}

namespace Translation

/-- Computations on the left part of a pair. -/
def onLeft : Translation (StateM σ) (StateM (σ × φ)) where
  apply := StateM.focus Prod.fst fun part whole ↦ (part, whole.2)
  apply_pure _ := rfl
  apply_bind _ _ := rfl

/-- Computations on the right part of a pair. -/
def onRight : Translation (StateM φ) (StateM (σ × φ)) where
  apply := StateM.focus Prod.snd fun part whole ↦ (whole.1, part)
  apply_pure _ := rfl
  apply_bind _ _ := rfl

/-- Computations on rules and a pair around them. -/
def between : Translation (StateT RuleBook (StateM (σ × φ))) (StateM (σ × RuleBook × φ)) where
  apply step := fun world ↦
    let result := (step.run world.2.1).run (world.1, world.2.2)
    (result.1.1, result.2.1, result.1.2, result.2.2)
  apply_pure _ := rfl
  apply_bind _ _ := rfl

end Translation

/-- The files of a folder beside the state of an alarm service. -/
def Folder.besides (σ : Type) (verdict : Verdict) : FileSystem (StateM (σ × Folder)) :=
  (Folder.files verdict).hoist Translation.onRight.apply

/-- The rules that a store starts with. -/
def RuleKeeping.opened (folder : Folder) : RuleKeeping → Except Failure RuleBook
  | .memory => .ok .empty
  | .snapshot directory => Snapshot.openText (folder.get? (Snapshot.path directory))

/-- The store that settings ask for. -/
def Settings.keeping (settings : Settings) : RuleKeeping :=
  settings.ruleDirectory?.elim .memory .snapshot

/-- The client that settings ask for. -/
def Settings.remote (settings : Settings) : RemoteAlarms :=
  .ofEndpoint settings.endpoint settings.token?

/-- The content of a file. -/
def Folder.content (folder : Folder) (path : String) : Except ReadFault String :=
  match folder.get? path with
  | some text => .ok text
  | none => .error .missing

namespace CommandLine

variable {ω : Type}

/-- The step that a part of a command takes. -/
def Run.on (run : Run (StateM ω) α) (world : ω) : Except (List Cause) α × ω :=
  run.run.run world

namespace Run

theorem on_bind (run : Run (StateM ω) α) (next : α → Run (StateM ω) β) (world : ω) :
    Run.on (run >>= next) world =
      match run.on world with
      | (.ok value, world) => (next value).on world
      | (.error causes, world) => (.error causes, world) := by
  change (ExceptT.bindCont next (run.on world).1).run (run.on world).2 = _
  rcases run.on world with ⟨_ | _, _⟩ <;> rfl

@[simp] theorem on_pure (value : α) (world : ω) :
    Run.on (pure value : Run (StateM ω) α) world = (.ok value, world) := rfl

@[simp] theorem on_throw (causes : List Cause) (world : ω) :
    Run.on (throw causes : Run (StateM ω) α) world = (.error causes, world) := rfl

@[simp] theorem on_lift (action : StateM ω α) (world : ω) :
    Run.on (liftM action : Run (StateM ω) α) world =
      (.ok (action.run world).1, (action.run world).2) := rfl

theorem on_orFail (outcome : Except Failure α) (doing : List String) (world : ω) :
    Run.on (orFail outcome doing : Run (StateM ω) α) world =
      (outcome.mapError fun failure ↦ doing.map .context ++ [.failure failure], world) := by
  cases outcome <;> rfl

end Run

/-- What a command finds anew each time. -/
structure Circumstances where
  suffix : String
  stackId : String
  now : Timestamp

/-- A network and files that share nothing. -/
def Platform.over (send : Http.Request → StateM σ (Option Http.Response)) (verdict : Verdict)
    (circumstances : Circumstances) : Platform (StateM (σ × Folder)) where
  files := Folder.besides σ verdict
  send request := Translation.onLeft.apply (send request)
  newSuffix := pure circumstances.suffix
  newStackId := pure circumstances.stackId
  now := pure circumstances.now

/-- A session of an alarm service with a rule store. -/
def Session.over (alarms : AlarmService (StateM σ)) (keeping : RuleKeeping) (verdict : Verdict)
    (rules : RuleBook) : Session (StateM (σ × Folder)) where
  services := {
    alarms := (alarms.hoist Translation.onLeft.apply).hoist fun action ↦ StateT.lift action
    rules := match keeping with
      | .memory => RuleBook.store.hoist fun step rules ↦ pure (step.run rules)
      | .snapshot directory => Snapshot.store (Folder.besides σ verdict) directory }
  rules

/-- The services of a session are those that share nothing. -/
theorem Session.services_over (alarms : AlarmService (StateM σ)) (keeping : RuleKeeping)
    (verdict : Verdict) (rules : RuleBook) :
    (Session.over alarms keeping verdict rules).services.hoist Translation.between.apply =
      .join alarms (keeping.store verdict) := by
  cases keeping with
  | memory => rfl
  | snapshot directory =>
    rw [Session.over, Services.hoist]
    dsimp only
    rw [Folder.besides, ← Translation.snapshot_store]
    rfl

variable (send : Http.Request → StateM σ (Option Http.Response)) (alarms : AlarmService (StateM σ))
  (keeping : RuleKeeping) (verdict : Verdict) (circumstances : Circumstances) (rules : RuleBook)
  (state : σ) (folder : Folder)

/-- A command carries out its callback on the joined services, and then forgets the rules. -/
theorem on_perform (type : ResourceType) (context : Context) (handle : Handle)
    (event : LifecycleEvent) :
    (perform (.over send verdict circumstances) (.over alarms keeping verdict rules) type context
        handle event).on (state, folder) =
      match (event.handle type (.join alarms (keeping.store verdict)) context circumstances.now).on
        handle (state, rules, folder) with
      | (.ok (), handle, state, _, folder) => (.ok handle, state, folder)
      | (.error failure, _, state, _, folder) => (.error [.failure failure], state, folder) := by
  let callback := event.handle type (Session.over alarms keeping verdict rules).services context
    circumstances.now
  have hcallback : callback.hoist Translation.between.apply =
      event.handle type (.join alarms (keeping.store verdict)) context circumstances.now := by
    rw [Translation.event_handle, Session.services_over]
  let result := ((callback.run.run handle).run rules).run (state, folder)
  have hstep : (perform (.over send verdict circumstances) (.over alarms keeping verdict rules) type
      context handle event).on (state, folder) =
        Run.on (do orFail result.1.1.1 []; pure result.1.1.2) result.2 := rfl
  have hjoined : (callback.hoist Translation.between.apply).on handle (state, rules, folder) =
    (result.1.1.1, result.1.1.2, result.2.1, result.1.2, result.2.2) := rfl
  rw [← hcallback, hstep, hjoined, Run.on_bind, Run.on_orFail]
  rcases result.1.1.1 with failure | _ <;> rfl

/-! ## Opening the services -/

/-- Opens a rule store beside a given alarm service. -/
def Session.opening (alarms : AlarmService (StateM σ)) (keeping : RuleKeeping) (verdict : Verdict) :
    Run (StateM (σ × Folder)) (Session (StateM (σ × Folder))) :=
  match keeping with
  | .memory => pure (.over alarms .memory verdict .empty)
  | .snapshot directory => do
    let outcome ← (Snapshot.openAt (Folder.besides σ verdict) directory).run
    let rules ← orFail outcome []
    pure (.over alarms (.snapshot directory) verdict rules)

theorem on_opening :
    (Session.opening alarms keeping verdict).on (state, folder) =
      match keeping.opened folder with
      | .ok rules => (.ok (.over alarms keeping verdict rules), state, folder)
      | .error failure => (.error [.failure failure], state, folder) := by
  cases keeping with
  | memory => rfl
  | snapshot directory =>
    have hopen : (Snapshot.openAt (Folder.besides σ verdict) directory).on (state, folder) =
        (Snapshot.openText (folder.get? (Snapshot.path directory)), state, folder) := by
      have hon := Snapshot.on_openAt directory verdict folder
      rw [Folder.besides, ← Translation.snapshot_openAt]
      change (((Snapshot.openAt (Folder.files verdict) directory).on folder).1, state,
        ((Snapshot.openAt (Folder.files verdict) directory).on folder).2) = _
      rw [hon]
    have hlift : Run.on (liftM (Snapshot.openAt (Folder.besides σ verdict) directory).run)
        (state, folder) =
        (.ok ((Snapshot.openAt (Folder.besides σ verdict) directory).on (state, folder)).1,
          ((Snapshot.openAt (Folder.besides σ verdict) directory).on (state, folder)).2) := rfl
    rw [Session.opening, Run.on_bind, hlift, hopen]
    dsimp only
    rw [Run.on_bind, Run.on_orFail, RuleKeeping.opened]
    cases Snapshot.openText (folder.get? (Snapshot.path directory)) <;> rfl

variable (subject : Subject)

theorem on_read (path : String) :
    Run.on (liftM ((Platform.over send verdict circumstances).files.read path) :
        Run (StateM (σ × Folder)) (Except ReadFault String)) (state, folder) =
      (.ok (Folder.content folder path), state, folder) := rfl

/-! ## Reading files -/

/-- The definition that a subject's file gives, under the subject's name if it has one. -/
def Subject.described (subject : Subject) (folder : Folder) : Except (List Cause) Definition :=
  match Definition.ofFile subject.definition (folder.content subject.definition) with
  | .ok definition =>
    .ok { definition with physicalName? := subject.physicalName? <|> definition.physicalName? }
  | .error failure =>
    .error [.context ("loading definition " ++ subject.definition), .failure failure]

theorem on_readDefinition :
    (readDefinition (.over send verdict circumstances) subject).on (state, folder) =
      (subject.described folder, state, folder) := by
  rw [readDefinition, Run.on_bind, on_read]
  dsimp only
  rw [Run.on_bind, Run.on_orFail, Subject.described]
  cases Definition.ofFile subject.definition (folder.content subject.definition) with
  | error failure => rfl
  | ok definition => cases subject.physicalName? <;> rfl

theorem on_readExisting :
    (readExisting (.over send verdict circumstances) subject).on (state, folder) =
      (match subject.described folder with
        | .ok definition =>
          if definition.physicalName?.isNone then
            .error [.context ("definition " ++ subject.definition ++
              " has no physical_name; pass --physical-name with the name printed by create")]
          else .ok definition
        | .error causes => .error causes, state, folder) := by
  rw [readExisting, Run.on_bind, on_readDefinition]
  cases subject.described folder with
  | error causes => rfl
  | ok definition =>
    dsimp only
    cases definition.physicalName?.isNone <;> rfl

theorem on_load (definition : Definition) :
    (load (.over send verdict circumstances) definition).on (state, folder) =
      (match ResourceType.find definition.type with
        | .ok type => .ok
          (.ofDefinition definition circumstances.suffix circumstances.stackId, type)
        | .error failure => .error [.failure failure], state, folder) := by
  have hload : (load (.over send verdict circumstances) definition).on (state, folder) =
    Run.on (orFail (ResourceType.find definition.type) [] >>= fun type ↦
      pure (Context.ofDefinition definition circumstances.suffix circumstances.stackId, type))
      (state, folder) := rfl
  rw [hload, Run.on_bind, Run.on_orFail]
  cases ResourceType.find definition.type <;> rfl

/-- A file that holds a definition as it is written. -/
theorem Subject.described_of_file {subject : Subject} {folder : Folder} {value : Json}
    {definition : Definition} (hfile : folder.get? subject.definition = some value.indented)
    (hexact : value.NumbersExact)
    (hread : Definition.ofDocument? Document.maxDepth (.ofJson value) = some definition) :
    subject.described folder = .ok { definition with
      physicalName? := subject.physicalName? <|> definition.physicalName? } := by
  have hcontent : folder.content subject.definition = .ok value.indented := by
    rw [Folder.content, hfile]
  rw [described, hcontent, Definition.ofFile, Definition.ofText?_indented hexact, hread]

/-- The changes that a file gives. -/
def changesOf (folder : Folder) (path : String) : Except (List Cause) Fields :=
  match folder.content path with
  | .error fault => .error [.context ("reading changes " ++ path), .unreadable fault]
  | .ok text =>
    match Json.ofText? text with
    | none => .error [.notJson]
    | some value =>
      match value.fields? with
      | some changes => .ok changes
      | none => .error [.context ("changes must be a JSON object, got " ++ value.compact)]

theorem changesOf_of_file {folder : Folder} {path : String} {value : Json} {changes : Fields}
    (hfile : folder.get? path = some value.indented) (hcanonical : value.Canonical)
    (hexact : value.NumbersExact) (hshallow : value.depth ≤ Document.maxDepth)
    (hchanges : value.fields? = some changes) : changesOf folder path = .ok changes := by
  have hcontent : folder.content path = .ok value.indented := by
    rw [Folder.content, hfile]
  rw [changesOf, hcontent]
  dsimp only
  rw [Json.ofText?_indented hcanonical hexact, if_pos hshallow]
  dsimp only
  rw [hchanges]

theorem on_readChanges (path : String) :
    (readChanges (.over send verdict circumstances) path).on (state, folder) =
      (changesOf folder path, state, folder) := by
  rw [readChanges, Run.on_bind, on_read, changesOf]
  rcases folder.content path with fault | text
  · rfl
  · dsimp only
    rcases Json.ofText? text with _ | value
    · rfl
    · dsimp only
      rcases value.fields? with _ | changes <;> rfl

/-! ## Commands -/

/-- A command on sessions that are opened in a given way. -/
def answerWith {m : Type → Type} [Monad m] (platform : Platform m)
    (opening : Run m (Session m)) : Command → Run m Json
  | .types => pure listTypes
  | .render subject => render platform subject
  | .create subject => do create platform (← opening) subject
  | .update subject alarmId changes => do update platform (← opening) subject alarmId changes
  | .suspend subject alarmId => do toggle platform (← opening) subject alarmId .suspend
  | .resume subject alarmId => do toggle platform (← opening) subject alarmId .resume
  | .delete subject alarmId => do toggle platform (← opening) subject alarmId .delete

theorem Invocation.answer_eq {m : Type → Type} [Monad m] (platform : Platform m)
    (invocation : Invocation) :
    invocation.answer platform =
      answerWith platform (openSession platform invocation) invocation.command := by
  rw [Invocation.answer]
  cases invocation.command <;> rfl

/-- The settings that an invocation is given. -/
def Invocation.configuration (invocation : Invocation) (folder : Folder) :
    Except (List Cause) Settings := do
  let settings ← match invocation.config? with
    | some path => (Settings.ofFile path (folder.content path)).mapError fun failure ↦
        [.context ("loading config " ++ path), .failure failure]
    | none => .ok {}
  match invocation.endpoint? with
  | some endpoint => pure { settings with endpoint }
  | none => pure settings

theorem on_settings (invocation : Invocation) :
    (settings (.over send verdict circumstances) invocation).on (state, folder) =
      (invocation.configuration folder, state, folder) := by
  obtain ⟨config?, endpoint?, command⟩ := invocation
  rw [CommandLine.settings, Invocation.configuration]
  cases config? with
  | none => cases endpoint? <;> rfl
  | some path =>
    dsimp only
    rw [Run.on_bind, on_read]
    dsimp only
    rw [Run.on_bind, Run.on_orFail]
    cases Settings.ofFile path (folder.content path) with
    | error failure => rfl
    | ok settings => cases endpoint? <;> rfl

/-- The services of an invocation are those that its settings ask for. -/
theorem openSession_over (invocation : Invocation) :
    openSession (.over send verdict circumstances) invocation = (do
      let settings ← settings (.over send verdict circumstances) invocation
      orFail settings.validate []
      Session.opening (settings.remote.service send) settings.keeping verdict) := by
  rw [openSession]
  congr 1
  funext settings
  congr 1
  funext _
  have halarms : settings.remote.service (Platform.over send verdict circumstances).send =
      (settings.remote.service send).hoist Translation.onLeft.apply :=
    (Translation.onLeft.remote_service send settings.remote).symm
  rw [Settings.remote] at halarms
  dsimp only
  rw [halarms]
  cases hdirectory : settings.ruleDirectory? with
  | none =>
    rw [Settings.keeping, hdirectory]
    rfl
  | some directory =>
    rw [Settings.keeping, hdirectory]
    rfl

/-- The settings of an invocation and the rules that its store starts with. -/
def Invocation.opened (invocation : Invocation) (folder : Folder) :
    Except (List Cause) (Settings × RuleBook) :=
  match invocation.configuration folder with
  | .error causes => .error causes
  | .ok settings =>
    match settings.validate, settings.keeping.opened folder with
    | .error failure, _ => .error [.failure failure]
    | .ok (), .error failure => .error [.failure failure]
    | .ok (), .ok rules => .ok (settings, rules)

theorem on_openSession (invocation : Invocation) :
    (openSession (.over send verdict circumstances) invocation).on (state, folder) =
      match invocation.opened folder with
      | .ok (settings, rules) =>
        (.ok (.over (settings.remote.service send) settings.keeping verdict rules), state, folder)
      | .error causes => (.error causes, state, folder) := by
  rw [openSession_over, Run.on_bind, on_settings, Invocation.opened]
  cases invocation.configuration folder with
  | error causes => rfl
  | ok settings =>
    dsimp only
    rw [Run.on_bind, Run.on_orFail]
    rcases settings.validate with failure | _
    · rfl
    · change (Session.opening (settings.remote.service send) settings.keeping verdict).on
        (state, folder) = _
      rw [on_opening]
      rcases settings.keeping.opened folder with failure | rules <;> rfl

/-! ## Rendering and creating -/

/-- The context and the type of a subject, if it is valid. -/
def Subject.prepared (subject : Subject) (circumstances : Circumstances) (folder : Folder) :
    Except (List Cause) (Context × ResourceType) :=
  match subject.described folder with
  | .error causes => .error causes
  | .ok definition =>
    let context := Context.ofDefinition definition circumstances.suffix circumstances.stackId
    match ResourceType.find definition.type, context.validate with
    | .error failure, _ => .error [.failure failure]
    | .ok _, .error failure => .error [.failure failure]
    | .ok type, .ok () => .ok (context, type)

/-- Renderings and creations begin alike. -/
theorem on_prepared (next : Context × ResourceType → Run (StateM (σ × Folder)) Json) :
    Run.on (do
        let definition ← readDefinition (.over send verdict circumstances) subject
        let (context, type) ← load (.over send verdict circumstances) definition
        orFail context.validate []
        next (context, type)) (state, folder) =
      match subject.prepared circumstances folder with
      | .ok prepared => (next prepared).on (state, folder)
      | .error causes => (.error causes, state, folder) := by
  rw [Run.on_bind, on_readDefinition, Subject.prepared]
  cases subject.described folder with
  | error causes => rfl
  | ok definition =>
    dsimp only
    rw [Run.on_bind, on_load]
    cases ResourceType.find definition.type with
    | error failure => rfl
    | ok type =>
      dsimp only
      rw [Run.on_bind, Run.on_orFail]
      rcases (Context.ofDefinition definition circumstances.suffix
        circumstances.stackId).validate with _ | _ <;> rfl

theorem on_render :
    (render (.over send verdict circumstances) subject).on (state, folder) =
      ((subject.prepared circumstances folder).map fun (context, type) ↦
        .ofFields (type.createPayload context), state, folder) := by
  have hrender := on_prepared send verdict circumstances state folder subject
    fun (context, type) ↦ pure (.ofFields (type.createPayload context))
  refine Eq.trans hrender ?_
  cases subject.prepared circumstances folder <;> rfl

theorem on_create (session : Session (StateM (σ × Folder))) :
    (create (.over send verdict circumstances) session subject).on (state, folder) =
      match subject.prepared circumstances folder with
      | .error causes => (.error causes, state, folder)
      | .ok (context, type) =>
        match (perform (.over send verdict circumstances) session type context {} .create).on
          (state, folder) with
        | (.error causes, world) => (.error causes, world)
        | (.ok handle, world) =>
          (.ok (.ofEntries [
            ("alarm_id", .ofOption handle.alarmId?),
            ("physical_name", .string context.physicalName),
            ("state", .string handle.state.name)]), world) := by
  have hcreate := on_prepared send verdict circumstances state folder subject
    fun (context, type) ↦ do
      let handle ← perform (.over send verdict circumstances) session type context {} .create
      pure <| .ofEntries [
        ("alarm_id", .ofOption handle.alarmId?),
        ("physical_name", .string context.physicalName),
        ("state", .string handle.state.name)]
  refine Eq.trans hcreate ?_
  cases subject.prepared circumstances folder with
  | error causes => rfl
  | ok prepared =>
    dsimp only
    rw [Run.on_bind]
    rcases (perform (.over send verdict circumstances) session prepared.2 prepared.1 {} .create).on
      (state, folder) with ⟨_ | _, _⟩ <;> rfl

end CommandLine

end MeteringAlarms
