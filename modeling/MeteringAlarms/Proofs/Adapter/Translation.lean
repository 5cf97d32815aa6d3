import MeteringAlarms.Adapter.Dispatch
import MeteringAlarms.Alarm.Remote
import MeteringAlarms.Rule.Snapshot

/-!
# Services in another monad

Services, files and callbacks are written for any monad, and it makes no difference in which of two
monads they run as long as one translates into the other: a translation keeps what is pure and what
comes first.  So to translate the services of a callback is to translate the callback, and the same
goes for the client of the remote service and for the store on a directory.
-/

namespace MeteringAlarms

/-- Computations of one monad as computations of another, where sequences remain sequences. -/
structure Translation (m n : Type → Type) [Monad m] [Monad n] where
  apply : {α : Type} → m α → n α
  apply_pure : ∀ {α : Type} (value : α), apply (pure value) = pure value
  apply_bind : ∀ {α β : Type} (first : m α) (next : α → m β),
    apply (first >>= next) = apply first >>= fun value ↦ apply (next value)

variable {m n : Type → Type} [Monad m] [Monad n] {α β : Type}

/-- The same services in another monad. -/
def Services.hoist (f : {α : Type} → m α → n α) (services : Services m) : Services n where
  alarms := services.alarms.hoist f
  rules := services.rules.hoist f

/-- The same callback in another monad. -/
def Callback.hoist (f : {α : Type} → m α → n α) (callback : Callback m α) : Callback n α :=
  ExceptT.mk fun handle ↦ f (callback.run.run handle)

theorem discard_eq_bind [LawfulMonad m] (action : m α) :
    discard action = action >>= fun _ ↦ pure PUnit.unit := by
  rw [Functor.discard, map_const]
  exact map_eq_pure_bind _ action

/-- After a failure nothing is done. -/
theorem Attempt.throw_bind [LawfulMonad m] (failure : Failure) (next : α → Attempt m β) :
    (throw failure >>= next) = throw failure := by
  apply ExceptT.ext
  exact pure_bind _ _

namespace Translation

variable (translation : Translation m n)

theorem apply_map [LawfulMonad m] [LawfulMonad n] (g : α → β) (action : m α) :
    translation.apply (g <$> action) = g <$> translation.apply action := by
  rw [map_eq_pure_bind, map_eq_pure_bind, translation.apply_bind]
  simp only [translation.apply_pure]

theorem apply_discard [LawfulMonad m] [LawfulMonad n] (action : m α) :
    translation.apply (discard action) = discard (translation.apply action) := by
  rw [discard_eq_bind, discard_eq_bind, translation.apply_bind]
  simp only [translation.apply_pure]

/-! ## Operations that may fail -/

theorem attempt_pure (value : α) :
    (pure value : Attempt m α).hoist translation.apply = pure value :=
  translation.apply_pure (Except.ok value)

theorem attempt_throw (failure : Failure) :
    (throw failure : Attempt m α).hoist translation.apply = throw failure :=
  translation.apply_pure (Except.error failure)

theorem attempt_bind (attempt : Attempt m α) (next : α → Attempt m β) :
    (attempt >>= next).hoist translation.apply =
      attempt.hoist translation.apply >>= fun value ↦ (next value).hoist translation.apply := by
  change ExceptT.mk (translation.apply (attempt.run >>= ExceptT.bindCont next)) =
    ExceptT.mk (translation.apply attempt.run >>=
      ExceptT.bindCont fun value ↦ (next value).hoist translation.apply)
  rw [translation.apply_bind]
  congr 2
  funext outcome
  cases outcome with
  | ok value => rfl
  | error failure => exact translation.apply_pure (Except.error failure)

theorem attempt_discard [LawfulMonad m] [LawfulMonad n] (attempt : Attempt m α) :
    (discard attempt).hoist translation.apply = discard (attempt.hoist translation.apply) := by
  rw [discard_eq_bind, discard_eq_bind, attempt_bind]
  simp only [attempt_pure]

theorem attempt_lift [LawfulMonad m] [LawfulMonad n] (action : m α) :
    (liftM action : Attempt m α).hoist translation.apply = liftM (translation.apply action) :=
  translation.apply_map Except.ok action

theorem attempt_outcome [LawfulMonad m] [LawfulMonad n] (attempt : Attempt m α) :
    attempt.outcome.hoist translation.apply = (attempt.hoist translation.apply).outcome :=
  translation.apply_map Except.ok attempt.run

theorem attempt_ofExcept (outcome : Except Failure α) :
    (Attempt.ofExcept outcome : Attempt m α).hoist translation.apply = .ofExcept outcome :=
  translation.apply_pure outcome

/-! ## Callbacks -/

section Callbacks

theorem callback_pure (value : α) :
    (pure value : Callback m α).hoist translation.apply = pure value :=
  congrArg ExceptT.mk (funext fun handle ↦ translation.apply_pure (Except.ok value, handle))

theorem callback_throw (failure : Failure) :
    (throw failure : Callback m α).hoist translation.apply = throw failure :=
  congrArg ExceptT.mk (funext fun handle ↦ translation.apply_pure (Except.error failure, handle))

theorem callback_bind (callback : Callback m α) (next : α → Callback m β) :
    (callback >>= next).hoist translation.apply =
      callback.hoist translation.apply >>= fun value ↦ (next value).hoist translation.apply := by
  apply ExceptT.ext
  funext handle
  change translation.apply
      (callback.run.run handle >>= fun step ↦ (ExceptT.bindCont next step.1).run step.2) =
    (translation.apply (callback.run.run handle) >>= fun step ↦
      (ExceptT.bindCont (fun value ↦ (next value).hoist translation.apply) step.1).run step.2)
  rw [translation.apply_bind]
  congr 1
  funext step
  obtain ⟨outcome, handle⟩ := step
  cases outcome with
  | ok value => rfl
  | error failure => exact translation.apply_pure _

theorem callback_call (attempt : Attempt m α) :
    (Callback.call attempt).hoist translation.apply =
      .call (attempt.hoist translation.apply) := by
  apply ExceptT.ext
  funext handle
  change translation.apply (attempt.run >>= fun outcome ↦ pure (outcome, handle)) =
    translation.apply attempt.run >>= fun outcome ↦ pure (outcome, handle)
  rw [translation.apply_bind]
  simp only [translation.apply_pure]

variable [LawfulMonad m] [LawfulMonad n]

theorem callback_discard (callback : Callback m α) :
    (discard callback).hoist translation.apply = discard (callback.hoist translation.apply) := by
  rw [discard_eq_bind, discard_eq_bind, callback_bind]
  simp only [callback_pure]

theorem callback_get : (get : Callback m Handle).hoist translation.apply = get := by
  have hget {k : Type → Type} [Monad k] [LawfulMonad k] (handle : Handle) :
      (get : Callback k Handle).run.run handle = pure (.ok handle, handle) := by
    change (Except.ok <$> (get : StateT Handle k Handle)).run handle = _
    simp
  apply ExceptT.ext
  funext handle
  change translation.apply ((get : Callback m Handle).run.run handle) =
    (get : Callback n Handle).run.run handle
  rw [hget, hget, translation.apply_pure]

theorem callback_set (handle : Handle) :
    (set handle : Callback m PUnit).hoist translation.apply = set handle := by
  have hset {k : Type → Type} [Monad k] [LawfulMonad k] (old : Handle) :
      (set handle : Callback k PUnit).run.run old = pure (.ok ⟨⟩, handle) := by
    change (Except.ok <$> (set handle : StateT Handle k PUnit)).run old = _
    simp
  apply ExceptT.ext
  funext old
  change translation.apply ((set handle : Callback m PUnit).run.run old) =
    (set handle : Callback n PUnit).run.run old
  rw [hset, hset, translation.apply_pure]

theorem callback_setState (state : LifecycleState) :
    (Callback.setState state : Callback m Unit).hoist translation.apply = .setState state := by
  have hset {k : Type → Type} [Monad k] [LawfulMonad k] (old : Handle) :
      (Callback.setState state : Callback k Unit).run.run old =
        pure (.ok (), { old with state }) := by
    change (Except.ok <$> (modify _ : StateT Handle k PUnit)).run old = _
    simp
  apply ExceptT.ext
  funext old
  change translation.apply ((Callback.setState state : Callback m Unit).run.run old) =
    (Callback.setState state : Callback n Unit).run.run old
  rw [hset, hset, translation.apply_pure]

theorem callback_outcomeOf (attempt : Attempt m α) :
    (Callback.outcomeOf attempt).hoist translation.apply =
      .outcomeOf (attempt.hoist translation.apply) := by
  rw [Callback.outcomeOf, callback_call, attempt_outcome]
  rfl

theorem callback_requireAlarm (resource : String) :
    (Callback.requireAlarm resource : Callback m String).hoist translation.apply =
      .requireAlarm resource := by
  rw [Callback.requireAlarm, Callback.requireAlarm, callback_bind, callback_get]
  congr 1
  funext handle
  cases handle.alarmId? with
  | some id => exact translation.callback_pure id
  | none => exact translation.callback_throw _

variable (services : Services m) (context : Context) (now : Timestamp)

theorem callback_switch (alarms : AlarmService m) (enabled : Bool) (state : LifecycleState) :
    (Callback.switch alarms enabled state).hoist translation.apply =
      .switch (alarms.hoist translation.apply) enabled state := by
  rw [Callback.switch, Callback.switch, callback_bind, callback_get]
  congr 1
  funext handle
  cases handle.alarmId? with
  | some id =>
    dsimp only
    rw [callback_bind, callback_call, callback_setState]
    rfl
  | none => exact translation.callback_pure ()

theorem callback_removeAlarm (alarms : AlarmService m) :
    (Callback.removeAlarm alarms).hoist translation.apply =
      .removeAlarm (alarms.hoist translation.apply) := by
  rw [Callback.removeAlarm, Callback.removeAlarm, callback_bind, callback_get]
  congr 1
  funext handle
  cases handle.alarmId? with
  | some id =>
    dsimp only
    rw [callback_bind, callback_outcomeOf]
    simp only [callback_call, attempt_ofExcept]
    rfl
  | none => exact translation.callback_pure ()

theorem threshold_create :
    (ThresholdAlarm.create services context now).hoist translation.apply =
      ThresholdAlarm.create (services.hoist translation.apply) context now := by
  rw [ThresholdAlarm.create, ThresholdAlarm.create, callback_bind, callback_call]
  congr 1
  funext alarm
  rw [callback_bind, callback_outcomeOf]
  congr 1
  funext outcome
  cases outcome with
  | ok => exact translation.callback_set _
  | error failure =>
    dsimp only
    rw [callback_bind, callback_discard, callback_outcomeOf]
    simp only [callback_throw]
    rfl

theorem threshold_delete :
    (ThresholdAlarm.delete services context).hoist translation.apply =
      ThresholdAlarm.delete (services.hoist translation.apply) context := by
  have hremove : (ThresholdAlarm.removeRule services.rules context.physicalName).hoist
        translation.apply =
      ThresholdAlarm.removeRule (services.hoist translation.apply).rules context.physicalName :=
    translation.attempt_bind _ _
  rw [ThresholdAlarm.delete, ThresholdAlarm.delete, callback_bind, callback_outcomeOf, hremove]
  simp only [callback_bind, callback_call, attempt_ofExcept, callback_removeAlarm,
    callback_setState]
  rfl

/-- Updates of both types differ in their payload only. -/
theorem event_update (type : ResourceType) (changes : Fields) :
    ((LifecycleEvent.update changes).handle type services context now).hoist translation.apply =
      (LifecycleEvent.update changes).handle type (services.hoist translation.apply) context
        now := by
  cases type <;>
  · simp only [LifecycleEvent.handle, ThresholdAlarm.update, CombinationAlarm.update]
    cases changes.isEmpty with
    | true => exact translation.callback_pure ()
    | false =>
      simp only [Bool.not_false, if_true, callback_bind, callback_requireAlarm, callback_call]
      rfl

/-- To translate the services of a callback is to translate the callback. -/
theorem event_handle (event : LifecycleEvent) (type : ResourceType) :
    (event.handle type services context now).hoist translation.apply =
      event.handle type (services.hoist translation.apply) context now := by
  cases event with
  | update changes => exact translation.event_update services context now type changes
  | suspend => exact translation.callback_switch _ _ _
  | resume => exact translation.callback_switch _ _ _
  | create =>
    cases type with
    | threshold => exact translation.threshold_create services context now
    | combination =>
      simp only [LifecycleEvent.handle, CombinationAlarm.create, callback_bind, callback_call]
      congr 1
      funext alarm
      exact translation.callback_set _
  | delete =>
    cases type with
    | threshold => exact translation.threshold_delete services context
    | combination =>
      simp only [LifecycleEvent.handle, CombinationAlarm.delete, callback_bind,
        callback_removeAlarm, callback_setState]
      rfl

end Callbacks

/-! ## The client of the remote service -/

section Client

variable (send : Http.Request → m (Option Http.Response))

theorem remote_readAlarm (body : String) :
    (RemoteAlarms.readAlarm body : Attempt m Alarm).hoist translation.apply =
      RemoteAlarms.readAlarm body := by
  rw [RemoteAlarms.readAlarm, RemoteAlarms.readAlarm]
  split
  · exact translation.attempt_pure _
  · exact translation.attempt_throw _

variable [LawfulMonad m] [LawfulMonad n]

theorem remote_exchange (request : Http.Request) (id? : Option String) :
    (RemoteAlarms.exchange send request id?).hoist translation.apply =
      RemoteAlarms.exchange (fun request ↦ translation.apply (send request)) request id? := by
  rw [RemoteAlarms.exchange, RemoteAlarms.exchange]
  cases request.target?.isNone with
  | true =>
    simp only [if_true, Attempt.throw_bind]
    exact translation.attempt_throw _
  | false =>
    simp only [Bool.false_eq_true, if_false]
    rw [attempt_bind, attempt_lift]
    congr 1
    funext answer?
    cases answer? with
    | none => exact translation.attempt_throw _
    | some response =>
      dsimp only
      split
      · exact translation.attempt_pure _
      · exact translation.attempt_throw _

variable (remote : RemoteAlarms)

theorem remote_get (id : String) :
    (remote.get send id).hoist translation.apply =
      remote.get (fun request ↦ translation.apply (send request)) id := by
  rw [RemoteAlarms.get, RemoteAlarms.get, attempt_bind, remote_exchange]
  simp only [remote_readAlarm]

theorem remote_create (payload : Fields) :
    (remote.create send payload).hoist translation.apply =
      remote.create (fun request ↦ translation.apply (send request)) payload := by
  rw [RemoteAlarms.create, RemoteAlarms.create]
  simp only [attempt_bind, remote_exchange, remote_readAlarm]

theorem remote_update (id : String) (changes : Fields) :
    (remote.update send id changes).hoist translation.apply =
      remote.update (fun request ↦ translation.apply (send request)) id changes := by
  rw [RemoteAlarms.update, RemoteAlarms.update, attempt_bind, remote_get]
  simp only [attempt_discard, remote_exchange]

theorem remote_delete (id : String) :
    (remote.delete send id).hoist translation.apply =
      remote.delete (fun request ↦ translation.apply (send request)) id := by
  rw [RemoteAlarms.delete, RemoteAlarms.delete, attempt_discard, remote_exchange]

/-- To translate how requests are sent is to translate the client. -/
theorem remote_service :
    (remote.service send).hoist translation.apply =
      remote.service fun request ↦ translation.apply (send request) := by
  rw [RemoteAlarms.service, RemoteAlarms.service, AlarmService.hoist, AlarmService.mk.injEq]
  refine ⟨?_, ?_, ?_, ?_⟩
  · exact funext fun payload ↦ translation.remote_create send remote payload
  · exact funext fun id ↦ funext fun changes ↦ translation.remote_update send remote id changes
  · exact funext fun id ↦ translation.remote_delete send remote id
  · exact funext fun id ↦ translation.remote_get send remote id

end Client

/-! ## The store on a directory -/

section Store

/-- Computations on a state of their own besides. -/
def state (σ : Type) : Translation (StateT σ m) (StateT σ n) where
  apply step := fun part ↦ translation.apply (step.run part)
  apply_pure value := funext fun part ↦ translation.apply_pure (value, part)
  apply_bind first next := funext fun part ↦
    translation.apply_bind (first.run part) fun step ↦ (next step.1).run step.2

variable [LawfulMonad m] [LawfulMonad n] (files : FileSystem m) (directory : String)

theorem snapshot_openAt :
    (Snapshot.openAt files directory).hoist translation.apply =
      Snapshot.openAt (files.hoist translation.apply) directory := by
  rw [Snapshot.openAt, Snapshot.openAt, attempt_bind, attempt_lift]
  congr 1
  funext made
  cases made with
  | false =>
    simp only [Bool.not_false, if_true, Attempt.throw_bind]
    exact translation.attempt_throw _
  | true =>
    simp only [Bool.not_true, Bool.false_eq_true, if_false]
    rw [attempt_bind, attempt_lift]
    congr 1
    funext present
    cases present with
    | false => exact translation.attempt_pure _
    | true =>
      simp only [if_true]
      rw [attempt_bind, attempt_lift]
      congr 1
      funext content
      cases content with
      | error fault => exact translation.attempt_throw _
      | ok text =>
        dsimp only
        split
        · exact translation.attempt_pure _
        · exact translation.attempt_throw _

theorem snapshot_replace (rules : RuleBook) :
    translation.apply (Snapshot.replace files directory rules) =
      Snapshot.replace (files.hoist translation.apply) directory rules := by
  rw [Snapshot.replace, Snapshot.replace, translation.apply_bind]
  congr 1
  funext written
  have hclean : translation.apply (do
        discard <| files.remove (FileSystem.join directory Snapshot.newFileName)
        pure false) = (do
        discard <| translation.apply
          (files.remove (FileSystem.join directory Snapshot.newFileName))
        pure false) := by
    rw [translation.apply_bind, apply_discard, translation.apply_pure]
  cases written with
  | false =>
    simp only [Bool.false_eq_true, if_false, pure_bind, Bool.not_false, if_true]
    exact hclean
  | true =>
    simp only [if_true]
    rw [translation.apply_bind]
    congr 1
    funext renamed
    cases renamed with
    | false => exact hclean
    | true => exact translation.apply_pure true

theorem snapshot_settle (undo : RuleBook → RuleBook) (changed : RuleBook) :
    translation.apply (Snapshot.settle files directory undo changed) =
      Snapshot.settle (files.hoist translation.apply) directory undo changed := by
  rw [Snapshot.settle, Snapshot.settle, translation.apply_bind, snapshot_replace]
  congr 1
  funext replaced
  split <;> exact translation.apply_pure _

/-- To translate the steps on files is to translate the store. -/
theorem snapshot_store :
    (Snapshot.store files directory).hoist (translation.state RuleBook).apply =
      Snapshot.store (files.hoist translation.apply) directory := by
  rw [Snapshot.store, Snapshot.store, RuleStore.hoist, RuleStore.mk.injEq]
  refine ⟨funext fun rule ↦ ?_, funext fun name ↦ ?_, funext fun name ↦ ?_⟩
  · apply ExceptT.ext
    funext rules
    change translation.apply ((Snapshot.create files directory rule).run rules) =
      (Snapshot.create (files.hoist translation.apply) directory rule).run rules
    rw [Snapshot.create, Snapshot.create, ExceptT.run_mk, ExceptT.run_mk]
    rcases RuleBook.create rule rules with ⟨failure | _, rules⟩
    · exact translation.apply_pure _
    · exact translation.snapshot_settle files directory _ rules
  · apply ExceptT.ext
    funext rules
    exact translation.apply_pure (RuleBook.load name rules)
  · apply ExceptT.ext
    funext rules
    change translation.apply ((Snapshot.destroy files directory name).run rules) =
      (Snapshot.destroy (files.hoist translation.apply) directory name).run rules
    rw [Snapshot.destroy, Snapshot.destroy, ExceptT.run_mk, ExceptT.run_mk]
    cases rules.get? name with
    | none => exact translation.apply_pure _
    | some removed => exact translation.snapshot_settle files directory _ _

end Store

end Translation

end MeteringAlarms
