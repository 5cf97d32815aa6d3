import MeteringAlarms.Proofs.Adapter.Runs
import MeteringAlarms.Proofs.Remote.Client

/-!
# What is said to a remote service

Over the remote service a callback is a short conversation: requests, each with the answer to it or
with none.  Nothing is assumed of the other side.  It may answer anything to anything, or not at
all, so what a callback asks next and what it remembers can depend on the answers alone: an id comes
from a successful answer that holds an alarm, and a state from a successful answer to the request
that brings it about.  A request that cannot be sent is one that is not answered.
-/

namespace MeteringAlarms

variable {ω ρ : Type}

namespace Http

/-- A request with the answer to it, if one came. -/
structure Exchange where
  request : Request
  answer? : Option Response

namespace Exchange

/-- The body of an answer of success. -/
def body? (exchange : Exchange) : Option String :=
  exchange.answer?.bind fun response ↦
    if isSuccess response.status then some response.body else none

/-- The alarm that an answer of success holds. -/
def alarm? (exchange : Exchange) : Option Alarm :=
  exchange.body?.bind Alarm.ofText?

/-- The answer is that there is nothing at the address. -/
def isGone (exchange : Exchange) : Bool :=
  exchange.answer?.any fun response ↦ response.status = 404

/-- What the client makes of an exchange, which may be about an alarm. -/
def outcome (exchange : Exchange) (id? : Option String) : Except Failure String :=
  match exchange.answer? with
  | none =>
    .error (.transport
      (if exchange.request.target?.isNone then "the request cannot be sent" else "no answer"))
  | some response =>
    if isSuccess response.status then .ok response.body
    else .error (RemoteAlarms.failureOf response.status response.body id?)

/-- The outcome is the body of an answer of success.  Else it is a failure, and it says that an
alarm is missing just when the exchange is about one and nothing is at its address. -/
theorem outcome_cases (exchange : Exchange) (id? : Option String) :
    (∃ body, exchange.body? = some body ∧ exchange.outcome id? = .ok body) ∨
      exchange.body? = none ∧ ∃ failure, exchange.outcome id? = .error failure ∧
        (failure.isMissing = true ↔ id?.isSome = true ∧ exchange.isGone = true) := by
  obtain ⟨request, answer?⟩ := exchange
  unfold body? outcome isGone
  cases answer? with
  | none => exact Or.inr ⟨rfl, _, rfl, by simp [Failure.isMissing]⟩
  | some response =>
    dsimp only
    cases hsuccess : isSuccess response.status with
    | true => exact Or.inl ⟨response.body, if_pos hsuccess, if_pos rfl⟩
    | false =>
      refine Or.inr ⟨if_neg (by simp [hsuccess]), _, if_neg Bool.false_ne_true, ?_⟩
      unfold RemoteAlarms.failureOf
      cases id? with
      | none => simp [Failure.isMissing]
      | some id =>
        by_cases hgone : response.status = 404 <;> simp [hgone, Failure.isMissing]

structure Asks (exchange : Exchange) (method : Method) (url : String) : Prop where
  method : exchange.request.method = method
  url : exchange.request.url = url

variable {exchange : Exchange}

theorem isSome_answer_of_body (h : exchange.body?.isSome = true) :
    exchange.answer?.isSome = true := by
  rw [body?] at h
  exact Option.isSome_of_isSome_bind h

theorem isSome_answer_of_done (h : (exchange.body?.isSome || exchange.isGone) = true) :
    exchange.answer?.isSome = true := by
  rcases Bool.or_eq_true_iff.1 h with hbody | hgone
  · exact isSome_answer_of_body hbody
  · rw [isGone] at hgone
    cases hanswer : exchange.answer? with
    | none =>
      rw [hanswer] at hgone
      cases hgone
    | some response => rfl

theorem isSome_body_of_alarm {alarm : Alarm} (h : exchange.alarm? = some alarm) :
    exchange.body?.isSome = true := by
  rw [alarm?] at h
  exact Option.isSome_of_isSome_bind (Option.isSome_of_eq_some h)

/-- The exchanges whose requests could be sent. -/
def sent (talk : List Exchange) : List Exchange :=
  talk.filter (·.request.target?.isSome)

theorem sent_append (left right : List Exchange) : sent (left ++ right) = sent left ++ sent right :=
  List.filter_append ..

end Exchange

/-- Ways to send requests that keep the exchanges, in the order in which they take place. -/
def recording (send : Request → StateM ω (Option Response)) (request : Request) :
    StateM (ω × List Exchange) (Option Response) :=
  fun (world, log) ↦
    let (answer?, world) := (send request).run world
    (answer?, world, log ++ [⟨request, answer?⟩])

end Http

open Http

namespace RemoteAlarms

/-- An exchange of the client, with its address and its token. -/
structure Said (remote : RemoteAlarms) (exchange : Exchange) : Prop where
  token : exchange.request.token? = remote.token?
  url : exchange.request.url = remote.collectionUrl ∨
    ∃ id, exchange.request.url = remote.alarmUrl id
  unsent : exchange.request.target? = none → exchange.answer? = none

/-- What the client said between two logs. -/
structure Says (remote : RemoteAlarms) (talk before after : List Exchange) : Prop where
  said : ∀ exchange ∈ talk, remote.Said exchange
  log : after = before ++ Exchange.sent talk

theorem Says.append {remote : RemoteAlarms} {left right before middle after : List Exchange}
    (hleft : remote.Says left before middle) (hright : remote.Says right middle after) :
    remote.Says (left ++ right) before after := by
  refine ⟨fun exchange hsaid ↦ ?_, ?_⟩
  · exact (List.mem_append.1 hsaid).elim (hleft.said exchange) (hright.said exchange)
  · rw [hright.log, hleft.log, Exchange.sent_append, List.append_assoc]

theorem Says.nil (remote : RemoteAlarms) (log : List Exchange) : remote.Says [] log log :=
  ⟨nofun, (List.append_nil log).symm⟩

/-- What is answered was sent. -/
theorem Says.mem {remote : RemoteAlarms} {talk before after : List Exchange} {exchange : Exchange}
    (h : remote.Says talk before after) (hsaid : exchange ∈ talk)
    (hanswer : exchange.answer?.isSome) : exchange ∈ after := by
  have hsent : exchange.request.target?.isSome := by
    rw [Option.isSome_iff_ne_none]
    intro hunsent
    rw [(h.said exchange hsaid).unsent hunsent] at hanswer
    cases hanswer
  rw [h.log]
  exact List.mem_append_right _ (List.mem_filter.2 ⟨hsaid, hsent⟩)

/-- An alarm is read and then written back, just when an alarm was read; `written` tells whether
that had success. -/
inductive Rewrites (remote : RemoteAlarms) (id : String) : List Exchange → (written : Bool) → Prop
  | unread {read : Exchange} (reads : read.Asks .get (remote.alarmUrl id))
      (unread : read.alarm? = none) : Rewrites remote id [read] false
  | read {read write : Exchange} {alarm : Alarm} (reads : read.Asks .get (remote.alarmUrl id))
      (found : read.alarm? = some alarm) (writes : write.Asks .put (remote.alarmUrl id)) :
      Rewrites remote id [read, write] write.body?.isSome

/-- What a callback says, and the handle that the answers leave, if the rule store answers
`registered` to the rule of a creation and `cleared` to the removal of the rule. -/
inductive Converses (remote : RemoteAlarms) (registered cleared : Except Failure Unit) :
    LifecycleEvent → Handle → List Exchange → Handle → Prop
  | refused {handle : Handle} {post : Exchange} (posts : post.Asks .post remote.collectionUrl)
      (unread : post.alarm? = none) :
      Converses remote registered cleared .create handle [post] handle
  | created {handle : Handle} {post : Exchange} {alarm : Alarm}
      (posts : post.Asks .post remote.collectionUrl) (found : post.alarm? = some alarm)
      (kept : registered = .ok ()) :
      Converses remote registered cleared .create handle [post] (.attached alarm.id)
  | withdrawn {handle : Handle} {post removal : Exchange} {alarm : Alarm} {failure : Failure}
      (posts : post.Asks .post remote.collectionUrl) (found : post.alarm? = some alarm)
      (failed : registered = .error failure)
      (removes : removal.Asks .delete (remote.alarmUrl alarm.id)) :
      Converses remote registered cleared .create handle [post, removal] handle
  | unchanged {handle : Handle} {changes : Fields}
      (idle : changes.isEmpty = true ∨ handle.alarmId? = none) :
      Converses remote registered cleared (.update changes) handle [] handle
  | updated {handle : Handle} {changes : Fields} {id : String} {talk : List Exchange}
      {written : Bool} (changed : changes.isEmpty = false) (attached : handle.alarmId? = some id)
      (rewrites : remote.Rewrites id talk written) :
      Converses remote registered cleared (.update changes) handle talk handle
  | unswitched {event : LifecycleEvent} {handle : Handle}
      (switches : event = .suspend ∨ event = .resume) (detached : handle.alarmId? = none) :
      Converses remote registered cleared event handle [] handle
  | suspended {handle : Handle} {id : String} {talk : List Exchange} {written : Bool}
      (attached : handle.alarmId? = some id) (rewrites : remote.Rewrites id talk written) :
      Converses remote registered cleared .suspend handle talk
        (if written then ⟨some id, .suspended⟩ else handle)
  | resumed {handle : Handle} {id : String} {talk : List Exchange} {written : Bool}
      (attached : handle.alarmId? = some id) (rewrites : remote.Rewrites id talk written) :
      Converses remote registered cleared .resume handle talk
        (if written then ⟨some id, .active⟩ else handle)
  | uncleared {handle : Handle} {failure : Failure} (failed : cleared = .error failure) :
      Converses remote registered cleared .delete handle [] handle
  | abandoned {handle : Handle} (done : cleared = .ok ()) (detached : handle.alarmId? = none) :
      Converses remote registered cleared .delete handle [] { handle with state := .deleted }
  | deleted {handle : Handle} {id : String} {removal : Exchange} (done : cleared = .ok ())
      (attached : handle.alarmId? = some id)
      (removes : removal.Asks .delete (remote.alarmUrl id)) :
      Converses remote registered cleared .delete handle [removal]
        (if removal.body?.isSome || removal.isGone then ⟨some id, .deleted⟩ else handle)

section Operations

variable (remote : RemoteAlarms) (send : Request → StateM ω (Option Response)) (world : ω)
  (log : List Exchange)

/-- A request with its answer, or without one if it cannot be sent or none comes back. -/
def attempted (request : Request) : Exchange × ω :=
  if request.target?.isNone then (⟨request, none⟩, world)
  else (⟨request, ((send request).run world).1⟩, ((send request).run world).2)

theorem said_attempted (request : Request) (htoken : request.token? = remote.token?)
    (hurl : request.url = remote.collectionUrl ∨ ∃ id, request.url = remote.alarmUrl id) :
    remote.Said (attempted send world request).1 := by
  rw [attempted]
  split
  · exact ⟨htoken, hurl, fun _ ↦ rfl⟩
  · rename_i hsend
    refine ⟨htoken, hurl, fun hunsent ↦ absurd ?_ hsend⟩
    exact Option.isNone_iff_eq_none.2 hunsent

theorem asks_attempted (method : Method) (url : String) (token? : Option String)
    (body? : Option Json) :
    (attempted send world ⟨method, url, token?, body?⟩).1.Asks method url := by
  rw [attempted]
  split <;> exact ⟨rfl, rfl⟩

/-- Sending a request adds it to the exchanges if it can be sent. -/
theorem on_recording (request : Request) (id? : Option String) :
    (exchange (recording send) request id?).on (world, log) =
      ((attempted send world request).1.outcome id?, (attempted send world request).2,
        log ++ Exchange.sent [(attempted send world request).1]) := by
  rw [exchange, attempted]
  cases hsend : request.target? with
  | none =>
    have hsent : Exchange.sent [⟨request, none⟩] = [] :=
      List.filter_cons_of_neg (by simp [hsend])
    simp only [Option.isNone_none, if_true, hsent, List.append_nil, Exchange.outcome, hsend]
    rfl
  | some target =>
    have hanswer : Attempt.on (liftM (recording send request)) (world, log) =
        (.ok ((send request).run world).1, ((send request).run world).2,
          log ++ [⟨request, ((send request).run world).1⟩]) := rfl
    have hsent (answer? : Option Response) :
        Exchange.sent [⟨request, answer?⟩] = [⟨request, answer?⟩] :=
      List.filter_cons_of_pos (by simp [hsend])
    simp only [Option.isNone_some, Bool.false_eq_true, if_false, hsent]
    rw [Attempt.on_bind, hanswer]
    dsimp only
    rcases ((send request).run world).1 with _ | response
    · rw [Exchange.outcome, hsend]
      rfl
    · rw [Exchange.outcome]
      dsimp only
      split <;> rfl

theorem says_on_recording (request : Request) (htoken : request.token? = remote.token?)
    (hurl : request.url = remote.collectionUrl ∨ ∃ id, request.url = remote.alarmUrl id)
    (id? : Option String) :
    remote.Says [(attempted send world request).1] log
      ((exchange (recording send) request id?).on (world, log)).2.2 := by
  rw [on_recording]
  refine ⟨fun said hsaid ↦ ?_, rfl⟩
  rw [List.mem_singleton.1 hsaid]
  exact said_attempted remote send world request htoken hurl

/-- A request for an alarm has the alarm of the answer, and fails if there is none in it. -/
theorem on_read (request : Request) (id? : Option String) :
    let said := (attempted send world request).1
    let step := (exchange (recording send) request id? >>= readAlarm).on (world, log)
    step.2 = ((exchange (recording send) request id?).on (world, log)).2 ∧
      ((said.alarm? = none ∧ ∃ failure, step.1 = .error failure) ∨
        ∃ alarm, said.alarm? = some alarm ∧ step.1 = .ok alarm) := by
  intro said step
  have hstep : step = _ := Attempt.on_bind _ _ _
  rw [on_recording] at hstep ⊢
  rcases said.outcome_cases id? with ⟨body, hbody, houtcome⟩ | ⟨hbody, failure, houtcome, -⟩
  · rw [houtcome] at hstep
    dsimp only at hstep
    rw [hstep, readAlarm, Exchange.alarm?, hbody, Option.bind_some]
    cases Alarm.ofText? body with
    | none => exact ⟨rfl, Or.inl ⟨rfl, _, rfl⟩⟩
    | some alarm => exact ⟨rfl, Or.inr ⟨alarm, rfl, rfl⟩⟩
  · rw [houtcome] at hstep
    rw [hstep, Exchange.alarm?, hbody]
    exact ⟨rfl, Or.inl ⟨rfl, failure, rfl⟩⟩

/-- A request about an alarm, of whose answer only the status counts. -/
theorem on_discard (request : Request) (id : String) :
    let said := (attempted send world request).1
    let step := (discard (exchange (recording send) request (some id))).on (world, log)
    step.2 = ((exchange (recording send) request (some id)).on (world, log)).2 ∧
      (said.body?.isSome = true ∧ step.1 = .ok () ∨
        said.body?.isSome = false ∧ ∃ failure, step.1 = .error failure ∧
          failure.isMissing = said.isGone) := by
  intro said step
  have hstep : step = _ := Attempt.on_map (fun _ ↦ ()) _ _
  rw [on_recording] at hstep ⊢
  rw [hstep]
  refine ⟨rfl, ?_⟩
  rcases said.outcome_cases (some id) with
    ⟨body, hbody, houtcome⟩ | ⟨hbody, failure, houtcome, hgone⟩
  · rw [houtcome, hbody]
    exact Or.inl ⟨rfl, rfl⟩
  · rw [houtcome, hbody]
    refine Or.inr ⟨rfl, failure, rfl, ?_⟩
    rw [Bool.eq_iff_iff, hgone]
    exact and_iff_right rfl

theorem says_create (payload : Fields) :
    let step := (remote.create (recording send) payload).on (world, log)
    ∃ post, post.Asks .post remote.collectionUrl ∧ remote.Says [post] log step.2.2 ∧
      ((post.alarm? = none ∧ ∃ failure, step.1 = .error failure) ∨
        ∃ alarm, post.alarm? = some alarm ∧ step.1 = .ok alarm) := by
  intro step
  let request : Request := ⟨.post, remote.collectionUrl, remote.token?,
    some (Json.ofFields (AlarmDocument.ofFlat payload true))⟩
  have hspoken := says_on_recording remote send world log request rfl (Or.inl rfl) none
  obtain ⟨hstate, hcases⟩ := on_read send world log request none
  rw [← hstate] at hspoken
  exact ⟨(attempted send world request).1, asks_attempted send world _ _ _ _, hspoken, hcases⟩

theorem says_update (id : String) (changes : Fields) :
    let step := (remote.update (recording send) id changes).on (world, log)
    ∃ talk written, remote.Rewrites id talk written ∧ remote.Says talk log step.2.2 ∧
      (written = true ∧ step.1 = .ok () ∨
        written = false ∧ ∃ failure, step.1 = .error failure) := by
  intro step
  let read : Request := ⟨.get, remote.alarmUrl id, remote.token?, none⟩
  have hreads := asks_attempted send world .get (remote.alarmUrl id) remote.token? none
  have hread := says_on_recording remote send world log read rfl (Or.inr ⟨id, rfl⟩) (some id)
  obtain ⟨hstate, hcases⟩ := on_read send world log read (some id)
  rw [← hstate] at hread
  have hstep : step = _ := Attempt.on_bind (remote.get (recording send) id) _ (world, log)
  have hget : (remote.get (recording send) id).on (world, log) =
    (exchange (recording send) read (some id) >>= readAlarm).on (world, log) := rfl
  rw [hget] at hstep
  revert hstep hread hcases
  generalize (exchange (recording send) read (some id) >>= readAlarm).on (world, log) = got
  rcases got with ⟨outcome, next, middle⟩
  rintro hread (⟨hunread, failure, rfl⟩ | ⟨alarm, hfound, rfl⟩) hstep
  · rw [hstep]
    exact ⟨_, false, .unread hreads hunread, hread, Or.inr ⟨rfl, failure, rfl⟩⟩
  · let write : Request := ⟨.put, remote.alarmUrl id, remote.token?, some (Alarm.toJson
      { alarm with
        fields := AlarmDocument.merge alarm.fields (AlarmDocument.ofFlat changes false) })⟩
    have hwrites := asks_attempted send next .put (remote.alarmUrl id) remote.token? write.body?
    have hwrite := says_on_recording remote send next middle write rfl (Or.inr ⟨id, rfl⟩) (some id)
    obtain ⟨hstate, hcases⟩ := on_discard send next middle write id
    rw [← hstate] at hwrite
    rw [hstep]
    refine ⟨_, _, .read hreads hfound hwrites, hread.append hwrite, ?_⟩
    exact hcases.imp_right fun ⟨hfailed, failure, hfailure, _⟩ ↦ ⟨hfailed, failure, hfailure⟩

theorem says_delete (id : String) :
    let step := (remote.delete (recording send) id).on (world, log)
    ∃ removal, removal.Asks .delete (remote.alarmUrl id) ∧
      remote.Says [removal] log step.2.2 ∧
      (ignoreMissing step.1 = .ok () ↔ (removal.body?.isSome || removal.isGone) = true) := by
  intro step
  let request : Request := ⟨.delete, remote.alarmUrl id, remote.token?, none⟩
  have hspoken := says_on_recording remote send world log request rfl (Or.inr ⟨id, rfl⟩) (some id)
  obtain ⟨hstate, hcases⟩ := on_discard send world log request id
  rw [← hstate] at hspoken
  refine ⟨_, asks_attempted send world .delete (remote.alarmUrl id) remote.token? none, hspoken, ?_⟩
  have hstep : step = (discard (exchange (recording send) request (some id))).on (world, log) := rfl
  rw [hstep]
  rcases hcases with ⟨hdone, houtcome⟩ | ⟨hfailed, failure, houtcome, hgone⟩
  · rw [houtcome, hdone]
    exact iff_of_true rfl rfl
  · rw [houtcome, hfailed, ignoreMissing, hgone, Bool.false_or]
    cases (attempted send world request).1.isGone <;> simp

end Operations

/-- What the rule store of a resource answers to the rule of a creation; a combination has none. -/
def registration (type : ResourceType) (rules : RuleStore (StateM ρ)) (context : Context)
    (now : Timestamp) (stored : ρ) : Except Failure Unit :=
  match type with
  | .threshold => ((rules.create (ThresholdAlarm.watchRule context now)).on stored).1
  | .combination => .ok ()

/-- What the removal of its rule comes to; a rule that is gone already counts as removed. -/
def clearance (type : ResourceType) (rules : RuleStore (StateM ρ)) (context : Context)
    (stored : ρ) : Except Failure Unit :=
  match type with
  | .threshold => ignoreMissing ((ThresholdAlarm.removeRule rules context.physicalName).on stored).1
  | .combination => .ok ()

section Callbacks

variable (remote : RemoteAlarms) (send : Request → StateM ω (Option Response))
  (rules : RuleStore (StateM ρ)) (world : ω) (log : List Exchange) (stored : ρ)
  (context : Context) (now : Timestamp) (handle : Handle)

/-- The services of a client that keeps its exchanges, and a rule store. -/
def services : Services (StateM ((ω × List Exchange) × ρ)) :=
  .join (remote.service (recording send)) rules

theorem services_create (payload : Fields) :
    ((remote.services send rules).alarms.create payload).on ((world, log), stored) =
      (((remote.create (recording send) payload).on (world, log)).1,
        ((remote.create (recording send) payload).on (world, log)).2, stored) := rfl

theorem services_update (id : String) (changes : Fields) :
    ((remote.services send rules).alarms.update id changes).on ((world, log), stored) =
      (((remote.update (recording send) id changes).on (world, log)).1,
        ((remote.update (recording send) id changes).on (world, log)).2, stored) := rfl

theorem services_delete (id : String) :
    ((remote.services send rules).alarms.delete id).on ((world, log), stored) =
      (((remote.delete (recording send) id).on (world, log)).1,
        ((remote.delete (recording send) id).on (world, log)).2, stored) := rfl

/-- A callback is a conversation. -/
def IsConversation (registered cleared : Except Failure Unit) (event : LifecycleEvent)
    (step : Except Failure Unit × Handle × (ω × List Exchange) × ρ) : Prop :=
  ∃ talk, remote.Says talk log step.2.2.1.2 ∧
    remote.Converses registered cleared event handle talk step.2.1

theorem isConversation_create_threshold (cleared : Except Failure Unit) :
    remote.IsConversation log handle (registration .threshold rules context now stored) cleared
      .create ((ThresholdAlarm.create (remote.services send rules) context now).on handle
        ((world, log), stored)) := by
  obtain ⟨post, hposts, hpost, hcases⟩ :=
    remote.says_create send world log (ThresholdAlarm.createPayload context)
  rw [ThresholdAlarm.on_create, services_create]
  revert hpost hcases
  rcases (remote.create (recording send) (ThresholdAlarm.createPayload context)).on (world, log)
    with ⟨outcome, next, middle⟩
  rintro hpost (⟨hunread, failure, rfl⟩ | ⟨alarm, hfound, rfl⟩)
  · exact ⟨_, hpost, .refused hposts hunread⟩
  · dsimp only
    rw [services, Services.join_createRule, registration]
    rcases (rules.create (ThresholdAlarm.watchRule context now)).on stored with
      ⟨failure | ⟨⟩, registered⟩
    · obtain ⟨removal, hremoves, hremoval, -⟩ := remote.says_delete send next middle alarm.id
      exact ⟨_, hpost.append hremoval, .withdrawn hposts hfound rfl hremoves⟩
    · exact ⟨_, hpost, .created hposts hfound rfl⟩

theorem isConversation_create_combination (cleared : Except Failure Unit) :
    remote.IsConversation log handle (registration .combination rules context now stored) cleared
      .create ((CombinationAlarm.create (remote.services send rules) context).on handle
        ((world, log), stored)) := by
  obtain ⟨post, hposts, hpost, hcases⟩ :=
    remote.says_create send world log (CombinationAlarm.createPayload context)
  rw [CombinationAlarm.on_create, services_create]
  revert hpost hcases
  rcases (remote.create (recording send) (CombinationAlarm.createPayload context)).on (world, log)
    with ⟨outcome, next, middle⟩
  rintro hpost (⟨hunread, failure, rfl⟩ | ⟨alarm, hfound, rfl⟩)
  · exact ⟨_, hpost, .refused hposts hunread⟩
  · exact ⟨_, hpost, .created hposts hfound rfl⟩

theorem isConversation_update (registered cleared : Except Failure Unit) (type : ResourceType)
    (changes : Fields) :
    remote.IsConversation log handle registered cleared (.update changes)
      (((LifecycleEvent.update changes).handle type (remote.services send rules) context now).on
        handle ((world, log), stored)) := by
  rw [LifecycleEvent.on_update]
  cases hchanges : changes.isEmpty with
  | true => exact ⟨[], .nil remote log, .unchanged (Or.inl hchanges)⟩
  | false =>
    rw [if_neg Bool.false_ne_true]
    rcases hid : handle.alarmId? with _ | id
    · exact ⟨[], .nil remote log, .unchanged (Or.inr hid)⟩
    · obtain ⟨talk, written, hrewrites, hspoken, -⟩ :=
        remote.says_update send world log id (type.changePayload context changes)
      exact ⟨talk, hspoken, .updated hchanges hid hrewrites⟩

/-- Switching an alarm on or off: without an id nothing is said, and the state is entered when the
alarm has been written. -/
theorem says_switch (enabled : Bool) (state : LifecycleState) :
    let step := (Callback.switch (remote.services send rules).alarms enabled state).on handle
      ((world, log), stored)
    (handle.alarmId? = none ∧ remote.Says [] log step.2.2.1.2 ∧ step.2.1 = handle) ∨
      ∃ id talk written, handle.alarmId? = some id ∧ remote.Rewrites id talk written ∧
        remote.Says talk log step.2.2.1.2 ∧
        step.2.1 = if written then ⟨some id, state⟩ else handle := by
  intro step
  have hstep : step = _ := Callback.on_switch _ enabled state handle ((world, log), stored)
  rw [hstep]
  rcases hid : handle.alarmId? with _ | id
  · exact Or.inl ⟨rfl, .nil remote log, rfl⟩
  · obtain ⟨talk, written, hrewrites, hspoken, hcases⟩ :=
      remote.says_update send world log id (.ofList [(PropertyName.enabled, .bool enabled)])
    refine Or.inr ⟨id, talk, written, rfl, hrewrites, ?_⟩
    dsimp only
    rw [services_update]
    revert hspoken hcases
    rcases (remote.update (recording send) id _).on (world, log) with ⟨outcome, next, middle⟩
    rintro hspoken (⟨rfl, rfl⟩ | ⟨rfl, failure, rfl⟩) <;> exact ⟨hspoken, rfl⟩

theorem isConversation_suspend (registered cleared : Except Failure Unit) :
    remote.IsConversation log handle registered cleared .suspend
      ((Callback.switch (remote.services send rules).alarms false .suspended).on handle
        ((world, log), stored)) := by
  rcases remote.says_switch send rules world log stored handle false .suspended with
    ⟨hid, hspoken, hhandle⟩ | ⟨id, talk, written, hid, hrewrites, hspoken, hhandle⟩
  · refine ⟨[], hspoken, ?_⟩
    rw [hhandle]
    exact .unswitched (Or.inl rfl) hid
  · refine ⟨talk, hspoken, ?_⟩
    rw [hhandle]
    exact .suspended hid hrewrites

theorem isConversation_resume (registered cleared : Except Failure Unit) :
    remote.IsConversation log handle registered cleared .resume
      ((Callback.switch (remote.services send rules).alarms true .active).on handle
        ((world, log), stored)) := by
  rcases remote.says_switch send rules world log stored handle true .active with
    ⟨hid, hspoken, hhandle⟩ | ⟨id, talk, written, hid, hrewrites, hspoken, hhandle⟩
  · refine ⟨[], hspoken, ?_⟩
    rw [hhandle]
    exact .unswitched (Or.inr rfl) hid
  · refine ⟨talk, hspoken, ?_⟩
    rw [hhandle]
    exact .resumed hid hrewrites

theorem isConversation_delete_combination (registered : Except Failure Unit) :
    remote.IsConversation log handle registered (.ok ()) .delete
      ((CombinationAlarm.delete (remote.services send rules)).on handle
        ((world, log), stored)) := by
  rw [CombinationAlarm.on_delete, Callback.on_removeAlarm]
  rcases hid : handle.alarmId? with _ | id
  · exact ⟨[], .nil remote log, .abandoned rfl hid⟩
  · obtain ⟨removal, hremoves, hspoken, hdone⟩ := remote.says_delete send world log id
    dsimp only
    rw [services_delete]
    revert hspoken hdone
    rcases (remote.delete (recording send) id).on (world, log) with ⟨outcome, next, middle⟩
    dsimp only
    have hdeleted : remote.Converses registered (.ok ()) .delete handle [removal] _ :=
      .deleted rfl hid hremoves
    cases houtcome : ignoreMissing outcome with
    | error failure =>
      intro hspoken hdone
      rw [if_neg (hdone.not.1 nofun)] at hdeleted
      exact ⟨[removal], hspoken, hdeleted⟩
    | ok =>
      intro hspoken hdone
      rw [if_pos (hdone.1 rfl), ← hid] at hdeleted
      exact ⟨[removal], hspoken, hdeleted⟩

theorem isConversation_delete_threshold (registered : Except Failure Unit) :
    remote.IsConversation log handle registered (clearance .threshold rules context stored) .delete
      ((ThresholdAlarm.delete (remote.services send rules) context).on handle
        ((world, log), stored)) := by
  rw [ThresholdAlarm.on_delete, services, Services.join_removeRule, clearance]
  rcases (ThresholdAlarm.removeRule rules context.physicalName).on stored with ⟨outcome, left⟩
  dsimp only
  rcases ignoreMissing outcome with failure | ⟨⟩
  · exact ⟨[], .nil remote log, .uncleared rfl⟩
  · exact remote.isConversation_delete_combination send rules world log left handle registered

/-- Each callback is a conversation. -/
theorem isConversation (type : ResourceType) (event : LifecycleEvent) :
    remote.IsConversation log handle (registration type rules context now stored)
      (clearance type rules context stored) event
      ((event.handle type (remote.services send rules) context now).on handle
        ((world, log), stored)) := by
  cases event with
  | create =>
    cases type with
    | threshold =>
      exact remote.isConversation_create_threshold send rules world log stored context now handle _
    | combination =>
      exact remote.isConversation_create_combination send rules world log stored context now
        handle _
  | update changes =>
    exact remote.isConversation_update send rules world log stored context now handle _ _ type
      changes
  | suspend => exact remote.isConversation_suspend send rules world log stored handle _ _
  | resume => exact remote.isConversation_resume send rules world log stored handle _ _
  | delete =>
    cases type with
    | threshold =>
      exact remote.isConversation_delete_threshold send rules world log stored context handle _
    | combination =>
      exact remote.isConversation_delete_combination send rules world log stored handle _

end Callbacks

/-- What an adapter remembers, measured against the exchanges since it started: its id, the states
that it entered and that its alarm is gone are due to answers of success, or to one that there is no
alarm to remove. -/
structure Confirms (remote : RemoteAlarms) (start : Handle) (log : List Exchange)
    (handle : Handle) : Prop where
  id : handle.alarmId? = start.alarmId? ∨
    ∃ post ∈ log, post.Asks .post remote.collectionUrl ∧
      ∃ alarm, post.alarm? = some alarm ∧ handle.alarmId? = some alarm.id
  active : handle.state = .active → start.state = .active ∨
    ∃ exchange ∈ log, exchange.body?.isSome ∧
      (exchange.Asks .post remote.collectionUrl ∨ ∃ id, exchange.Asks .put (remote.alarmUrl id))
  suspended : handle.state = .suspended → start.state = .suspended ∨
    ∃ write ∈ log, write.body?.isSome ∧ ∃ id, write.Asks .put (remote.alarmUrl id)
  deleted : ∀ id, handle = ⟨some id, .deleted⟩ → start = ⟨some id, .deleted⟩ ∨
    ∃ removal ∈ log, removal.Asks .delete (remote.alarmUrl id) ∧
      (removal.body?.isSome || removal.isGone) = true

namespace Confirms

variable {remote : RemoteAlarms} {start handle next : Handle} {log after : List Exchange}

/-- More exchanges confirm what fewer did. -/
theorem mono (h : remote.Confirms start log handle) {talk : List Exchange}
    (hspoken : remote.Says talk log after) : remote.Confirms start after handle := by
  have hmem {exchange : Exchange} (hlog : exchange ∈ log) : exchange ∈ after := by
    rw [hspoken.log]
    exact List.mem_append_left _ hlog
  refine ⟨h.id.imp_right ?_, fun hactive ↦ (h.active hactive).imp_right ?_,
    fun hsuspended ↦ (h.suspended hsuspended).imp_right ?_,
    fun id hdeleted ↦ (h.deleted id hdeleted).imp_right ?_⟩ <;>
  · rintro ⟨exchange, hlog, hconfirms⟩
    exact ⟨exchange, hmem hlog, hconfirms⟩

/-- The state that a written alarm brings about. -/
theorem written {id : String} {talk : List Exchange} {written : Bool} {state : LifecycleState}
    (hstate : state = .suspended ∨ state = .active) (h : remote.Confirms start log handle)
    (hid : handle.alarmId? = some id) (hrewrites : remote.Rewrites id talk written)
    (hspoken : remote.Says talk log after) :
    remote.Confirms start after (if written then ⟨some id, state⟩ else handle) := by
  cases hrewrites with
  | unread reads unread => exact h.mono hspoken
  | @read read write alarm reads found writes =>
    cases hwritten : write.body?.isSome with
    | false => exact h.mono hspoken
    | true =>
      have hmem : write ∈ after := hspoken.mem (by simp) (Exchange.isSome_answer_of_body hwritten)
      refine ⟨?_, fun _ ↦ Or.inr ⟨write, hmem, hwritten, Or.inr ⟨id, writes⟩⟩,
        fun _ ↦ Or.inr ⟨write, hmem, hwritten, id, writes⟩, ?_⟩
      · have hkept := (h.mono hspoken).id
        rw [hid] at hkept
        exact hkept
      · rintro other ⟨⟩
        rcases hstate with hstate | hstate <;> cases hstate

theorem converse {registered cleared : Except Failure Unit} {event : LifecycleEvent}
    {talk : List Exchange} (h : remote.Confirms start log handle)
    (hspoken : remote.Says talk log after)
    (hconverses : remote.Converses registered cleared event handle talk next) :
    remote.Confirms start after next := by
  have hkept := h.mono hspoken
  cases hconverses with
  | refused | withdrawn | unchanged | updated | unswitched | uncleared => exact hkept
  | @created _ post alarm posts found kept =>
    have hbody := Exchange.isSome_body_of_alarm found
    have hmem : post ∈ after := hspoken.mem (by simp) (Exchange.isSome_answer_of_body hbody)
    refine ⟨Or.inr ⟨post, hmem, posts, alarm, found, rfl⟩,
      fun _ ↦ Or.inr ⟨post, hmem, hbody, Or.inl posts⟩, nofun, ?_⟩
    rintro id ⟨⟩
  | suspended attached rewrites => exact h.written (Or.inl rfl) attached rewrites hspoken
  | resumed attached rewrites => exact h.written (Or.inr rfl) attached rewrites hspoken
  | abandoned done detached =>
    refine ⟨hkept.id, nofun, nofun, fun id hdeleted ↦ ?_⟩
    rw [detached] at hdeleted
    cases hdeleted
  | @deleted _ id removal done attached removes =>
    cases hdone : removal.body?.isSome || removal.isGone with
    | false => exact hkept
    | true =>
      have hmem : removal ∈ after := hspoken.mem (by simp) (Exchange.isSome_answer_of_done hdone)
      refine ⟨?_, nofun, nofun, ?_⟩
      · have hid := hkept.id
        rw [attached] at hid
        exact hid
      · rintro other ⟨⟩
        exact Or.inr ⟨removal, hmem, removes, hdone⟩

end Confirms

variable (remote : RemoteAlarms)

/-- Where requests can be sent at all, all that is said is sent. -/
theorem CanSend.sent_eq {remote : RemoteAlarms} (hcan : remote.CanSend) {talk : List Exchange}
    (hsaid : ∀ exchange ∈ talk, remote.Said exchange) : Exchange.sent talk = talk := by
  refine List.filter_eq_self.2 fun exchange htalk ↦ ?_
  obtain ⟨htoken, hurl, -⟩ := hsaid exchange htalk
  obtain ⟨⟨method, url, token?, body?⟩, answer?⟩ := exchange
  cases htoken
  have hsends : (Request.target? ⟨method, url, remote.token?, body?⟩).isNone = false := by
    rcases hurl with rfl | ⟨id, rfl⟩
    · exact hcan.collection method body?
    · exact hcan.alarm method id body?
  exact Option.isNone_eq_false_iff.1 hsends

/-- Whatever the server answers, in every state that callbacks lead to, the id, the state and the
loss of an alarm are confirmed by the exchanges since the start, and each callback is a conversation
of its kind: what is asked, and in which order, and what is remembered depends on the answers and on
the rule store alone. -/
theorem conversation_of_reachable (send : Request → StateM ω (Option Response))
    (rules : RuleStore (StateM ρ)) (start : Resource) (world : ω) (stored : ρ)
    {moment : Moment ((ω × List Exchange) × ρ)}
    (hreachable : Reachable (remote.services send rules) (fun _ ↦ id) (fun _ _ ↦ True)
      ⟨[], start, (world, []), stored⟩ moment) :
    remote.Confirms start.handle moment.world.1.2 moment.resource.handle ∧
    ∀ event now,
      let after := moment.after (remote.services send rules) now event
      ∃ talk, after.world.1.2 = moment.world.1.2 ++ Exchange.sent talk ∧
        (∀ exchange ∈ talk, remote.Said exchange) ∧
        (remote.CanSend → Exchange.sent talk = talk) ∧
        remote.Converses (registration start.type rules start.context now moment.world.2)
          (clearance start.type rules start.context moment.world.2) event moment.resource.handle
          talk after.resource.handle := by
  have hturn (moment : Moment ((ω × List Exchange) × ρ)) (event : LifecycleEvent)
      (now : Timestamp) := remote.isConversation send rules moment.world.1.1 moment.world.1.2
        moment.world.2 moment.resource.context now moment.resource.handle moment.resource.type event
  have hsame : moment.resource.type = start.type ∧ moment.resource.context = start.context := by
    induction hreachable with
    | start => exact ⟨rfl, rfl⟩
    | callback event now _ _ ih => exact ih
    | switch available _ ih => exact ih
  refine ⟨?_, fun event now ↦ ?_⟩
  · clear hsame
    induction hreachable with
    | start => exact ⟨Or.inl rfl, Or.inl, Or.inl, fun _ ↦ Or.inl⟩
    | @callback moment event now _ _ ih =>
      obtain ⟨talk, hspoken, hconverses⟩ := hturn moment event now
      exact ih.converse hspoken hconverses
    | switch available _ ih => exact ih
  · obtain ⟨talk, hspoken, hconverses⟩ := hturn moment event now
    rw [← hsame.1, ← hsame.2]
    exact ⟨talk, hspoken.log, hspoken.said, (·.sent_eq hspoken.said), hconverses⟩

/-- An alarm is created, read and lost before it is written back, so that it is not suspended. -/
theorem conversation_of_reachable_of_lost_alarm :
    let remote : RemoteAlarms := ⟨"http://metering", none⟩
    let document := "\x7b\"alarm_id\": \"a\"\x7d"
    let server : ScriptedServer :=
      { script := [.answer ⟨201, document⟩, .answer ⟨200, document⟩, .answer ⟨404, ""⟩] }
    let start : Resource :=
      ⟨.combination, ⟨"OS::Ceilometer::CombinationAlarm", "both", "stack", .empty, .empty⟩, {}⟩
    ∃ created,
      Reachable (remote.services ScriptedServer.send RuleBook.store) (fun _ ↦ id) (fun _ _ ↦ True)
        ⟨[], start, (server, []), .empty⟩ created ∧
      created.resource.handle = .attached "a" ∧
      remote.Confirms {} created.world.1.2 created.resource.handle ∧
      ∃ talk kept,
        kept = created.after (remote.services ScriptedServer.send RuleBook.store) ⟨1, 0⟩ .suspend ∧
        kept.resource.handle = .attached "a" ∧ kept.world.1.2 = created.world.1.2 ++ talk ∧
        remote.Converses (.ok ()) (.ok ()) .suspend created.resource.handle talk
          kept.resource.handle := by
  intro remote document server start
  have hreachable :
      Reachable (remote.services ScriptedServer.send RuleBook.store) (fun _ ↦ id) (fun _ _ ↦ True)
        ⟨[], start, (server, []), .empty⟩ _ := .callback .create ⟨0, 0⟩ .start trivial
  obtain ⟨hconfirms, hturns⟩ := remote.conversation_of_reachable ScriptedServer.send RuleBook.store
    start server .empty hreachable
  obtain ⟨talk, hlog, -, hsent, hconverses⟩ := hturns .suspend ⟨1, 0⟩
  have hcan : remote.CanSend := by decide +kernel
  rw [hsent hcan] at hlog
  exact ⟨_, hreachable, by decide +kernel, hconfirms, talk, _, rfl, by decide +kernel, hlog,
    hconverses⟩

end RemoteAlarms

end MeteringAlarms
