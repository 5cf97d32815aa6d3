import MeteringAlarms.Proofs.CommandLine.Sessions
import MeteringAlarms.Proofs.Payload.Fitting
import MeteringAlarms.Proofs.Remote.Conversation
import MeteringAlarms.Proofs.Rule.Reopening

/-!
# What is rendered and what is sent

A rendering and a creation of the same definition begin alike, so under a fixed physical name they
agree on what is valid.  A rendering shows the payload of the creation, though, and the client sends
the document that it makes of it.  The two are the same just for combinations with a rule.
-/

namespace MeteringAlarms

open AlarmDocument Payload

/-- The payload of a combination has a rule just if there is something that its rule takes. -/
theorem CombinationAlarm.contains_createPayload (context : Context) :
    (createPayload context).contains combinationRule =
      ResourceType.combination.givesRule context := by
  rw [createPayload_eq, contains_reshapeCombination (get?_flatBody_eq_none context (by decide)),
    combinationRuleOf_flatBody, isEmpty_combinationRuleOf, Bool.not_not]
  rfl

/-- A creation sends its payload as it is just for a combination with a rule. -/
theorem ResourceType.ofFlat_createPayload_eq_iff (type : ResourceType) (context : Context) :
    ofFlat (type.createPayload context) true = type.createPayload context ↔
      type = .combination ∧ type.givesRule context = true := by
  cases type with
  | threshold =>
    have hbody := ThresholdAlarm.isBody_createPayload context
    refine iff_of_false (fun hsame ↦ ?_) (by rintro ⟨⟨⟩, -⟩)
    have htype := congrArg (·.get? typeField) hsame
    have hnone : (ThresholdAlarm.createPayload context).get? typeField = none :=
      hbody.get?_eq_none (by decide)
    dsimp only [createPayload] at htype
    rw [get?_ofFlat hbody.isFlat, Bool.true_or, if_pos rfl, if_neg (by decide), if_pos rfl,
      hnone] at htype
    cases htype
  | combination =>
    rw [createPayload, CombinationAlarm.ofFlat_createPayload,
      CombinationAlarm.contains_createPayload]
    refine Iff.trans ?_ (and_iff_right rfl).symm
    split
    · rename_i hrule
      exact iff_of_true rfl hrule
    · rename_i hrule
      refine iff_of_false (fun hsame ↦ ?_) hrule
      have hentry := congrArg (·.get? thresholdRule) hsame
      rw [OrderedMap.get?_insert, if_pos rfl,
        CombinationAlarm.get?_createPayload_eq_none context (by decide) (by decide)] at hentry
      cases hentry

namespace Http.Exchange

/-- The bodies that were posted. -/
def posted (log : List Exchange) : List Json :=
  log.filterMap fun exchange ↦
    if exchange.request.method = .post then exchange.request.body? else none

theorem posted_append (left right : List Exchange) :
    posted (left ++ right) = posted left ++ posted right :=
  List.filterMap_append ..

end Http.Exchange

open Http

namespace RemoteAlarms

variable {ω ρ : Type} {remote : RemoteAlarms} (send : Request → StateM ω (Option Response))
  (rules : RuleStore (StateM ρ)) (world : ω) (log : List Exchange) (stored : ρ)
  (context : Context) (now : Timestamp) (handle : Handle)

theorem posted_create (hsend : remote.CanSend) (payload : Fields) :
    Exchange.posted ((remote.create (recording send) payload).on (world, log)).2.2 =
      Exchange.posted log ++ [.ofFields (ofFlat payload true)] := by
  let request : Request := ⟨.post, remote.collectionUrl, remote.token?,
    some (Json.ofFields (ofFlat payload true))⟩
  have hsent : request.target?.isNone = false := hsend.collection _ _
  obtain ⟨hstate, -⟩ := on_read send world log request none
  have hlog : ((remote.create (recording send) payload).on (world, log)).2.2 =
      log ++ Exchange.sent [(attempted send world request).1] := by
    refine (congrArg Prod.snd hstate).trans ?_
    rw [on_recording]
  have hpost : Exchange.posted (Exchange.sent [(attempted send world request).1]) =
      [.ofFields (ofFlat payload true)] := by
    rw [attempted, hsent, if_neg Bool.false_ne_true]
    have hpass : Exchange.sent [⟨request, ((send request).run world).1⟩] =
        [⟨request, ((send request).run world).1⟩] :=
      List.filter_cons_of_pos (by simpa using hsent)
    rw [hpass]
    rfl
  rw [hlog, Exchange.posted_append, hpost]

theorem posted_delete (id : String) :
    Exchange.posted ((remote.delete (recording send) id).on (world, log)).2.2 =
      Exchange.posted log := by
  obtain ⟨removal, hasks, hremoved, -⟩ := remote.says_delete send world log id
  have hremoval : Exchange.posted (Exchange.sent [removal]) = [] := by
    refine List.filterMap_eq_nil_iff.2 fun exchange hexchange ↦ ?_
    have hmem := List.mem_of_mem_filter hexchange
    rw [List.mem_singleton.1 hmem, hasks.method, if_neg (by decide)]
  rw [hremoved.log, Exchange.posted_append, hremoval, List.append_nil]

/-- However it ends, a creation posts the document of its payload, once. -/
theorem posted_handle_create (hsend : remote.CanSend) (type : ResourceType) :
    Exchange.posted ((LifecycleEvent.create.handle type (remote.services send rules) context
        now).on handle ((world, log), stored)).2.2.1.2 =
      Exchange.posted log ++ [.ofFields (ofFlat (type.createPayload context) true)] := by
  have hposted := posted_create send world log hsend (type.createPayload context)
  cases type with
  | threshold =>
    rw [LifecycleEvent.handle, ThresholdAlarm.on_create, services_create]
    revert hposted
    dsimp only [ResourceType.createPayload]
    rcases (remote.create (recording send) (ThresholdAlarm.createPayload context)).on (world, log)
      with ⟨failure | alarm, next, middle⟩
    · exact id
    · dsimp only
      rw [services, Services.join_createRule]
      rcases ((rules.create (ThresholdAlarm.watchRule context now)).on stored) with
        ⟨failure | _, registered⟩
      · intro hposted
        dsimp only
        rw [← services, services_delete, posted_delete, hposted]
      · exact id
  | combination =>
    rw [LifecycleEvent.handle, CombinationAlarm.on_create, services_create]
    revert hposted
    dsimp only [ResourceType.createPayload]
    rcases (remote.create (recording send) (CombinationAlarm.createPayload context)).on (world, log)
      with ⟨failure | alarm, next, middle⟩ <;> exact id

end RemoteAlarms

namespace CommandLine

/-- Under a fixed physical name nothing but the id of the stack depends on the circumstances. -/
theorem Subject.prepared_congr {subject : Subject} {folder : Folder}
    (hname : ∀ definition, subject.described folder = .ok definition →
      definition.physicalName?.isSome) (left right : Circumstances) :
    ∃ stackId, subject.prepared right folder =
      (subject.prepared left folder).map fun (context, type) ↦
        ({ context with stackId }, type) := by
  rw [prepared, prepared]
  cases hdescribed : subject.described folder with
  | error causes => exact ⟨"", rfl⟩
  | ok definition =>
    obtain ⟨name, hfixed⟩ := Option.isSome_iff_exists.1 (hname definition hdescribed)
    have hcontext : Context.ofDefinition definition right.suffix right.stackId =
        { Context.ofDefinition definition left.suffix left.stackId with
          stackId := definition.stackId?.getD right.stackId } := by
      simp [Context.ofDefinition, hfixed]
    have hvalid (context : Context) (stackId : String) :
        Context.validate { context with stackId } = context.validate := rfl
    refine ⟨definition.stackId?.getD right.stackId, ?_⟩
    dsimp only
    rw [hcontext, hvalid]
    cases ResourceType.find definition.type with
    | error failure => rfl
    | ok type =>
      cases (Context.ofDefinition definition left.suffix left.stackId).validate <;> rfl

/-- The payload of a creation does not hold the id of the stack. -/
theorem createPayload_withStackId (type : ResourceType) (context : Context) (stackId : String) :
    type.createPayload { context with stackId } = type.createPayload context := by
  cases type <;> rfl

section Commands

variable {ν : Type} (send : Request → StateM ν (Option Response)) (verdict : Verdict)
  (circumstances : Circumstances) {config? endpoint? : Option String} {subject : Subject}
  (network : ν) {folder : Folder} {settings : Settings} {rules : RuleBook}

theorem on_answer_render :
    Run.on (Invocation.answer (.over (recording send) verdict circumstances)
        ⟨config?, endpoint?, .render subject⟩) ((network, []), folder) =
      ((subject.prepared circumstances folder).map fun (context, type) ↦
        .ofFields (type.createPayload context), (network, []), folder) :=
  on_render (recording send) verdict circumstances (network, []) folder subject

theorem on_answer_create
    (hopens : Invocation.opened ⟨config?, endpoint?, .create subject⟩ folder =
      .ok (settings, rules)) :
    Run.on (Invocation.answer (.over (recording send) verdict circumstances)
        ⟨config?, endpoint?, .create subject⟩) ((network, []), folder) =
      (create (.over (recording send) verdict circumstances)
        (.over (settings.remote.service (recording send)) settings.keeping verdict rules)
        subject).on ((network, []), folder) := by
  have hbind := Run.on_bind (openSession (.over (recording send) verdict circumstances)
    ⟨config?, endpoint?, .create subject⟩)
    (fun session ↦ create (.over (recording send) verdict circumstances) session subject)
    ((network, []), folder)
  rw [on_openSession, hopens] at hbind
  exact hbind

/-- The creation of a valid resource posts the document of its payload, whatever becomes of it. -/
theorem posted_answer_create
    (hopens : Invocation.opened ⟨config?, endpoint?, .create subject⟩ folder =
      .ok (settings, rules))
    (hsend : settings.remote.CanSend) {context : Context} {type : ResourceType}
    (hprepared : subject.prepared circumstances folder = .ok (context, type)) :
    Exchange.posted (Run.on (Invocation.answer (.over (recording send) verdict circumstances)
        ⟨config?, endpoint?, .create subject⟩) ((network, []), folder)).2.1.2 =
      [.ofFields (ofFlat (type.createPayload context) true)] := by
  have hposted := RemoteAlarms.posted_handle_create send (settings.keeping.store verdict) network []
    (rules, folder) context circumstances.now {} hsend type
  rw [on_answer_create send verdict circumstances network hopens, on_create, hprepared]
  dsimp only
  rw [on_perform]
  rw [RemoteAlarms.services] at hposted
  refine Eq.trans ?_ hposted
  rcases (LifecycleEvent.create.handle type (.join (settings.remote.service (recording send))
    (settings.keeping.store verdict)) context circumstances.now).on {}
      ((network, []), rules, folder) with ⟨_ | _, _, _, _, _⟩ <;> rfl

end Commands

/-- Under a fixed physical name, with services that open and requests that can be sent, whatever the
definition, the service and the files: a rendering touches nothing, it succeeds just when a creation
of the same definition posts something, and when it fails so does the creation, for the same causes
and before it has done anything.  What is rendered is the payload, and what is posted, once, is the
document that the client makes of it; they are the same just for a combination with a rule. -/
theorem rendering_against_creation {ν : Type} (send : Request → StateM ν (Option Response))
    (verdict : Verdict) (rendering creating : Circumstances) {config? endpoint? : Option String}
    {subject : Subject} (network : ν) {folder : Folder} {settings : Settings} {rules : RuleBook}
    (hopens : Invocation.opened ⟨config?, endpoint?, .create subject⟩ folder =
      .ok (settings, rules))
    (hsend : settings.remote.CanSend)
    (hname : ∀ definition, subject.described folder = .ok definition →
      definition.physicalName?.isSome) :
    let world : (ν × List Exchange) × Folder := ((network, []), folder)
    let rendered := Run.on (Invocation.answer (.over (recording send) verdict rendering)
      ⟨config?, endpoint?, .render subject⟩) world
    let created := Run.on (Invocation.answer (.over (recording send) verdict creating)
      ⟨config?, endpoint?, .create subject⟩) world
    let posted := Exchange.posted created.2.1.2
    rendered.2 = world ∧
    ((∃ body, rendered.1 = .ok body) ↔ posted ≠ []) ∧
    (∀ causes, rendered.1 = .error causes → created = (.error causes, world)) ∧
    ∀ body, rendered.1 = .ok body → ∃ context type,
      subject.prepared rendering folder = .ok (context, type) ∧
      body = .ofFields (type.createPayload context) ∧
      posted = [.ofFields (ofFlat (type.createPayload context) true)] ∧
      (posted = [body] ↔ type = .combination ∧ type.givesRule context = true) := by
  intro world rendered created posted
  have hrendered : rendered = _ := on_answer_render send verdict rendering network
  obtain ⟨stackId, hprepared⟩ := Subject.prepared_congr hname rendering creating
  cases hcommon : subject.prepared rendering folder with
  | error causes =>
    rw [hcommon] at hrendered hprepared
    have hcreated : created = (.error causes, world) := by
      refine (on_answer_create send verdict creating network hopens).trans ?_
      rw [on_create, hprepared]
      rfl
    have hnothing : posted = [] := congrArg (Exchange.posted ·.2.1.2) hcreated
    rw [hrendered, hnothing]
    refine ⟨rfl, iff_of_false nofun (fun hposted ↦ hposted rfl), ?_, nofun⟩
    rintro _ ⟨⟩
    exact hcreated
  | ok common =>
    obtain ⟨context, type⟩ := common
    rw [hcommon] at hrendered hprepared
    have hposted : posted = [.ofFields (ofFlat (type.createPayload context) true)] := by
      have hcreated := posted_answer_create send verdict creating network hopens hsend hprepared
      rw [createPayload_withStackId] at hcreated
      exact hcreated
    rw [hrendered, hposted]
    refine ⟨rfl, iff_of_true ⟨_, rfl⟩ nofun, nofun, ?_⟩
    rintro _ ⟨⟩
    refine ⟨context, type, rfl, rfl, rfl, ?_⟩
    rw [← type.ofFlat_createPayload_eq_iff, List.singleton_inj]
    exact ofFields_inj

/-- A combination of one alarm is sent as it is rendered. -/
theorem rendering_against_creation_of_combination :
    let value : Json := .ofEntries [("type", .string "OS::Ceilometer::CombinationAlarm"),
      ("name", .string "both"), ("physical_name", .string "own"),
      ("properties", .ofEntries [("alarm_ids", .array [.string "first"])])]
    let subject : Subject := ⟨"both.json", none⟩
    let folder : Folder := .ofList [("both.json", value.indented)]
    let send (_ : Request) : StateM Unit (Option Response) := pure (some ⟨503, ""⟩)
    let sound : Verdict := ⟨true, none, true, true⟩
    let rendered := Run.on (Invocation.answer (.over (recording send) sound ⟨"a", "first", ⟨0, 0⟩⟩)
      ⟨none, none, .render subject⟩) (((), []), folder)
    let posted := Exchange.posted (Run.on (Invocation.answer
      (.over (recording send) sound ⟨"b", "other", ⟨9, 0⟩⟩) ⟨none, none, .create subject⟩)
      (((), []), folder)).2.1.2
    Invocation.opened ⟨none, none, .create subject⟩ folder = .ok ({}, .empty) ∧
    ({} : Settings).remote.CanSend ∧
    (∀ definition, subject.described folder = .ok definition → definition.physicalName?.isSome) ∧
    ∃ body, rendered.1 = .ok body ∧ posted = [body] := by
  intro value subject folder send sound rendered posted
  have hopens : Invocation.opened ⟨none, none, .create subject⟩ folder = .ok ({}, .empty) := rfl
  have hsend : ({} : Settings).remote.CanSend := by decide +kernel
  let definition : Definition := ⟨"OS::Ceilometer::CombinationAlarm", "both", "stack", none,
    some "own", .ofList [("alarm_ids", .array [.string "first"])], .empty⟩
  have hexact : value.NumbersExact := by decide +kernel
  have hread : Definition.ofDocument? Document.maxDepth (.ofJson value) = some definition := by
    decide +kernel
  have hdescribed : subject.described folder = .ok definition :=
    Subject.described_of_file rfl hexact hread
  have hname : ∀ definition, subject.described folder = .ok definition →
      definition.physicalName?.isSome := by
    rw [hdescribed]
    rintro _ ⟨⟩
    rfl
  have hprepared : subject.prepared ⟨"a", "first", ⟨0, 0⟩⟩ folder =
      .ok (.ofDefinition definition "a" "first", .combination) := by
    rw [Subject.prepared, hdescribed]
    rfl
  have hrendered : rendered.1 = .ok (.ofFields (ResourceType.combination.createPayload
      (.ofDefinition definition "a" "first"))) := by
    have hstep : rendered = _ := on_answer_render send sound ⟨"a", "first", ⟨0, 0⟩⟩ ()
    rw [hstep, hprepared]
    rfl
  obtain ⟨-, -, -, hshown⟩ := rendering_against_creation send sound ⟨"a", "first", ⟨0, 0⟩⟩
    ⟨"b", "other", ⟨9, 0⟩⟩ () hopens hsend hname
  obtain ⟨context, type, hcommon, -, -, hsame⟩ := hshown _ hrendered
  rw [hprepared, Except.ok.injEq, Prod.mk.injEq] at hcommon
  obtain ⟨rfl, rfl⟩ := hcommon
  have hgives :
      ResourceType.combination.givesRule (.ofDefinition definition "a" "first") = true := by
    decide +kernel
  have hposted := hsame.2 ⟨rfl, hgives⟩
  exact ⟨hopens, hsend, hname, _, hrendered, hposted⟩

/-- An alarm on one meter is rendered flat, and its document is posted with a type and a rule. -/
theorem rendering_differs_of_threshold :
    let value : Json := .ofEntries [("type", .string "OS::Ceilometer::Alarm"),
      ("name", .string "cpu"), ("physical_name", .string "own"),
      ("properties", .ofEntries [("meter_name", .string "cpu_util"),
        ("threshold", .number (.int 70))])]
    let subject : Subject := ⟨"cpu.json", none⟩
    let folder : Folder := .ofList [("cpu.json", value.indented)]
    let send (_ : Request) : StateM Unit (Option Response) := pure (some ⟨503, ""⟩)
    let sound : Verdict := ⟨true, none, true, true⟩
    let rendered := Run.on (Invocation.answer (.over (recording send) sound ⟨"a", "first", ⟨0, 0⟩⟩)
      ⟨none, none, .render subject⟩) (((), []), folder)
    let posted := Exchange.posted (Run.on (Invocation.answer
      (.over (recording send) sound ⟨"b", "other", ⟨9, 0⟩⟩) ⟨none, none, .create subject⟩)
      (((), []), folder)).2.1.2
    let shared : List (String × Json) :=
      [("enabled", .bool true), ("name", .string "own"), ("repeat_actions", .bool true)]
    let body : Json := .ofEntries (shared ++ [("matching_metadata", .object []),
      ("meter_name", .string "cpu_util"), ("threshold", .number (.int 70))])
    let document : Json := .ofEntries (shared ++ [("type", .string "threshold"),
      ("threshold_rule", .ofEntries [("meter_name", .string "cpu_util"), ("query", .array []),
        ("threshold", .number (.int 70))])])
    rendered.1 = .ok body ∧ posted = [document] ∧ document ≠ body := by
  intro value subject folder send sound rendered posted shared body document
  let definition : Definition := ⟨"OS::Ceilometer::Alarm", "cpu", "stack", none, some "own",
    .ofList [("meter_name", .string "cpu_util"), ("threshold", .number (.int 70))], .empty⟩
  have hexact : value.NumbersExact := by decide +kernel
  have hread : Definition.ofDocument? Document.maxDepth (.ofJson value) = some definition := by
    decide +kernel
  have hdescribed : subject.described folder = .ok definition :=
    Subject.described_of_file rfl hexact hread
  have hprepared (circumstances : Circumstances) : subject.prepared circumstances folder =
      .ok (.ofDefinition definition circumstances.suffix circumstances.stackId, .threshold) := by
    rw [Subject.prepared, hdescribed]
    rfl
  have hopens : Invocation.opened ⟨none, none, .create subject⟩ folder = .ok ({}, .empty) := rfl
  have hsend : ({} : Settings).remote.CanSend := by decide +kernel
  have hbody : Json.ofFields (ResourceType.threshold.createPayload
      (.ofDefinition definition "a" "first")) = body := by
    decide +kernel
  have hdocument : Json.ofFields (ofFlat (ResourceType.threshold.createPayload
      (.ofDefinition definition "b" "other")) true) = document := by
    decide +kernel
  refine ⟨?_, ?_, by decide +kernel⟩
  · have hstep : rendered = _ := on_answer_render send sound ⟨"a", "first", ⟨0, 0⟩⟩ ()
    rw [hstep, hprepared, ← hbody]
    rfl
  · have hposted := posted_answer_create send sound ⟨"b", "other", ⟨9, 0⟩⟩ () hopens hsend
      (hprepared _)
    rw [hdocument] at hposted
    exact hposted

end CommandLine

end MeteringAlarms
