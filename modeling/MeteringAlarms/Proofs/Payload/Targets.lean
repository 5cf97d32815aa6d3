import MeteringAlarms.Proofs.Payload.Actions

/-!
# Targets of actions

Of an action list the entries that name a resource stay and so do the other truthy ones, and each
becomes one target, in the order of the list: the webhook of the resource, or the entry itself.  The
webhook is taken as it is, null if the resource has none.  So a list of targets is usable throughout
just when every resource that the actions name has a truthy webhook.
-/

namespace MeteringAlarms.Actions

open PropertyName

variable (resources : StackResources)

/-- The attributes of the resource that an action names. -/
def named? (action : Json) : Option Fields :=
  action.string?.bind resources.get?

/-- The action names a resource, or it is a literal target. -/
def isKept (action : Json) : Bool :=
  (named? resources action).isSome || action.truthy

/-- The webhook of a resource with the given attributes. -/
def webhookOf (attributes : Fields) : Json :=
  (attributes.get? "AlarmUrl").getD .null

/-- What an action that is kept becomes. -/
def targetOf (action : Json) : Json :=
  ((named? resources action).map webhookOf).getD action

theorem target?_eq (action : Json) :
    target? resources action =
      if isKept resources action then some (targetOf resources action) else none := by
  have hwebhook : (action.string?.bind fun name ↦ resources.attribute? name webhookAttribute) =
      (named? resources action).map webhookOf := by
    rw [named?]
    cases action.string? <;> rfl
  rw [target?, hwebhook, isKept, targetOf]
  cases named? resources action <;> rfl

theorem resolveList_eq (actions : List Json) :
    resolveList resources actions =
      (actions.filter (isKept resources)).map (targetOf resources) := by
  rw [resolveList]
  induction actions with
  | nil => rfl
  | cons action actions ih =>
    rw [List.filterMap_cons, List.filter_cons, target?_eq, ih]
    cases isKept resources action <;> rfl

theorem length_resolveList (actions : List Json) :
    (resolveList resources actions).length =
      actions.countP (fun action ↦ (named? resources action).isSome) +
        actions.countP fun action ↦ (named? resources action).isNone && action.truthy := by
  rw [resolveList_eq, List.length_map, ← List.countP_eq_length_filter]
  induction actions with
  | nil => rfl
  | cons action actions ih =>
    rw [List.countP_cons, List.countP_cons, List.countP_cons, ih, isKept]
    cases named? resources action with
    | none =>
      simp only [Option.isSome_none, Option.isNone_none, Bool.false_or, Bool.true_and,
        Bool.false_eq_true, if_false]
      omega
    | some attributes =>
      simp only [Option.isSome_some, Option.isNone_some, Bool.true_or, Bool.false_and,
        Bool.false_eq_true, if_true, if_false]
      omega

/-- A literal target is truthy, so it is up to the webhooks whether all targets are. -/
theorem truthy_resolveList_iff (actions : List Json) :
    (∀ target ∈ resolveList resources actions, target.truthy = true) ↔
      ∀ action ∈ actions, ∀ attributes ∈ named? resources action,
        (webhookOf attributes).truthy = true := by
  rw [resolveList_eq, List.forall_mem_map]
  refine forall_congr' fun action ↦ ?_
  rw [List.mem_filter, and_imp]
  refine imp_congr_right fun _ ↦ ?_
  rw [isKept, targetOf]
  cases named? resources action <;> simp

/-- In every action list the actions that name a resource and the other truthy ones are replaced by
their targets, in order.  All targets are truthy just when the webhooks of all named resources are.
Other properties, and what is no list, stay as they are. -/
theorem resolve_replaces_actions (properties : Fields) :
    (∀ name ∈ actionLists, ∀ actions, properties.get? name = some (.array actions) →
      ∃ targets, (resolve resources properties).get? name = some (.array targets) ∧
        targets = (actions.filter (isKept resources)).map (targetOf resources) ∧
        targets.length = actions.countP (fun action ↦ (named? resources action).isSome) +
          actions.countP (fun action ↦ (named? resources action).isNone && action.truthy) ∧
        ((∀ target ∈ targets, target.truthy = true) ↔
          ∀ action ∈ actions, ∀ attributes ∈ named? resources action,
            (webhookOf attributes).truthy = true)) ∧
    ∀ name, (name ∈ actionLists → ∀ actions, properties.get? name ≠ some (.array actions)) →
      (resolve resources properties).get? name = properties.get? name := by
  constructor
  · intro name hname actions hactions
    refine ⟨resolveList resources actions, ?_, resolveList_eq resources actions,
      length_resolveList resources actions, truthy_resolveList_iff resources actions⟩
    rw [get?_resolve, hactions, Option.map_some, resolveValue, if_pos (by simpa using hname)]
  · intro name hother
    rw [get?_resolve]
    cases hvalue : properties.get? name with
    | none => rfl
    | some value =>
      rw [Option.map_some]
      congr 1
      by_cases hname : name ∈ actionLists
      · cases value with
        | array actions => exact absurd hvalue (hother hname actions)
        | _ => rfl
      · exact resolveValue_of_notMem resources hname value

/-- A resource with a webhook, an empty entry and a literal target. -/
theorem resolve_replaces_actions_of_resource_and_literal :
    let resources : StackResources :=
      .ofList [("Up", .ofList [("AlarmUrl", .string "http://hooks/up")])]
    let actions : List Json := [.string "Up", .string "", .string "http://hook"]
    let properties : Fields :=
      .ofList [("alarm_actions", .array actions), ("alarm_ids", .array actions)]
    "alarm_actions" ∈ actionLists ∧ "alarm_ids" ∉ actionLists ∧
    properties.get? "alarm_actions" = some (.array actions) ∧
    (∃ targets, (resolve resources properties).get? "alarm_actions" = some (.array targets) ∧
      targets = [.string "http://hooks/up", .string "http://hook"] ∧
      ∀ target ∈ targets, target.truthy = true) ∧
    (resolve resources properties).get? "alarm_ids" = some (.array actions) := by
  intro resources actions properties
  have hactions : properties.get? "alarm_actions" = some (.array actions) := by decide +kernel
  have hids : properties.get? "alarm_ids" = some (.array actions) := by decide +kernel
  have hkept : (actions.filter (isKept resources)).map (targetOf resources) =
      [.string "http://hooks/up", .string "http://hook"] := by decide +kernel
  obtain ⟨hlists, hothers⟩ := resolve_replaces_actions resources properties
  obtain ⟨targets, htargets, hlist, -, htruthy⟩ :=
    hlists "alarm_actions" (by decide) actions hactions
  have hother := hothers "alarm_ids" fun hname ↦ absurd hname (by decide)
  refine ⟨by decide, by decide, hactions, ⟨targets, htargets, hlist.trans hkept, ?_⟩,
    hother.trans hids⟩
  exact htruthy.2 (by decide +kernel)

/-- Of two resources that are named one has no webhook and one has an empty one, and both become
targets that are of no use. -/
theorem falsy_targets_of_named_resources :
    let resources : StackResources :=
      .ofList [("Bare", .empty), ("Blank", .ofList [("AlarmUrl", .string "")])]
    let properties : Fields :=
      .ofList [("alarm_actions", .array [.string "Bare", .string "Blank"])]
    "alarm_actions" ∈ actionLists ∧ ∃ targets,
      (resolve resources properties).get? "alarm_actions" = some (.array targets) ∧
      targets = [.null, .string ""] ∧ ¬∀ target ∈ targets, target.truthy = true :=
  ⟨by decide, _, rfl, rfl, by decide⟩

end MeteringAlarms.Actions
