import MeteringAlarms.Proofs.Data.OrderedMap
import MeteringAlarms.Rule.Basic

/-!
# The cases of the rule store in memory

A name is taken or free, and that decides what each operation of a `RuleBook` answers and does.
`RuleBook.All` says of all its rules what may be said of one.
-/

namespace MeteringAlarms.RuleBook

variable (rule : WatchRule) (name : String) (rules : RuleBook)

theorem create_cases :
    rules.get? rule.name = none ∧
      RuleBook.create rule rules = (.ok (), rules.insert rule.name rule) ∨
    (rules.get? rule.name).isSome ∧
      RuleBook.create rule rules = (.error (.ruleExists rule.name), rules) := by
  cases h : rules.get? rule.name with
  | none => exact Or.inl ⟨rfl, by simp [RuleBook.create, OrderedMap.contains_eq_isSome, h]⟩
  | some old => exact Or.inr ⟨rfl, by simp [RuleBook.create, OrderedMap.contains_eq_isSome, h]⟩

theorem destroy_cases :
    rules.get? name = none ∧
      RuleBook.destroy name rules = (.error (.ruleMissing name), rules) ∨
    (rules.get? name).isSome ∧ RuleBook.destroy name rules = (.ok (), rules.erase name) := by
  cases h : rules.get? name with
  | none => exact Or.inl ⟨rfl, by simp [RuleBook.destroy, OrderedMap.contains_eq_isSome, h]⟩
  | some old => exact Or.inr ⟨rfl, by simp [RuleBook.destroy, OrderedMap.contains_eq_isSome, h]⟩

theorem create_of_none {rule : WatchRule} {rules : RuleBook} (h : rules.get? rule.name = none) :
    RuleBook.create rule rules = (.ok (), rules.insert rule.name rule) := by
  rcases create_cases rule rules with ⟨_, hstep⟩ | ⟨htaken, _⟩
  · exact hstep
  · rw [h] at htaken
    cases htaken

theorem destroy_of_some {name : String} {rules : RuleBook} {rule : WatchRule}
    (h : rules.get? name = some rule) :
    RuleBook.destroy name rules = (.ok (), rules.erase name) := by
  rcases destroy_cases name rules with ⟨hfree, _⟩ | ⟨_, hstep⟩
  · rw [h] at hfree
    cases hfree
  · exact hstep

theorem load_of_none {name : String} {rules : RuleBook} (h : rules.get? name = none) :
    RuleBook.load name rules = (.error (.ruleMissing name), rules) := by
  rw [RuleBook.load, h]

theorem load_of_some {name : String} {rules : RuleBook} {rule : WatchRule}
    (h : rules.get? name = some rule) : RuleBook.load name rules = (.ok rule, rules) := by
  rw [RuleBook.load, h]

/-- All rules are `Sound`. -/
def All (Sound : WatchRule → Prop) (rules : RuleBook) : Prop :=
  ∀ entry ∈ rules.entries, Sound entry.2

instance (Sound : WatchRule → Prop) [DecidablePred Sound] : DecidablePred (All Sound) := fun rules ↦
  inferInstanceAs (Decidable (∀ entry ∈ rules.entries, Sound entry.2))

theorem all_iff {Sound : WatchRule → Prop} {rules : RuleBook} :
    rules.All Sound ↔ ∀ name rule, rules.get? name = some rule → Sound rule := by
  constructor
  · intro h name rule hrule
    exact h _ (OrderedMap.get?_eq_some_iff.1 hrule)
  · rintro h ⟨name, rule⟩ hentry
    exact h name rule (OrderedMap.get?_eq_some_iff.2 hentry)

end MeteringAlarms.RuleBook
