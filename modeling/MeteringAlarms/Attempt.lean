import MeteringAlarms.Failure

/-!
# Operations that may fail

Services are records of operations in a monad of their own choice, and an operation that fails keeps
the effects it had until then. In a state monad such an operation is a step from a state to an
outcome and a state; `Attempt.ofStep` takes it in that form.
-/

namespace MeteringAlarms

abbrev Attempt (m : Type → Type) := ExceptT Failure m

namespace Attempt

variable {m n : Type → Type} {σ ω α : Type}

def ofStep (step : σ → Except Failure α × σ) : Attempt (StateM σ) α :=
  ExceptT.mk (m := StateM σ) step

def ofExcept [Monad m] (outcome : Except Failure α) : Attempt m α :=
  ExceptT.mk (pure outcome)

/-- The outcome of an operation as a value, so that what follows can react to a failure. -/
def outcome [Monad m] (attempt : Attempt m α) : Attempt m (Except Failure α) :=
  ExceptT.mk (Except.ok <$> attempt.run)

/-- The same operation in another monad. -/
def hoist (f : {β : Type} → m β → n β) (attempt : Attempt m α) : Attempt n α :=
  ExceptT.mk (f attempt.run)

end Attempt

/-- Runs a computation on a part of the state. -/
def StateM.focus {σ ω α : Type} (get : ω → σ) (set : σ → ω → ω) (action : StateM σ α) :
    StateM ω α :=
  fun whole ↦
    let (value, part) := action.run (get whole)
    (value, set part whole)

end MeteringAlarms
