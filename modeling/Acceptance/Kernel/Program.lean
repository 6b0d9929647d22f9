import Acceptance.Kernel.Call

namespace Acceptance.Kernel

open Text (Bytes)

-- Programs that give a value: functions from what is to be done with the value to the whole
-- process.

def Program (α : Type) : Type := (α → Process) → Process

namespace Program

instance : Monad Program where
  pure value := fun next => next value
  bind program then_ := fun next => program fun value => then_ value next

def call (call : Call) : Program call.Answer := fun next => .call call next

def process (program : Program Nat) : Process := program .exit

def fork (child : Program Nat) : Program Nat := fun next => .fork child.process next

end Program

inductive Turn (σ β : Type) where
  | again (state : σ)
  | finished (result : β)

-- Rounds of a loop in any monad, at most `fuel` of them; then `surrender` gives the result.
@[specialize]
def rounds {m : Type → Type} [Monad m] {σ β : Type} (surrender : σ → β)
    (step : σ → m (Turn σ β)) : Nat → σ → m β
  | 0, state => pure (surrender state)
  | fuel + 1, state => do
      match ← step state with
      | .again state => rounds surrender step fuel state
      | .finished result => pure result

def endless : Nat := 1000000000000

end Acceptance.Kernel
