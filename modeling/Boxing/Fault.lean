/-!
# What can go wrong

An `ArenaError` is an answer: an arena could not be made or could not grow, and the caller goes on.
A `Fault` ends the call: a caller broke a rule (it read a slot that holds nothing, or asked for an
arena of an impossible size), or an inner rule failed. Arithmetic on machine words is checked
(`Checked.add`, `Checked.sub`, `Checked.mul`), so that a result which does not fit is a fault.
-/

set_option autoImplicit false

namespace Boxing

/-- Why an arena could not be made or could not grow. -/
inductive ArenaError where
  | resourceExhausted (requestedBytes : Nat)
  | invalidConfig (reason : String)
  deriving DecidableEq, Repr

/-- The sentence that reports an arena error. -/
def ArenaError.message : ArenaError → String
  | .resourceExhausted requestedBytes =>
    "resource exhausted: could not allocate a " ++ toString requestedBytes ++ " byte page"
  | .invalidConfig reason => "invalid arena config: " ++ reason

/-- The error that brought an arena error about. Arena errors are the first of their chain. -/
def ArenaError.cause? (_ : ArenaError) : Option ArenaError := none

/-- The checked operations on words. -/
inductive WordOp where
  | add | sub | mul
  deriving DecidableEq, Repr

def WordOp.verb : WordOp → String
  | .add => "add"
  | .sub => "subtract"
  | .mul => "multiply"

/-- A failure that ends a call. -/
inductive Fault where
  /-- A slot was read that had not been handed out. -/
  | unwrittenSlot (slot : Nat)
  /-- A position lies outside an array of `size` elements. -/
  | outOfBounds (size index : Nat)
  /-- The result of an operation does not fit in a word. -/
  | overflow (op : WordOp)
  /-- An arena answered an error to a caller that cannot go on without it. -/
  | arena (error : ArenaError)
  | unfilledPage
  /-- Every page that replaced a full one was itself full. -/
  | noProgress
  deriving DecidableEq, Repr

/-- The sentence that reports a fault. -/
def Fault.message : Fault → String
  | .unwrittenSlot slot => "read of unwritten slot " ++ toString slot
  | .outOfBounds size index =>
    "index out of bounds: the len is " ++ toString size ++ " but the index is " ++ toString index
  | .overflow op => "attempt to " ++ op.verb ++ " with overflow"
  | .arena error => error.message
  | .unfilledPage => "a page of preloaded numbers has room left"
  | .noProgress => "no page has room"

/-- A check that may fail is an action that leaves the state as it is. -/
instance {σ : Type} : MonadLift (Except Fault) (EStateM Fault σ) where
  monadLift x := fun s =>
    match x with
    | .ok a => .ok a s
    | .error f => .error f s

/-! ## Words -/

namespace Checked

/-- The sum of two words of which there are `size`. -/
def add (size a b : Nat) : Except Fault Nat :=
  if a + b < size then .ok (a + b) else .error (.overflow .add)

def sub (a b : Nat) : Except Fault Nat :=
  if b ≤ a then .ok (a - b) else .error (.overflow .sub)

def mul (size a b : Nat) : Except Fault Nat :=
  if a * b < size then .ok (a * b) else .error (.overflow .mul)

theorem add_eq_ok {size a b : Nat} (h : a + b < size) : add size a b = .ok (a + b) := if_pos h

theorem add_eq_error {size a b : Nat} (h : ¬ a + b < size) :
    add size a b = .error (.overflow .add) := if_neg h

theorem sub_eq_ok {a b : Nat} (h : b ≤ a) : sub a b = .ok (a - b) := if_pos h

theorem mul_eq_ok {size a b : Nat} (h : a * b < size) : mul size a b = .ok (a * b) := if_pos h

end Checked

end Boxing
