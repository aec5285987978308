import Boxing.Binary64.Round

/-!
# Workloads

A workload is a rule that makes numbers from random words. Small integers are drawn from the
preloaded range; fractional numbers are half steps `k + 0.5` with `k` below `2 ^ 20`, which lie
between the integers; a mixed workload takes one or the other by the first of two words. Each
number of a workload uses a fixed number of words, whichever way it is made.

The words come from any source (`next`), so that statements about workloads assume nothing of it.
-/

set_option autoImplicit false

namespace Boxing

inductive Workload where
  /-- Integers from `-128` to `255`. -/
  | smallIntegers
  | fractional
  /-- Integers from `0` to `255` in `hitPercent` out of a hundred cases, else half steps. -/
  | mixed (hitPercent : UInt32)
  deriving DecidableEq, Repr

namespace Workload

/-- The integer from `-128` to `255` that a word stands for. -/
def smallInteger (word : UInt32) : Binary64 :=
  (Binary64.ofNat (word % 384).toNat).add (Binary64.ofInt (-128))

/-- The integer from `0` to `255` that a word stands for. -/
def byte (word : UInt32) : Binary64 := Binary64.ofNat (word % 256).toNat

/-- The half step whose integral part is the twenty high bits of a word. -/
def halfStep (word : UInt32) : Binary64 := (Binary64.ofNat (word >>> 12).toNat).add Binary64.half

section
variable {σ : Type} (next : StateM σ UInt32)

def draw : Workload → StateM σ Binary64
  | smallIntegers => return smallInteger (← next)
  | fractional => return halfStep (← next)
  | mixed hitPercent => do
    if (← next) % 100 < hitPercent then return byte (← next) else return halfStep (← next)

def numbers (w : Workload) : Nat → StateM σ (List Binary64)
  | 0 => return []
  | len + 1 => do
    let n ← w.draw next
    let rest ← numbers w len
    return n :: rest

end

end Workload

end Boxing
