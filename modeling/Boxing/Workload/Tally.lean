import Boxing.Arena.Basic
import Boxing.Workload.Basic
import Boxing.Workload.KeyStream

/-!
# Boxing a workload

`Workload.ofSeed` gives the numbers of a workload for a seed. `Tally.run` boxes numbers one after
another in one arena, keeps none of the references, and tallies what it reads back.
-/

set_option autoImplicit false

namespace Boxing

/-- The first `len` numbers of a workload, from the word stream of a seed. -/
def Workload.ofSeed (w : Workload) (len : Nat) (seed : UInt64) : List Binary64 :=
  (w.numbers KeyStream.next len (KeyStream.ofSeed seed)).1

structure Tally where
  /-- The numbers read back, added from left to right. -/
  sum : Binary64
  /-- How many of them were preloaded. -/
  hits : Nat
  deriving DecidableEq, Repr

namespace Tally

def start : Tally := ⟨.zero, 0⟩

def note (t : Tally) (r : NumberRef) : StoreM Tally := do
  let n ← r.get (← EStateM.get)
  return ⟨t.sum.add n, if r.isCanonical then t.hits + 1 else t.hits⟩

/-- Boxes the numbers in order; an error of the arena ends the run. -/
def run (table : PreloadTable) (memory : Memory) :
    List Binary64 → Arena → Tally → StoreM (Except ArenaError (Tally × Arena))
  | [], a, t => return .ok (t, a)
  | n :: rest, a, t => do
    match ← a.box table memory n with
    | (.error e, _) => return .error e
    | (.ok r, a) => run table memory rest a (← t.note r)

/-- Boxes the numbers in a new arena. -/
def runNew (table : PreloadTable) (memory : Memory) (config : ArenaConfig)
    (numbers : List Binary64) : StoreM (Except ArenaError (Tally × Arena)) := do
  match ← Arena.withConfig memory config with
  | .error e => return .error e
  | .ok a => run table memory numbers a start

end Tally

end Boxing
