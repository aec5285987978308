import Boxing.Arena.Basic

/-!
# What can be seen of pages, arenas and numbers

Reports gather what the observations of one object answer at one moment. They read the store and
change nothing.
-/

set_option autoImplicit false

namespace Boxing

structure PageState where
  len : Nat
  capacity : Nat
  remaining : Nat
  isEmpty : Bool
  isFull : Bool
  deriving DecidableEq, Repr

structure ArenaState where
  stats : ArenaStats
  capacity : Nat
  len : Nat
  remaining : Nat
  deriving DecidableEq, Repr

structure NumberState where
  number : Binary64
  slot : Nat
  canonical : Bool
  deriving DecidableEq, Repr

def Page.state (p : Page) : Except Fault PageState := do
  return ⟨p.len, p.capacity, ← p.remaining, p.isEmpty, ← p.isFull⟩

def Arena.state (a : Arena) (s : Store) : Except Fault ArenaState := do
  return ⟨a.stats s, a.pageCapacity, a.currentPageLen s, ← a.currentPageRemaining s⟩

def NumberRef.state (r : NumberRef) (s : Store) : Except Fault NumberState := do
  return ⟨← r.get s, r.slot, r.isCanonical⟩

/-- What a value shows if it is a number. -/
def Value.state? (v : Value) (s : Store) : Except Fault (Option NumberState) :=
  match v.ref? with
  | some r => return some (← r.state s)
  | none => return none

/-- A preloaded number: what it shows, and its position in each half of the table. -/
structure Hit where
  state : NumberState
  nonNegative : Option Nat
  negative : Option Nat
  deriving DecidableEq, Repr

namespace PreloadTable

/-- What a reference into the table shows. -/
def hit (t : PreloadTable) (s : Store) (r : NumberRef) : Except Fault Hit := do
  return ⟨← r.state s, t.index? .nonNegative r, t.index? .negative r⟩

/-- What looking a number up shows; nothing if it has no entry. -/
def hit? (t : PreloadTable) (s : Store) (n : Binary64) : Except Fault (Option Hit) := do
  match ← t.get? n with
  | some r => return some (← t.hit s r)
  | none => return none

/-- The entries of a half from one position up to another, as far as there are any. -/
def rows (t : PreloadTable) (s : Store) (h : Half) (start stop : Nat) :
    Except Fault (List Hit) :=
  ((t.half h).extract start stop).toList.mapM (t.hit s)

end PreloadTable

end Boxing
