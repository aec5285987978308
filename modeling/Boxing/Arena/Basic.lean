import Boxing.Arena.Config
import Boxing.Value.Preload

/-!
# Arenas

An arena pushes numbers onto its current page. A number that finds the page full makes the arena
roll over: a new page of the same capacity takes the old one's place, and the number goes there.
If the memory for that page is refused the arena stays as it is, and a page that is spent is never
left. The old page lives on through the references into it.

`Arena.new` and `Arena.withConfig` make an arena, the one ending in a fault where the other answers
an error. `Arena.allocate` always takes a slot; `Arena.box` first looks the number up among the
preloaded integers and then leaves the arena alone. A request that ends in a fault leaves the arena
as far as it got (`Arena.Broken`).
-/

set_option autoImplicit false

namespace Boxing

structure Arena where
  config : ArenaConfig
  /-- The page that takes the next number. -/
  current : PageId
  pagesAllocated : Nat
  slotsAllocated : Nat
  deriving DecidableEq, Repr

namespace Arena

/-! ## Construction -/

/-- The arena that starts on an empty page. -/
def ofFirstPage (config : ArenaConfig) (first : Page) : StoreM Arena := do
  let id ← Store.add first
  return ⟨config, id, 1, 0⟩

/-- An arena with pages of the given capacity; a capacity that is not valid is a fault. -/
def new (pageCapacity : Nat) : StoreM Arena := do
  let config : ArenaConfig := ⟨pageCapacity⟩
  match config.validate with
  | .error e => throw (.arena e)
  | .ok () => ofFirstPage config (Page.new (UInt32.ofNat pageCapacity))

def standard : StoreM Arena := new ArenaConfig.standard.pageCapacity

/-- An arena with a configuration that may be rejected, on a page that may be refused. -/
def withConfig (memory : Memory) (config : ArenaConfig) : StoreM (Except ArenaError Arena) := do
  match config.validate with
  | .error e => return .error e
  | .ok () =>
    match Page.tryNew memory (UInt32.ofNat config.pageCapacity) with
    | none => return .error (.resourceExhausted (← config.pageBytes))
    | some first => return .ok (← ofFirstPage config first)

/-! ## Observation -/

def pageCapacity (a : Arena) : Nat := a.config.pageCapacity

def currentPageLen (a : Arena) (s : Store) : Nat := (s.page a.current).len

def currentPageRemaining (a : Arena) (s : Store) : Except Fault Nat := (s.page a.current).remaining

def stats (a : Arena) (s : Store) : ArenaStats :=
  ⟨a.pagesAllocated, a.slotsAllocated, a.currentPageLen s, a.pageCapacity⟩

/-! ## Requests -/

/-- A request that ended in a fault, with the arena as it was then. -/
structure Broken where
  fault : Fault
  arena : Arena
  deriving DecidableEq, Repr

end Arena

/-- A request to an arena. -/
abbrev ArenaM := EStateM Arena.Broken Store

/-- For a caller that cannot go on after a fault, it does not matter what becomes of the arena. -/
instance : MonadLift ArenaM StoreM where
  monadLift act := fun s =>
    match act s with
    | .ok a s => .ok a s
    | .error b s => .error b.fault s

namespace Arena

/-- What the arena `a` does in the store. If it ends in a fault, the arena stays as it is. -/
def within {α : Type} (a : Arena) (act : StoreM α) : ArenaM α := fun s =>
  match act s with
  | .ok x s => .ok x s
  | .error f s => .error ⟨f, a⟩ s

/-! ## Allocation -/

/-- One attempt to take a slot of the current page. -/
def attempt (n : Binary64) (a : Arena) : ArenaM (Option (NumberRef × Arena)) := do
  match ← a.within (NumberRef.alloc ⟨a.current, .counted⟩ n) with
  | none => return none
  | some r =>
    let slots ← a.within (Checked.add UInt64.size a.slotsAllocated 1)
    return some (r, { a with slotsAllocated := slots })

/-- Puts an empty page of the same capacity in the place of the current one. -/
def rollover (memory : Memory) (a : Arena) : ArenaM (Except ArenaError Arena) := do
  let capacity := UInt32.ofNat ((← EStateM.get).page a.current).capacity
  match Page.tryNew memory capacity with
  | none => return .error (.resourceExhausted (← a.within a.config.pageBytes))
  | some page =>
    let id ← a.within (Store.add page)
    -- the page is in its place before it is counted
    let a := { a with current := id }
    let pages ← a.within (Checked.add UInt64.size a.pagesAllocated 1)
    return .ok { a with pagesAllocated := pages }

/-- Takes a slot in at most `attempts` attempts; each that finds the page full rolls over. -/
def allocateWithin (memory : Memory) (n : Binary64) :
    Nat → Arena → ArenaM (Except ArenaError NumberRef × Arena)
  | 0, a => throw ⟨.noProgress, a⟩
  | attempts + 1, a => do
    match ← a.attempt n with
    | some (r, a) => return (.ok r, a)
    | none =>
      match ← a.rollover memory with
      | .error e => return (.error e, a)
      | .ok a => allocateWithin memory n attempts a

/-- Writes `n` into a slot of its own. The second attempt finds an empty page, so two are enough. -/
def allocate (memory : Memory) (n : Binary64) (a : Arena) :
    ArenaM (Except ArenaError NumberRef × Arena) :=
  allocateWithin memory n 2 a

/-- The preloaded reference for `n` if there is one, else a slot of its own. -/
def box (table : PreloadTable) (memory : Memory) (n : Binary64) (a : Arena) :
    ArenaM (Except ArenaError NumberRef × Arena) := do
  match ← a.within (table.get? n) with
  | some r => return (.ok r, a)
  | none => a.allocate memory n

end Arena

end Boxing
