import Boxing.Arena.History

/-!
# The world of a program

A `World` holds everything that a program can refer to: the store of pages, the table of preloaded
integers, and registers of arenas, values, pages and snapshots. A register is numbered when it is
made and keeps its number; it is empty if the call that made it failed or if its content was
dropped.

A `Call` is one use of the library on registers, `Call.perform` carries it out, and `World.run`
carries out any sequence of calls, each under its own memory. A failed call leaves its new
register empty, and the program goes on.
-/

set_option autoImplicit false

namespace Boxing

/-- The register that a call names and that holds nothing. -/
inductive Handle where
  | arena | value | first | second | page | outlined | snapshot
  deriving DecidableEq, Repr

/-- Why a call has no result. -/
inductive Failure where
  | missing (handle : Handle)
  | noEntry
  | noRoom
  | arena (error : ArenaError)
  | refused
  | fault (f : Fault)
  deriving DecidableEq, Repr

/-- Numbered places, some of them empty. -/
abbrev Registers (α : Type) := Array (Option α)

def Registers.content? {α : Type} (r : Registers α) (i : Nat) : Option α := r[i]?.join

def Registers.clear {α : Type} (r : Registers α) (i : Nat) : Registers α := r.setIfInBounds i none

/-- Everything that a program can refer to. -/
structure World where
  store : Store
  table : PreloadTable
  arenas : Registers Arena
  values : Registers Value
  pages : Registers PageRef
  snapshots : Registers ArenaStats

abbrev WorldM := EStateM Failure World

/-- One use of the library. -/
inductive Call where
  /-- A new arena; a capacity that is not valid breaks the call off. -/
  | newArena (pageCapacity : Nat)
  /-- A new arena, or the reason why there is none. -/
  | configureArena (pageCapacity : Nat)
  | standardArena
  | mint (arena : Nat) (mode : Mode) (n : Binary64)
  /-- A preloaded number. -/
  | lookup (n : Binary64)
  | absent
  | truth (b : Bool)
  | copy (value : Nat)
  | newPage (lifetime : Lifetime) (capacity : UInt32)
  /-- A new page in memory that may be refused. -/
  | requestPage (capacity : UInt32)
  /-- A number onto a page, without a value for it. -/
  | push (page : Nat) (n : Binary64)
  /-- A number onto a page, and a value for it. -/
  | number (page : Nat) (n : Binary64)
  | read (page slot : Nat)
  | snapshot (arena : Nat)
  /-- The size of a page in bytes under a configuration. -/
  | pageBytes (pageCapacity : Nat)
  | dropArena (arena : Nat)
  | dropValue (value : Nat)
  | dropPage (page : Nat)
  deriving DecidableEq, Repr

/-- What a call answers: a register that it filled or copied from, or what it found. -/
inductive Outcome where
  | arena (register : Nat)
  | value (register : Nat)
  | page (register : Nat)
  | snapshot (arena : Nat)
  /-- The slot of the page in this register that was taken, if it had room. -/
  | slot (page : Nat) (slot : Option Nat)
  | number (n : Binary64)
  | bytes (n : Nat)
  | dropped
  deriving DecidableEq, Repr

namespace World

/-- The world around a table that was built in an empty store: there are no registers. -/
def ofBuilt : EStateM.Result Fault Store PreloadTable → Except Fault World
  | .ok table store => .ok ⟨store, table, #[], #[], #[], #[]⟩
  | .error f _ => .error f

def start : Except Fault World := ofBuilt (PreloadTable.build Store.empty)

/-- An action on the store. -/
def onStore {α : Type} (act : StoreM α) : WorldM α :=
  fun ⟨store, table, arenas, values, pages, snapshots⟩ =>
    match act store with
    | .ok a store => .ok a ⟨store, table, arenas, values, pages, snapshots⟩
    | .error f store => .error (.fault f) ⟨store, table, arenas, values, pages, snapshots⟩

/-- A look at the store. -/
def observe {α : Type} (look : Store → Except Fault α) : WorldM α := fun w =>
  match look w.store with
  | .ok a => .ok a w
  | .error f => .error (.fault f) w

end World

/-! ## Registers -/

/-- One of the kinds of registers of a world. -/
structure Shelf (α : Type) where
  registers : World → Registers α
  /-- The world with these registers changed, and no others. -/
  change : (Registers α → Registers α) → World → World

namespace Shelf

def arenas : Shelf Arena :=
  ⟨World.arenas, fun f ⟨store, table, arenas, values, pages, snapshots⟩ =>
    ⟨store, table, f arenas, values, pages, snapshots⟩⟩

def values : Shelf Value :=
  ⟨World.values, fun f ⟨store, table, arenas, values, pages, snapshots⟩ =>
    ⟨store, table, arenas, f values, pages, snapshots⟩⟩

def pages : Shelf PageRef :=
  ⟨World.pages, fun f ⟨store, table, arenas, values, pages, snapshots⟩ =>
    ⟨store, table, arenas, values, f pages, snapshots⟩⟩

def snapshots : Shelf ArenaStats :=
  ⟨World.snapshots, fun f ⟨store, table, arenas, values, pages, snapshots⟩ =>
    ⟨store, table, arenas, values, pages, f snapshots⟩⟩

variable {α : Type} (shelf : Shelf α)

/-- The content of a register that a call names as `handle`. -/
def read (handle : Handle) (i : Nat) : WorldM α := do
  match (shelf.registers (← EStateM.get)).content? i with
  | some a => return a
  | none => throw (.missing handle)

/-- Keeps a result in a new register, which is empty if the action fails. Answers its number. -/
def keep (act : WorldM α) : WorldM Nat := fun w =>
  match act w with
  | .ok a w =>
    let i := (shelf.registers w).size
    .ok i (shelf.change (·.push (some a)) w)
  | .error f w => .error f (shelf.change (·.push none) w)

/-- Empties a register that holds something. -/
def drop (handle : Handle) (i : Nat) : WorldM Unit := do
  let _ ← shelf.read handle i
  modify (shelf.change (·.clear i))

end Shelf

namespace World

/-! ## Operations -/

/-- A request to the arena `a` from a register, which keeps what becomes of the arena. -/
def request (i : Nat) (a : Arena) (q : Request) : WorldM (Except ArenaError NumberRef) :=
  fun ⟨store, table, arenas, values, pages, snapshots⟩ =>
    let ⟨answer, a, store⟩ := a.respond table q store
    let w : World := ⟨store, table, arenas.setIfInBounds i (some a), values, pages, snapshots⟩
    match answer with
    | .ok answer => .ok answer w
    | .error f => .error (.fault f) w

/-- A reference to a number from the arena in a register. -/
def mint (memory : Memory) (i : Nat) (mode : Mode) (n : Binary64) : WorldM NumberRef := do
  match ← request i (← Shelf.arenas.read .arena i) ⟨mode, n, memory⟩ with
  | .ok r => return r
  | .error e => throw (.arena e)

def stats (i : Nat) : WorldM ArenaStats := do
  let a ← Shelf.arenas.read .arena i
  return a.stats (← EStateM.get).store

/-- A value for a number from an arena, in a new register. -/
def mintInto (memory : Memory) (i : Nat) (mode : Mode) (n : Binary64) : WorldM Nat :=
  Shelf.values.keep do return .number (← mint memory i mode n)

/-- A value for a preloaded number, from the one table. -/
def lookup (n : Binary64) : WorldM Value := do
  let table := (← EStateM.get).table
  match ← observe fun _ => table.lookup n with
  | some v => return v
  | none => throw .noEntry

/-- A value for a number that is pushed onto the page in a register. -/
def number (i : Nat) (n : Binary64) : WorldM Value := do
  match ← onStore (NumberRef.alloc (← Shelf.pages.read .page i) n) with
  | some r => return .number r
  | none => throw .noRoom

/-- A new arena, or the reason why there is none. -/
def configureArena (memory : Memory) (config : ArenaConfig) : WorldM Arena := do
  match ← onStore (Arena.withConfig memory config) with
  | .ok a => return a
  | .error e => throw (.arena e)

/-- A new page that the store keeps. -/
def addPage (lifetime : Lifetime) (p : Page) : WorldM PageRef := do
  let id ← onStore (Store.add p)
  return ⟨id, lifetime⟩

/-- A new counted page in memory that may be refused. -/
def requestPage (memory : Memory) (capacity : UInt32) : WorldM PageRef :=
  match Page.tryNew memory capacity with
  | some p => addPage .counted p
  | none => throw .refused

end World

/-- Carries a call out, under the given memory. -/
def Call.perform (memory : Memory) : Call → WorldM Outcome
  | .newArena c => .arena <$> Shelf.arenas.keep (World.onStore (Arena.new c))
  | .configureArena c => .arena <$> Shelf.arenas.keep (World.configureArena memory ⟨c⟩)
  | .standardArena => .arena <$> Shelf.arenas.keep (World.onStore Arena.standard)
  | .mint a mode n => .value <$> World.mintInto memory a mode n
  | .lookup n => .value <$> Shelf.values.keep (World.lookup n)
  | .absent => .value <$> Shelf.values.keep (return .nil)
  | .truth b => .value <$> Shelf.values.keep (return .bool b)
  | .copy v => .value <$> Shelf.values.keep (Shelf.values.read .value v)
  | .newPage lifetime c => .page <$> Shelf.pages.keep (World.addPage lifetime (Page.new c))
  | .requestPage c => .page <$> Shelf.pages.keep (World.requestPage memory c)
  | .push p n => do
    let id := (← Shelf.pages.read .page p).id
    return .slot p (← World.onStore (Store.onPage id (Page.push n)))
  | .number p n => .value <$> Shelf.values.keep (World.number p n)
  | .read p slot => do
    let id := (← Shelf.pages.read .page p).id
    return .number (← World.observe fun s => (s.page id).get slot)
  | .snapshot a => do
    let _ ← Shelf.snapshots.keep (World.stats a)
    return .snapshot a
  | .pageBytes c => do return .bytes (← World.observe fun _ => ArenaConfig.pageBytes ⟨c⟩)
  | .dropArena i => do Shelf.arenas.drop .arena i; return .dropped
  | .dropValue i => do Shelf.values.drop .value i; return .dropped
  | .dropPage i => do Shelf.pages.drop .page i; return .dropped

namespace World

/-- The result of an action, a failure being a result too. -/
def attempt {α : Type} (act : WorldM α) : WorldM (Except Failure α) := fun w =>
  match act w with
  | .ok a w => .ok (.ok a) w
  | .error f w => .ok (.error f) w

/-- The result of an action on the world at the start. -/
def eval {α : Type} (act : WorldM α) : Except Failure α :=
  match start with
  | .error f => .error (.fault f)
  | .ok w =>
    match act w with
    | .ok a _ => .ok a
    | .error f _ => .error f

/-- Carries out calls in order, each under its own memory; failures do not stop the program. -/
def run : List (Call × Memory) → WorldM (List (Except Failure Outcome))
  | [] => return []
  | (call, memory) :: rest => do
    let outcome ← attempt (call.perform memory)
    return outcome :: (← run rest)

end World

end Boxing
