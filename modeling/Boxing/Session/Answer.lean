import Boxing.Report.Outline
import Boxing.Session.World

/-!
# Answers about the world

What a session tells of the registers: the state of an arena or a page, a description of a value
(`World.describe`), how two values compare (`World.compare`), and what a call brought about
(`Outcome.answer`). The page of a number is told by the first live register whose number lies on the
same page, since the pages of an arena have no register of their own.
-/

set_option autoImplicit false

namespace Boxing

/-- A live value: its register, the name of its type, and for a number what it shows and the first
register with a number on its page. -/
structure Description where
  register : Nat
  typeName : String
  isNumber : Bool
  number : Option (NumberState × Nat)
  deriving DecidableEq, Repr

/-- How two values compare. The last two are told of numbers only. -/
structure Comparison where
  aliases : Bool
  reverse : Bool
  refAliases : Option Bool
  samePage : Option Bool
  deriving DecidableEq, Repr

/-- What came of a ramp of numbers. -/
structure RampTally where
  hits : Nat
  errors : Nat
  lastError : Option Failure
  /-- A digest of the bits and slots of the minted numbers, in order. -/
  hash : UInt64
  deriving DecidableEq, Repr

namespace RampTally

def start : RampTally := ⟨0, 0, none, 0⟩

def noteNumber (t : RampTally) (n : NumberState) : RampTally :=
  let hash := (t.hash * 31 + n.number.bits) * 31 + UInt64.ofNat n.slot
  { t with hits := if n.canonical then t.hits + 1 else t.hits, hash }

def noteFailure (t : RampTally) (f : Failure) : RampTally :=
  { t with errors := t.errors + 1, lastError := some f }

end RampTally

inductive Answer where
  | arena (register : Nat) (state : ArenaState)
  | page (register : Nat) (state : PageState)
  | value (d : Description)
  | dropped
  | arenaState (state : ArenaState)
  | pageState (state : PageState)
  | pushed (slot : Option Nat) (state : PageState)
  | number (n : Binary64)
  | bytes (n : Nat)
  | stats (s : ArenaStats)
  | equal (b : Bool)
  | comparison (c : Comparison)
  | refusing (on : Bool)
  | values (all : List (Option Description))
  | minted (each : List (Except Failure Description))
  | ramp (t : RampTally) (state : ArenaState)
  | text (s : String)

/-- What an outline is asked of. -/
inductive Subject where
  | value | reference | arena | page | snapshot
  deriving DecidableEq, Repr

namespace World

/-- The first register with a number on the page of `r`. -/
def firstOnPage (w : World) (r : NumberRef) : Nat :=
  w.values.findIdx fun v => (v.bind Value.ref?).any r.samePage

def description (w : World) (register : Nat) (v : Value) : Except Fault Description := do
  match v.ref? with
  | some r => return ⟨register, v.typeName, v.isNumber, some (← r.state w.store, w.firstOnPage r)⟩
  | none => return ⟨register, v.typeName, v.isNumber, none⟩

def describe (register : Nat) : WorldM Description := do
  let v ← Shelf.values.read .value register
  let w ← EStateM.get
  observe fun _ => w.description register v

/-- The descriptions of all values, in the order of their registers. -/
def describeAll : WorldM (List (Option Description)) := do
  let w ← EStateM.get
  observe fun _ => w.values.toList.zipIdx.mapM fun (content, register) =>
    match content with
    | some v => return some (← w.description register v)
    | none => return none

def arenaState (i : Nat) : WorldM ArenaState := do observe (← Shelf.arenas.read .arena i).state

def pageState (i : Nat) : WorldM PageState := do
  let id := (← Shelf.pages.read .page i).id
  observe fun s => (s.page id).state

def compare (first second : Nat) : WorldM Comparison := do
  let a ← Shelf.values.read .first first
  let b ← Shelf.values.read .second second
  let ofRefs (test : NumberRef → NumberRef → Bool) : Option Bool := do
    return test (← a.ref?) (← b.ref?)
  return ⟨a.aliases b, b.aliases a, ofRefs NumberRef.aliases, ofRefs NumberRef.samePage⟩

def outline (i : Nat) : Subject → WorldM Text.Outline
  | .value => do observe (← Shelf.values.read .outlined i).outline
  | .reference => do observe (← Shelf.values.read .outlined i).refOutline
  | .arena => do return (← Shelf.arenas.read .outlined i).outline (← EStateM.get).store
  | .page => do
    let id := (← Shelf.pages.read .outlined i).id
    return ((← EStateM.get).store.page id).outline
  | .snapshot => do return (← Shelf.snapshots.read .outlined i).outline

end World

/-- What is told of a call's outcome. -/
def Outcome.answer : Outcome → WorldM Answer
  | .arena i => do return .arena i (← World.arenaState i)
  | .value i => do return .value (← World.describe i)
  | .page i => do return .page i (← World.pageState i)
  | .snapshot a => do return .arenaState (← World.arenaState a)
  | .slot p taken => do return .pushed taken (← World.pageState p)
  | .number n => return .number n
  | .bytes n => return .bytes n
  | .dropped => return .dropped

end Boxing
