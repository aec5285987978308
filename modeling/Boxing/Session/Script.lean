import Boxing.Session.Answer

/-!
# Sessions

A session is a script of steps over one world. A step is a call, several calls at once, a question
about the registers, or a turn of the switch that makes the memory refuse every page. `Session.run`
answers the steps in order; a step that fails answers its failure, and the session goes on.
-/

set_option autoImplicit false

namespace Boxing

/-- Numbers at equal distances: `(start + i * step) / den` for `i` below `count`. -/
structure Ramp where
  start : Int
  step : Int
  den : Int
  count : Nat
  deriving DecidableEq, Repr

/-- The number at a position of a ramp. -/
def Ramp.number (r : Ramp) (i : Nat) : Binary64 :=
  (Binary64.ofInt (r.start + i * r.step)).div (Binary64.ofInt r.den)

/-- One step of a session. -/
inductive Step where
  /-- A call, told of in full. -/
  | call (call : Call)
  /-- Several numbers from one arena, each told of as it is made. -/
  | mintMany (arena : Nat) (mode : Mode) (ns : List Binary64)
  /-- A ramp of numbers from one arena, told of in sum; the values are kept or dropped at once. -/
  | ramp (arena : Nat) (mode : Mode) (r : Ramp) (keep : Bool)
  /-- Makes the memory refuse every page, or no longer. -/
  | refuse (on : Bool)
  | readSnapshot (snapshot : Nat)
  | compareSnapshots (first second : Nat)
  | readValue (value : Nat)
  | readAll
  | compare (first second : Nat)
  | inspectPage (page : Nat)
  /-- The outline of a register's content, on one line or tall. -/
  | outline (subject : Subject) (register : Nat) (tall : Bool)
  deriving DecidableEq, Repr

structure Session where
  world : World
  refusing : Bool

namespace Session

abbrev SessionM := EStateM Failure Session

/-- The memory of a session: pages of up to 134217728 bytes, and none while the switch is on. -/
def memory (refusing : Bool) : Memory :=
  if refusing then Memory.exhausted else Memory.upTo 134217728

/-- An action on the world, under the session's memory. -/
def onWorld {α : Type} (act : Memory → WorldM α) : SessionM α := fun ⟨world, refusing⟩ =>
  match act (memory refusing) world with
  | .ok a world => .ok a ⟨world, refusing⟩
  | .error f world => .error f ⟨world, refusing⟩

/-! ## Ramps -/

/-- Mints a number into a new register and tells what it shows. -/
def mintKept (memory : Memory) (arena : Nat) (mode : Mode) (n : Binary64) :
    WorldM (Option NumberState) := do
  let v ← Shelf.values.read .value (← World.mintInto memory arena mode n)
  World.observe v.state?

/-- Mints a number and tells what it shows; nothing keeps it. -/
def mintDropped (memory : Memory) (arena : Nat) (mode : Mode) (n : Binary64) :
    WorldM (Option NumberState) := do
  let r ← World.mint memory arena mode n
  World.observe fun s => return some (← r.state s)

/-- Mints numbers one after another and tallies them. -/
def tallyRamp (mint : Binary64 → WorldM (Option NumberState)) :
    List Binary64 → RampTally → WorldM RampTally
  | [], t => return t
  | n :: rest, t => do
    match ← World.attempt (mint n) with
    | .ok (some state) => tallyRamp mint rest (t.noteNumber state)
    | .ok none => tallyRamp mint rest t
    | .error f => tallyRamp mint rest (t.noteFailure f)

/-- Mints the numbers of a ramp from an arena, which must exist. -/
def performRamp (memory : Memory) (arena : Nat) (mode : Mode) (r : Ramp) (keep : Bool) :
    WorldM Answer := do
  let _ ← Shelf.arenas.read .arena arena
  let mint := if keep then mintKept memory arena mode else mintDropped memory arena mode
  let t ← tallyRamp mint ((List.range r.count).map r.number) RampTally.start
  return .ramp t (← World.arenaState arena)

/-! ## Steps -/

/-- Mints a number into a new register and describes it. -/
def mintDescribed (memory : Memory) (arena : Nat) (mode : Mode) (n : Binary64) :
    WorldM Description := do
  World.describe (← World.mintInto memory arena mode n)

/-- Mints numbers one after another and describes each of them. -/
def mintEach (memory : Memory) (arena : Nat) (mode : Mode) :
    List Binary64 → WorldM (List (Except Failure Description))
  | [] => return []
  | n :: rest => do
    let first ← World.attempt (mintDescribed memory arena mode n)
    return first :: (← mintEach memory arena mode rest)

/-- Carries a step out. -/
def perform : Step → SessionM Answer
  | .call c => onWorld fun memory => do (← c.perform memory).answer
  | .mintMany a mode ns => onWorld fun memory => do return .minted (← mintEach memory a mode ns)
  | .ramp a mode r keep => onWorld fun memory => performRamp memory a mode r keep
  | .refuse on => do
    modify fun s => { s with refusing := on }
    return .refusing on
  | .readSnapshot s => onWorld fun _ => do return .stats (← Shelf.snapshots.read .snapshot s)
  | .compareSnapshots a b => onWorld fun _ => do
    let first ← Shelf.snapshots.read .first a
    let second ← Shelf.snapshots.read .second b
    return .equal (first == second)
  | .readValue v => onWorld fun _ => do return .value (← World.describe v)
  | .readAll => onWorld fun _ => do return .values (← World.describeAll)
  | .compare a b => onWorld fun _ => do return .comparison (← World.compare a b)
  | .inspectPage p => onWorld fun _ => do return .pageState (← World.pageState p)
  | .outline subject i tall => onWorld fun _ => do
    let o ← World.outline i subject
    return .text (if tall then o.tall else o.flat)

/-- Answers the steps in order. -/
def answers : List Step → Session → List (Except Failure Answer)
  | [], _ => []
  | step :: rest, s =>
    match perform step s with
    | .ok a s => .ok a :: answers rest s
    | .error f s => .error f :: answers rest s

/-- Answers a script from the start. -/
def run (script : List Step) : Except Fault (List (Except Failure Answer)) := do
  return answers script ⟨← World.start, false⟩

end Session

end Boxing
