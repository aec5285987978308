import Boxing.Arena.Basic

/-!
# Histories of requests

A `Request` asks an arena for a reference to a number, in one of two modes, and carries the memory
that a rollover would find. `Arena.serveAll` answers a history of requests one after another, as
long as there is no fault. `Arena.respond` has the arena and the store that a request leaves even if
it ends in a fault, so `Arena.respondAll` goes on after it.
-/

set_option autoImplicit false

namespace Boxing

inductive Mode where
  /-- Always by a slot of its own. -/
  | allocate
  /-- From the preloaded integers if possible. -/
  | box
  deriving DecidableEq, Repr

/-- A number to be referred to. -/
structure Request where
  mode : Mode
  number : Binary64
  memory : Memory

namespace Arena

def serve (table : PreloadTable) (r : Request) (a : Arena) :
    ArenaM (Except ArenaError NumberRef × Arena) :=
  match r.mode with
  | .allocate => a.allocate r.memory r.number
  | .box => a.box table r.memory r.number

def serveAll (table : PreloadTable) :
    List Request → Arena → ArenaM (List (Except ArenaError NumberRef) × Arena)
  | [], a => return ([], a)
  | r :: rest, a => do
    let (answer, a) ← a.serve table r
    let (answers, a) ← serveAll table rest a
    return (answer :: answers, a)

/-- What a request is answered. -/
abbrev Answer := Except Fault (Except ArenaError NumberRef)

/-- What the holder of an arena has after a request. -/
structure Response where
  answer : Answer
  arena : Arena
  store : Store

/-- A request that may end in a fault. -/
def respond (table : PreloadTable) (q : Request) (a : Arena) (s : Store) : Response :=
  match a.serve table q s with
  | .ok (answer, a) s => ⟨.ok answer, a, s⟩
  | .error b s => ⟨.error b.fault, b.arena, s⟩

/-- Answers a history of requests, of which any may end in a fault. -/
def respondAll (table : PreloadTable) :
    List Request → Arena → Store → List Answer × Arena × Store
  | [], a, s => ([], a, s)
  | q :: rest, a, s =>
    let r := a.respond table q s
    let (answers, last) := respondAll table rest r.arena r.store
    (r.answer :: answers, last)

end Arena

end Boxing
