import Boxing.Storage.Page

/-!
# Pushes that race for one page

Several writers push onto one page at once. A push takes four steps: it reads the length, it moves
the length on by one if it still is what was read, it writes its number into the slot so claimed,
and it answers. A writer whose move fails, because another one moved the length or for no reason at
all, goes on with the length it found instead; one that sees a full page answers nothing.

`Race.step` makes one step of one writer and `Race.run` a whole schedule. The steps on the page are
the ones that `Page.push` takes without a break, but for a page that is spent: a writer looks for
room first, and is refused there.
-/

set_option autoImplicit false

namespace Boxing

/-- How far a push has come. -/
inductive Stage where
  /-- It has read the length `seen`. -/
  | looking (seen : Nat)
  /-- It owns a slot and has not written it. -/
  | claimed (slot : Nat)
  /-- It has written its slot. -/
  | written (slot : Nat)
  deriving DecidableEq, Repr

/-- A push under way. -/
structure Push where
  number : Binary64
  stage : Stage
  deriving DecidableEq, Repr

/-- One of the racing writers: the numbers it has yet to push, the push it is at, and the answers
it has had, the last one first. -/
structure Writer where
  waiting : List Binary64
  active : Option Push
  answers : List (Binary64 × Option Nat)
  deriving DecidableEq, Repr

/-- A page and the writers that push onto it. -/
structure Race where
  page : Page
  writers : Array Writer
  deriving DecidableEq, Repr

/-- The next step belongs to `writer`; a move of the length may fail for no reason. -/
structure Turn where
  writer : Nat
  spurious : Bool
  deriving DecidableEq, Repr

namespace Writer

def ofNumbers (numbers : List Binary64) : Writer := ⟨numbers, none, []⟩

def finish (w : Writer) (number : Binary64) (answer : Option Nat) : Writer :=
  { w with active := none, answers := (number, answer) :: w.answers }

/-- The next step of a writer; nothing if it has no more numbers. -/
def step (w : Writer) (spurious : Bool) : PageM Writer := do
  match w.active with
  | none =>
    match w.waiting with
    | [] => return w
    | n :: rest =>
      let page ← EStateM.get
      return { w with waiting := rest, active := some ⟨n, .looking page.len⟩ }
  | some ⟨n, .looking seen⟩ =>
    let page ← EStateM.get
    if seen < page.capacity then
      let next ← Checked.add UInt32.size seen 1
      let moved ← if spurious then pure false else Page.advance seen next
      if moved then return { w with active := some ⟨n, .claimed seen⟩ }
      else return { w with active := some ⟨n, .looking page.len⟩ }
    else return w.finish n none
  | some ⟨n, .claimed slot⟩ =>
    Page.store slot n
    return { w with active := some ⟨n, .written slot⟩ }
  | some ⟨n, .written slot⟩ => return w.finish n (some slot)

def isDone (w : Writer) : Bool := w.waiting.isEmpty && w.active.isNone

end Writer

namespace Race

/-- The writers stand at the start, each with its numbers, before an empty page. -/
def start (capacity : UInt32) (numbers : List (List Binary64)) : Race :=
  ⟨Page.new capacity, (numbers.map Writer.ofNumbers).toArray⟩

/-- One step of the writer whose turn it is; a turn of nobody changes nothing. -/
def step (turn : Turn) : EStateM Fault Race Unit := fun ⟨page, writers⟩ =>
  if h : turn.writer < writers.size then
    match writers[turn.writer].step turn.spurious page with
    | .ok w page => .ok () ⟨page, writers.set turn.writer w h⟩
    | .error f page => .error f ⟨page, writers⟩
  else .ok () ⟨page, writers⟩

def run (schedule : List Turn) : EStateM Fault Race Unit := schedule.forM step

def isDone (r : Race) : Bool := r.writers.all Writer.isDone

/-- The slots that finished pushes were answered, in ascending order. -/
def slotsAnswered (r : Race) : List Nat :=
  (r.writers.toList.flatMap fun w => w.answers.filterMap Prod.snd).mergeSort

/-- A schedule in which the writers take turns push by push: each of the pushes gets the four
steps it needs before the next writer's begins. -/
def inTurns (writers pushes : Nat) : List Turn :=
  (List.range pushes).flatMap fun _ => (List.range writers).flatMap fun w =>
    List.replicate 4 ⟨w, false⟩

end Race

end Boxing
