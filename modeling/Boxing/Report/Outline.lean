import Boxing.Report.State
import Boxing.Decimal.Layout
import Boxing.Text.Quoted
import Boxing.Text.Outline

/-!
# Outlines of the objects

Each object names its parts in a fixed order. A page shows its length and capacity and not its
numbers; a reference shows the number it reads, and a fixed word for the place of its page.
-/

set_option autoImplicit false

namespace Boxing

open Text (Outline)

def countOutline (n : Nat) : Outline := .atom (toString n)

def boolOutline (b : Bool) : Outline := .atom (if b then "true" else "false")

def optionOutline (o : Option Outline) : Outline :=
  match o with
  | some content => .wrapped "Some" content
  | none => .atom "None"

def ArenaConfig.outline (c : ArenaConfig) : Outline :=
  .record "ArenaConfig" [("page_capacity", countOutline c.pageCapacity)]

def ArenaStats.outline (s : ArenaStats) : Outline :=
  .record "ArenaStats" [
    ("pages_allocated", countOutline s.pagesAllocated),
    ("slots_allocated", countOutline s.slotsAllocated),
    ("current_page_len", countOutline s.currentPageLen),
    ("page_capacity", countOutline s.pageCapacity)]

/-- The outline of an arena error; a reason is quoted. -/
def ArenaError.outline : ArenaError → Outline
  | .resourceExhausted requestedBytes =>
    .record "ResourceExhausted" [("requested_bytes", countOutline requestedBytes)]
  | .invalidConfig reason =>
    .record "InvalidConfig" [("reason", .atom (Text.quoted reason))]

def Page.outline (p : Page) : Outline :=
  .record "Page" [("len", countOutline p.len), ("capacity", countOutline p.capacity)]

/-- The outline of an arena, its current page included. -/
def Arena.outline (a : Arena) (s : Store) : Outline :=
  .record "Arena" [
    ("config", a.config.outline),
    ("current", (s.page a.current).outline),
    ("pages_allocated", countOutline a.pagesAllocated),
    ("slots_allocated", countOutline a.slotsAllocated)]

/-- The outline of a reference, with the number it reads. -/
def NumberRef.outline (r : NumberRef) (s : Store) : Except Fault Outline := do
  let n ← r.get s
  return .record "NumberRef" [
    ("page", .atom "PAGE"),
    ("slot", countOutline r.slot),
    ("canonical", boolOutline r.isCanonical),
    ("value", .atom n.text)]

def Value.outline (v : Value) (s : Store) : Except Fault Outline :=
  match v with
  | .nil => return .atom "Nil"
  | .bool b => return .wrapped "Bool" (boolOutline b)
  | .number r => return .wrapped "Number" (← r.outline s)

/-- The outline of the reference in a value, which has one if it is a number. -/
def Value.refOutline (v : Value) (s : Store) : Except Fault Outline :=
  match v.ref? with
  | some r => return optionOutline (some (← r.outline s))
  | none => return optionOutline none

end Boxing
