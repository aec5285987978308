import Boxing.Value.Basic
import Boxing.Binary64.Order

/-!
# Preloaded small integers

Every integer from `-128` to `255` has one permanent value, which all lookups of it share. The
table is built once, on two permanent pages that its numbers fill: `0 … 255` on the first and
`-1, -2, … -128` on the second, so that entry `k` of a half stands in slot `k` of its page.

`PreloadTable.get?` finds the entry of a number. Fractions, NaNs, infinities and integers out of
range have no entry, and neither has `-0.0`, whose sign would be lost.
-/

set_option autoImplicit false

namespace Boxing

inductive Half where
  /-- Entry `k` is `k`. -/
  | nonNegative
  /-- Entry `k` is `-(k + 1)`. -/
  | negative
  deriving DecidableEq, Repr

namespace Half

def limit : Half → UInt32
  | nonNegative => 256
  | negative => 128

def entry (h : Half) (k : Nat) : Int :=
  match h with
  | nonNegative => k
  | negative => -(k + 1 : Int)

/-- The integers of a half as numbers, in order. -/
def numbers (h : Half) : List Binary64 :=
  (List.range h.limit.toNat).map fun k => Binary64.ofInt (h.entry k)

end Half

/-- The permanent references of the small integers. -/
structure PreloadTable where
  nonNegative : Array NumberRef
  negative : Array NumberRef
  deriving DecidableEq, Repr

namespace PreloadTable

def half (t : PreloadTable) : Half → Array NumberRef
  | .nonNegative => t.nonNegative
  | .negative => t.negative

/-! ## Construction -/

/-- Pushes the numbers onto a page in order and collects their references; a number that finds the
page full is left out. -/
def collect (page : PageRef) : List Binary64 → StoreM (List NumberRef)
  | [] => return []
  | n :: rest => do
    match ← NumberRef.alloc page n with
    | none => collect page rest
    | some r => return r :: (← collect page rest)

/-- Pushes the numbers onto a page, which they have to fill, and collects their references. -/
def fill (page : PageRef) (numbers : List Binary64) : StoreM (Array NumberRef) := do
  let refs ← collect page numbers
  if ← ((← EStateM.get).page page.id).isFull then return refs.toArray
  else throw .unfilledPage

/-- A new permanent page, filled with the numbers of a half. -/
def buildHalf (h : Half) : StoreM (Array NumberRef) := do
  let id ← Store.add (Page.new h.limit)
  fill ⟨id, .permanent⟩ h.numbers

def build : StoreM PreloadTable := do
  let nonNegative ← buildHalf .nonNegative
  let negative ← buildHalf .negative
  return ⟨nonNegative, negative⟩

/-! ## Lookup -/

/-- The entry of a number. A NaN or an infinity has a fractional part, which is a NaN; the sign bit
keeps `-0.0` from the entry of zero, and its magnitude is too small for the negative half. -/
def get? (t : PreloadTable) (n : Binary64) : Except Fault (Option NumberRef) :=
  if !n.fract.eq .zero then return none
  else if !n.negative && n.lt (.ofNat Half.nonNegative.limit.toNat) then
    return t.nonNegative[n.toWord]?
  else
    let magnitude := n.neg
    if (Binary64.ofNat 1).le magnitude && magnitude.le (.ofNat Half.negative.limit.toNat) then do
      return t.negative[← Checked.sub magnitude.toWord 1]?
    else return none

/-- A value for a number, sharing the slot of its entry. -/
def lookup (t : PreloadTable) (n : Binary64) : Except Fault (Option Value) := do
  return (← t.get? n).map .number

/-- The position of the entry of a half that names the same slot as `r`. -/
def index? (t : PreloadTable) (h : Half) (r : NumberRef) : Option Nat :=
  (t.half h).findIdx? (r.aliases ·)

end PreloadTable

end Boxing
