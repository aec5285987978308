import Boxing.Storage.Store

/-!
# Values

A number is not held by the value itself: a `NumberRef` names the slot of a page that holds it, and
copies of it name the same slot. Two references alias when they name one slot of one page; equal
numbers in different slots do not. A reference into a permanent page is *canonical*.

`NumberRef.alloc` mints a reference by pushing a number onto a page and `NumberRef.get` reads it
back. A `Value` is nothing, a truth value or a number.
-/

set_option autoImplicit false

namespace Boxing

/-- How long a page is kept. -/
inductive Lifetime where
  /-- As long as something refers to it. -/
  | counted
  /-- For ever. -/
  | permanent
  deriving DecidableEq, Repr

structure PageRef where
  id : PageId
  lifetime : Lifetime
  deriving DecidableEq, Repr

structure NumberRef where
  page : PageRef
  slot : Nat
  deriving DecidableEq, Repr

namespace NumberRef

/-- Pushes `n` onto a page and refers to its slot; nothing if the page is full. -/
def alloc (page : PageRef) (n : Binary64) : StoreM (Option NumberRef) := do
  let slot ← Store.onPage page.id (Page.push n)
  return slot.map (⟨page, ·⟩)

def get (r : NumberRef) (s : Store) : Except Fault Binary64 := (s.page r.page.id).get r.slot

def isCanonical (r : NumberRef) : Bool := r.page.lifetime == .permanent

def samePage (a b : NumberRef) : Bool := a.page.id == b.page.id

def aliases (a b : NumberRef) : Bool := a.samePage b && a.slot == b.slot

end NumberRef

/-- What a program computes with. -/
inductive Value where
  | nil
  | bool (b : Bool)
  | number (r : NumberRef)
  deriving DecidableEq, Repr

namespace Value

instance : Inhabited Value := ⟨nil⟩

def typeName : Value → String
  | nil => "nil"
  | bool _ => "boolean"
  | number _ => "number"

def ref? : Value → Option NumberRef
  | number r => some r
  | _ => none

def isNumber (v : Value) : Bool := v.ref?.isSome

/-- The content of a number, read from its slot. -/
def number? (v : Value) (s : Store) : Except Fault (Option Binary64) :=
  match v.ref? with
  | some r => return some (← r.get s)
  | none => return none

/-- Both values are numbers that name one slot. -/
def aliases (a b : Value) : Bool :=
  match a, b with
  | number a, number b => a.aliases b
  | _, _ => false

end Value

end Boxing
