import Boxing.Binary64.Basic
import Boxing.Fault

/-!
# Pages

A page has a fixed number of slots and hands them out in order. `Page.push` writes a number into
the next slot and answers its position; a full page answers nothing and stays as it is. There is one
exception: a push forms the next length before it looks for room, so a full page whose length is the
greatest of all (`Page.Spent`) ends it in a fault. A slot that has been handed out keeps its number,
bit for bit, and `Page.get` reads it; slots beyond the length hold nothing that can be read,
although the storage behind them exists from the start.
-/

set_option autoImplicit false

namespace Boxing

/-- Which requests for a number of bytes are granted. -/
abbrev Memory := Nat → Bool

/-- Memory that grants requests up to a limit. -/
def Memory.upTo (limit : Nat) : Memory := fun bytes => decide (bytes ≤ limit)

/-- Memory that grants nothing. -/
def Memory.exhausted : Memory := fun _ => false

/-- A block of slots, of which the first `len` have been handed out. -/
structure Page where
  slots : Array Binary64
  len : Nat
  deriving DecidableEq, Repr

abbrev PageM := EStateM Fault Page

namespace Page

/-- An empty page with room for `capacity` numbers. -/
def new (capacity : UInt32) : Page := ⟨Array.replicate capacity.toNat .zero, 0⟩

/-- An empty page in memory that may be refused; without slots nothing is requested. -/
def tryNew (memory : Memory) (capacity : UInt32) : Option Page :=
  if capacity = 0 ∨ memory (8 * capacity.toNat) then some (new capacity) else none

instance : Inhabited Page := ⟨new 0⟩

def capacity (p : Page) : Nat := p.slots.size

def isEmpty (p : Page) : Bool := p.len == 0

/-- The number of slots that are left. -/
def remaining (p : Page) : Except Fault Nat := Checked.sub p.capacity p.len

def isFull (p : Page) : Except Fault Bool := p.remaining.map (· == 0)

/-- The number in a slot that has been handed out. -/
def get (p : Page) (slot : Nat) : Except Fault Binary64 :=
  if slot < p.len then
    match p.slots[slot]? with
    | some n => .ok n
    | none => .error (.outOfBounds p.slots.size slot)
  else .error (.unwrittenSlot slot)

/-- The length moves on to `next` if it still is `seen`. Answers whether it did. -/
def advance (seen next : Nat) : PageM Bool := fun ⟨slots, len⟩ =>
  if len = seen then .ok true ⟨slots, next⟩ else .ok false ⟨slots, len⟩

def store (slot : Nat) (n : Binary64) : PageM Unit := fun ⟨slots, len⟩ =>
  if h : slot < slots.size then .ok () ⟨slots.set slot n h, len⟩
  else .error (.outOfBounds slots.size slot) ⟨slots, len⟩

/-- Writes `n` into the next slot and answers its position, or nothing if the page is full. A slot
is claimed before it is written. -/
def push (n : Binary64) : PageM (Option Nat) := do
  let seen := (← EStateM.get).len
  let capacity := (← EStateM.get).capacity
  -- formed even if there is no room
  let next ← Checked.add UInt32.size seen 1
  if seen < capacity then
    let _ ← advance seen next
    store seen n
    return some seen
  else return none

/-! ## Well-formed pages -/

/-- No more slots are handed out than exist, and positions fit in a word of 32 bits. -/
structure WellFormed (p : Page) : Prop where
  len_le : p.len ≤ p.capacity
  capacity_lt : p.capacity < UInt32.size

@[simp] theorem capacity_new (c : UInt32) : (new c).capacity = c.toNat := by
  simp [new, capacity]

@[simp] theorem len_new (c : UInt32) : (new c).len = 0 := rfl

theorem wellFormed_new (c : UInt32) : (new c).WellFormed :=
  ⟨Nat.zero_le _, by rw [capacity_new]; exact c.toNat_lt⟩

/-- The length is the greatest that fits in 32 bits, so no next length can be formed. -/
def Spent (p : Page) : Prop := UInt32.size ≤ p.len + 1

instance (p : Page) : Decidable p.Spent := inferInstanceAs (Decidable (_ ≤ _))

/-- No page has more slots. -/
def Greatest (p : Page) : Prop := UInt32.size ≤ p.capacity + 1

instance (p : Page) : Decidable p.Greatest := inferInstanceAs (Decidable (_ ≤ _))

theorem WellFormed.full_of_spent {p : Page} (h : p.WellFormed) (spent : p.Spent) :
    p.capacity ≤ p.len :=
  Nat.le_of_lt_succ (Nat.lt_of_lt_of_le h.capacity_lt spent)

/-- The spent pages are the full ones of the greatest size. -/
theorem WellFormed.spent_iff {p : Page} (h : p.WellFormed) :
    p.Spent ↔ p.capacity ≤ p.len ∧ p.Greatest :=
  ⟨fun spent => ⟨h.full_of_spent spent, Nat.le_trans spent (Nat.succ_le_succ h.len_le)⟩,
    fun full => Nat.le_trans full.2 (Nat.succ_le_succ full.1)⟩

/-- A push onto a page that is not spent looks for room. -/
theorem push_of_not_spent {p : Page} (n : Binary64) (fits : ¬ p.Spent) :
    push n p = (if p.len < p.capacity then
      (do let _ ← advance p.len (p.len + 1); store p.len n; return some p.len)
      else return none : PageM _) p := by
  change (liftM (Checked.add UInt32.size p.len 1) >>= _ : PageM _) p = _
  rw [Checked.add_eq_ok (Nat.lt_of_not_le fits)]
  rfl

/-- A page with room takes the number into the slot after the last. -/
theorem push_of_lt {p : Page} (h : p.WellFormed) (n : Binary64) (room : p.len < p.capacity) :
    push n p = .ok (some p.len) ⟨p.slots.set p.len n room, p.len + 1⟩ := by
  have fits : ¬ p.Spent := fun spent => Nat.not_lt.mpr (h.full_of_spent spent) room
  have moved : advance p.len (p.len + 1) p = .ok true ⟨p.slots, p.len + 1⟩ := if_pos rfl
  have stored : store p.len n ⟨p.slots, p.len + 1⟩ =
      .ok () ⟨p.slots.set p.len n room, p.len + 1⟩ := dif_pos room
  rw [push_of_not_spent n fits, if_pos room]
  simp only [bind, EStateM.bind, moved, stored, pure, EStateM.pure]

/-- A page without room refuses the number and stays as it is. -/
theorem push_of_full {p : Page} (n : Binary64) (full : p.capacity ≤ p.len) (fits : ¬ p.Spent) :
    push n p = .ok none p := by
  rw [push_of_not_spent n fits, if_neg (Nat.not_lt.mpr full)]
  rfl

/-- A spent page ends the push in a fault, and stays as it is. -/
theorem push_of_spent {p : Page} (n : Binary64) (spent : p.Spent) :
    push n p = .error (.overflow .add) p := by
  change (liftM (Checked.add UInt32.size p.len 1) >>= _ : PageM _) p = _
  rw [Checked.add_eq_error (Nat.not_lt.mpr spent)]
  rfl

/-- A slot that has been handed out reads as what it holds. -/
theorem get_of_lt {p : Page} {slot : Nat} {n : Binary64} (hs : slot < p.len)
    (hn : p.slots[slot]? = some n) : p.get slot = .ok n := by
  simp [get, hs, hn]

/-- A slot that has not been handed out cannot be read, whatever lies behind it. -/
theorem get_of_le {p : Page} {slot : Nat} (hs : p.len ≤ slot) :
    p.get slot = .error (.unwrittenSlot slot) := if_neg (Nat.not_lt.mpr hs)

end Page

end Boxing
