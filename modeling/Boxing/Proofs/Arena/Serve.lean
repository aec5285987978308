import Boxing.Proofs.Arena.Fresh

/-!
# What a request does to an arena

`Arena.Ready a s`: the arena `a` can serve in the store `s`. A request for a slot then has one of
four ends: the current page has room (`allocate_of_room`), it is full and a new page is granted
(`allocate_of_granted`), it is full and the new page is refused (`allocate_of_refused`), or it is
spent and the request ends in a fault (`allocate_of_spent`). The counters have to fit in a word.
-/

set_option autoImplicit false

namespace Boxing

namespace Arena

/-! ## Construction -/

section
variable {c : Nat} (valid : ArenaConfig.validate ⟨c⟩ = .ok ())
include valid

theorem toNat_of_valid : (UInt32.ofNat c).toNat = c :=
  UInt32.toNat_ofNat_of_lt' (ArenaConfig.validate_eq_ok_iff.1 valid).2

/-- A valid page is granted or refused by the number of its bytes. -/
theorem tryNew_of_valid (memory : Memory) : Page.tryNew memory (UInt32.ofNat c) =
    if memory (8 * c) then some (Page.new (UInt32.ofNat c)) else none := by
  have h0 : UInt32.ofNat c ≠ 0 := by
    intro hc
    have := congrArg UInt32.toNat hc
    rw [toNat_of_valid valid] at this
    exact absurd this (Nat.ne_of_gt (ArenaConfig.validate_eq_ok_iff.1 valid).1)
  rw [Page.tryNew, toNat_of_valid valid]
  simp only [h0, false_or]

theorem new_of_valid (s : Store) :
    new c s = .ok ⟨⟨c⟩, s.pages.size, 1, 0⟩ ⟨s.pages.push (Page.new (UInt32.ofNat c))⟩ := by
  simp only [new, valid]
  rfl

theorem withConfig_of_granted {memory : Memory} (granted : memory (8 * c) = true) (s : Store) :
    withConfig memory ⟨c⟩ s =
      .ok (.ok ⟨⟨c⟩, s.pages.size, 1, 0⟩) ⟨s.pages.push (Page.new (UInt32.ofNat c))⟩ := by
  simp only [withConfig, valid, tryNew_of_valid valid, granted, if_true]
  rfl

end

/-! ## Ready arenas -/

/-- The capacity is valid, and the current page has been made and has this capacity. -/
structure Ready (a : Arena) (s : Store) : Prop where
  store : s.WellFormed
  valid : ArenaConfig.validate ⟨a.pageCapacity⟩ = .ok ()
  made : a.current < s.pages.size
  capacity : (s.page a.current).capacity = a.pageCapacity

/-- No slot can be taken from the current page, and none can be asked for. -/
def Spent (a : Arena) (s : Store) : Prop := (s.page a.current).Spent

instance (a : Arena) (s : Store) : Decidable (a.Spent s) :=
  inferInstanceAs (Decidable (Page.Spent _))

/-- The slot that comes next on the current page. -/
def next (a : Arena) (s : Store) : NumberRef := ⟨⟨a.current, .counted⟩, a.currentPageLen s⟩

/-- The arena after it gave a slot. -/
def counted (a : Arena) : Arena := { a with slotsAllocated := a.slotsAllocated + 1 }

/-- The store after `n` was put into the next slot. -/
def written (a : Arena) (n : Binary64) (s : Store) : Store :=
  s.setPage a.current ((s.page a.current).pushed n)

/-- The arena after it rolled over. -/
def rolled (a : Arena) (s : Store) : Arena :=
  { a with current := s.pages.size, pagesAllocated := a.pagesAllocated + 1 }

/-- The store with one more empty page. -/
def extended (a : Arena) (s : Store) : Store :=
  ⟨s.pages.push (Page.new (UInt32.ofNat a.pageCapacity))⟩

variable {a : Arena} {s : Store}

/-- The page that was added last is empty. -/
theorem currentPageLen_of_added (hnew : a.current = s.pages.size) :
    a.currentPageLen (a.extended s) = 0 := by
  rw [currentPageLen, extended, hnew, Store.page_push_size, Page.len_new]

theorem currentPageLen_rolled (a : Arena) (s : Store) :
    (a.rolled s).currentPageLen (a.extended s) = 0 :=
  currentPageLen_of_added (a := a.rolled s) rfl

/-- An arena on a page that was added for it is ready. -/
theorem Ready.of_added (hs : s.WellFormed) (valid : ArenaConfig.validate ⟨a.pageCapacity⟩ = .ok ())
    (hnew : a.current = s.pages.size) : Ready a (a.extended s) := by
  refine ⟨Store.wellFormed_add hs (Page.wellFormed_new _), valid, ?_, ?_⟩
  · rw [extended, Array.size_push, hnew]
    exact Nat.lt_succ_self _
  · rw [extended, hnew, Store.page_push_size, Page.capacity_new, toNat_of_valid valid]

namespace Ready

variable (h : Ready a s)
include h

theorem pos : 0 < a.pageCapacity := (ArenaConfig.validate_eq_ok_iff.1 h.valid).1

theorem le_max : a.pageCapacity ≤ ArenaConfig.maxPageCapacity :=
  Nat.le_of_lt_succ (ArenaConfig.validate_eq_ok_iff.1 h.valid).2

theorem len_le : a.currentPageLen s ≤ a.pageCapacity := by
  rw [← h.capacity]
  exact (h.store a.current).len_le

theorem rolled : Ready (a.rolled s) (a.extended s) :=
  of_added (a := a.rolled s) h.store h.valid rfl

theorem counted (room : a.currentPageLen s < a.pageCapacity) (n : Binary64) :
    Ready a.counted (a.written n s) := by
  have hroom : (s.page a.current).len < (s.page a.current).capacity := by
    rw [h.capacity]
    exact room
  refine ⟨Store.wellFormed_setPage h.store (Page.wellFormed_pushed n hroom (h.store _)), h.valid,
    ?_, ?_⟩
  · show a.current < (s.pages.setIfInBounds _ _).size
    rw [Array.size_setIfInBounds]
    exact h.made
  · show ((a.written n s).page a.current).capacity = _
    rw [written, Store.page_setPage_self h.made, Page.capacity_pushed]
    exact h.capacity

theorem currentPageLen_counted (n : Binary64) :
    a.counted.currentPageLen (a.written n s) = a.currentPageLen s + 1 := by
  show ((a.written n s).page a.current).len = _
  rw [written, Store.page_setPage_self h.made, Page.len_pushed]
  rfl

/-! ## The current page -/

theorem alloc_of_room (room : a.currentPageLen s < a.pageCapacity) (n : Binary64) :
    NumberRef.alloc ⟨a.current, .counted⟩ n s = .ok (some (a.next s)) (a.written n s) := by
  rw [← h.capacity] at room
  exact bind_of_ok (Store.onPage_eq_ok h.made (Page.push_of_room n room (h.store a.current)))

theorem alloc_of_full (full : a.currentPageLen s = a.pageCapacity) (unspent : ¬ a.Spent s)
    (n : Binary64) : NumberRef.alloc ⟨a.current, .counted⟩ n s = .ok none s := by
  have hfull := Nat.le_of_eq (h.capacity.trans full.symm)
  have hpush := Store.onPage_eq_ok h.made (Page.push_of_full n hfull unspent)
  rw [Store.setPage_page] at hpush
  exact bind_of_ok hpush

theorem alloc_of_spent (spent : a.Spent s) (n : Binary64) :
    NumberRef.alloc ⟨a.current, .counted⟩ n s = .error (.overflow .add) s := by
  have hpush := Store.onPage_eq_error h.made (Page.push_of_spent n spent)
  rw [Store.setPage_page] at hpush
  exact bind_of_error hpush

/-! ## Spent pages -/

/-- Only the full pages of the greatest size are spent. -/
theorem spent_iff : a.Spent s ↔
    a.currentPageLen s = a.pageCapacity ∧ a.pageCapacity = ArenaConfig.maxPageCapacity := by
  have hle := h.len_le
  have hcap : a.pageCapacity < UInt32.size := (ArenaConfig.validate_eq_ok_iff.1 h.valid).2
  show UInt32.size ≤ a.currentPageLen s + 1 ↔ _
  unfold ArenaConfig.maxPageCapacity
  unfold UInt32.size at *
  omega

theorem not_spent_of_room (room : a.currentPageLen s < a.pageCapacity) : ¬ a.Spent s :=
  fun spent => Nat.ne_of_lt room (h.spent_iff.1 spent).1

theorem not_spent_of_lt (small : a.pageCapacity < ArenaConfig.maxPageCapacity) : ¬ a.Spent s :=
  fun spent => Nat.ne_of_lt small (h.spent_iff.1 spent).2

/-! ## One attempt -/

theorem attempt_of_room (room : a.currentPageLen s < a.pageCapacity)
    (fits : a.slotsAllocated + 1 < UInt64.size) (n : Binary64) :
    a.attempt n s = .ok (some (a.next s, a.counted)) (a.written n s) := by
  rw [attempt, bind_of_ok (within_of_ok (h.alloc_of_room room n))]
  exact bind_of_ok (within_of_ok (lift_ok (Checked.add_eq_ok fits) _))

theorem attempt_of_full (full : a.currentPageLen s = a.pageCapacity) (unspent : ¬ a.Spent s)
    (n : Binary64) : a.attempt n s = .ok none s := by
  rw [attempt, bind_of_ok (within_of_ok (h.alloc_of_full full unspent n))]
  rfl

theorem attempt_of_spent (spent : a.Spent s) (n : Binary64) :
    a.attempt n s = .error ⟨.overflow .add, a⟩ s :=
  bind_of_error (within_of_error (h.alloc_of_spent spent n))

/-! ## A rollover -/

theorem rollover_of_granted {memory : Memory} (granted : memory (8 * a.pageCapacity) = true)
    (fits : a.pagesAllocated + 1 < UInt64.size) :
    a.rollover memory s = .ok (.ok (a.rolled s)) (a.extended s) := by
  rw [rollover, bind_get, h.capacity, tryNew_of_valid h.valid, if_pos granted]
  show (a.within (Store.add _) >>= _) s = _
  rw [bind_of_ok (within_of_ok (Store.add_eq _ s))]
  exact bind_of_ok (within_of_ok (lift_ok (Checked.add_eq_ok fits) _))

theorem rollover_of_refused {memory : Memory} (refused : memory (8 * a.pageCapacity) = false) :
    a.rollover memory s = .ok (.error (.resourceExhausted (a.pageCapacity * 8))) s := by
  have hbytes : a.config.pageBytes = .ok (a.pageCapacity * 8) :=
    ArenaConfig.pageBytes_of_valid h.valid
  rw [rollover, bind_get, h.capacity, tryNew_of_valid h.valid,
    if_neg (by rw [refused]; exact Bool.false_ne_true)]
  exact bind_of_ok (within_of_ok (lift_ok hbytes s))

/-! ## A slot -/

/-- **A page with room gives its next slot.** -/
theorem allocate_of_room (room : a.currentPageLen s < a.pageCapacity)
    (fits : a.slotsAllocated + 1 < UInt64.size) (memory : Memory) (n : Binary64) :
    a.allocate memory n s = .ok (.ok (a.next s), a.counted) (a.written n s) := by
  rw [allocate, allocateWithin, bind_of_ok (h.attempt_of_room room fits n)]
  rfl

/-- **A full page makes the arena roll over**, and the first slot of the new page is given. -/
theorem allocate_of_granted (full : a.currentPageLen s = a.pageCapacity) (unspent : ¬ a.Spent s)
    {memory : Memory} (granted : memory (8 * a.pageCapacity) = true)
    (pages : a.pagesAllocated + 1 < UInt64.size) (slots : a.slotsAllocated + 1 < UInt64.size)
    (n : Binary64) :
    a.allocate memory n s = .ok (.ok ((a.rolled s).next (a.extended s)), (a.rolled s).counted)
      ((a.rolled s).written n (a.extended s)) := by
  have room : (a.rolled s).currentPageLen (a.extended s) < (a.rolled s).pageCapacity := by
    rw [currentPageLen_rolled]
    exact h.pos
  rw [allocate, allocateWithin, bind_of_ok (h.attempt_of_full full unspent n)]
  show (a.rollover memory >>= _) s = _
  rw [bind_of_ok (h.rollover_of_granted granted pages)]
  show allocateWithin memory n 1 (a.rolled s) (a.extended s) = _
  rw [allocateWithin, bind_of_ok (h.rolled.attempt_of_room room slots n)]
  rfl

/-- **A rollover that is refused changes nothing.** -/
theorem allocate_of_refused (full : a.currentPageLen s = a.pageCapacity) (unspent : ¬ a.Spent s)
    {memory : Memory} (refused : memory (8 * a.pageCapacity) = false) (n : Binary64) :
    a.allocate memory n s = .ok (.error (.resourceExhausted (a.pageCapacity * 8)), a) s := by
  rw [allocate, allocateWithin, bind_of_ok (h.attempt_of_full full unspent n)]
  show (a.rollover memory >>= _) s = _
  rw [bind_of_ok (h.rollover_of_refused refused)]
  rfl

/-- **A spent page ends the request before it could roll over**, and nothing changes. -/
theorem allocate_of_spent (spent : a.Spent s) (memory : Memory) (n : Binary64) :
    a.allocate memory n s = .error ⟨.overflow .add, a⟩ s :=
  bind_of_error (h.attempt_of_spent spent n)

end Ready

end Arena

end Boxing
