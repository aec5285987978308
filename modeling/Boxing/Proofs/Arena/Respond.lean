import Boxing.Proofs.Arena.Serve

/-!
# All ends of a request

`Ready.respond_eq` has all ends of a request for a slot, the faults included: a spent page leaves
everything as it is, a counter that overflows leaves a slot or a page that is not counted.

`Arena.Steady` is what an arena is in whatever state: ready, with no more slots in use on its page
and no more pages than it gave slots. A request keeps it and touches no page but the current one
(`Steady.effect`).
-/

set_option autoImplicit false

namespace Boxing

/-- `t` differs from `s` at most in the page `id` and in pages that are new. -/
structure Store.Frame (id : PageId) (s t : Store) : Prop where
  size : s.pages.size ≤ t.pages.size
  page : ∀ {other}, other < s.pages.size → other ≠ id → t.page other = s.page other

namespace Store.Frame

theorem refl (id : PageId) (s : Store) : Frame id s s := ⟨Nat.le_refl _, fun _ _ => rfl⟩

theorem trans {id : PageId} {s t u : Store} (h₁ : Frame id s t) (h₂ : Frame id t u) :
    Frame id s u :=
  ⟨Nat.le_trans h₁.size h₂.size, fun ho hne =>
    (h₂.page (Nat.lt_of_lt_of_le ho h₁.size) hne).trans (h₁.page ho hne)⟩

theorem add (id : PageId) (s : Store) (p : Page) : Frame id s ⟨s.pages.push p⟩ :=
  ⟨by simp, fun ho _ => page_push_of_lt ho p⟩

theorem setPage (id : PageId) (s : Store) (p : Page) : Frame id s (s.setPage id p) :=
  ⟨by simp [Store.setPage], fun _ hne => page_setPage_ne s hne p⟩

end Store.Frame

namespace Arena

/-- The end of a request that gets the next slot of `a`, if the slots can be counted. -/
def given (n : Binary64) (a : Arena) (s : Store) : Response :=
  if a.slotsAllocated + 1 < UInt64.size then ⟨.ok (.ok (a.next s)), a.counted, a.written n s⟩
  else ⟨.error (.overflow .add), a, a.written n s⟩

/-- The arena on a new page that is not counted. -/
def moved (a : Arena) (s : Store) : Arena := { a with current := s.pages.size }

variable {table : PreloadTable} {q : Request} {a : Arena} {s : Store}

/-! ## Other pages -/

theorem Ready.frame (h : Ready a s) {t : Store} (ht : t.WellFormed) {id : PageId}
    (hf : Store.Frame id s t) (hne : a.current ≠ id) : Ready a t := by
  refine ⟨ht, h.valid, Nat.lt_of_lt_of_le h.made hf.size, ?_⟩
  rw [hf.page h.made hne]
  exact h.capacity

theorem Ready.currentPageLen_frame (h : Ready a s) {t : Store} {id : PageId}
    (hf : Store.Frame id s t) (hne : a.current ≠ id) : a.currentPageLen t = a.currentPageLen s := by
  rw [currentPageLen, hf.page h.made hne, currentPageLen]

/-! ## Counters that overflow -/

namespace Ready

variable (h : Ready a s)
include h

theorem attempt_of_overflow (room : a.currentPageLen s < a.pageCapacity)
    (overflows : ¬ a.slotsAllocated + 1 < UInt64.size) (n : Binary64) :
    a.attempt n s = .error ⟨.overflow .add, a⟩ (a.written n s) := by
  rw [attempt, bind_of_ok (within_of_ok (h.alloc_of_room room n))]
  exact bind_of_error (within_of_error (lift_error (Checked.add_eq_error overflows) _))

theorem rollover_of_overflow {memory : Memory} (granted : memory (8 * a.pageCapacity) = true)
    (overflows : ¬ a.pagesAllocated + 1 < UInt64.size) :
    a.rollover memory s = .error ⟨.overflow .add, a.moved s⟩ (a.extended s) := by
  rw [rollover, bind_get, h.capacity, tryNew_of_valid h.valid, if_pos granted]
  show (a.within (Store.add _) >>= _) s = _
  rw [bind_of_ok (within_of_ok (Store.add_eq _ s))]
  exact bind_of_error (within_of_error (lift_error (Checked.add_eq_error overflows) _))

theorem allocateWithin_of_room (room : a.currentPageLen s < a.pageCapacity) (memory : Memory)
    (n : Binary64) (k : Nat) : allocateWithin memory n (k + 1) a s =
      if a.slotsAllocated + 1 < UInt64.size then .ok (.ok (a.next s), a.counted) (a.written n s)
      else .error ⟨.overflow .add, a⟩ (a.written n s) := by
  split
  · rename_i fits
    rw [allocateWithin, bind_of_ok (h.attempt_of_room room fits n)]
    rfl
  · rename_i overflows
    exact bind_of_error (h.attempt_of_overflow room overflows n)

theorem allocate_of_full (full : a.currentPageLen s = a.pageCapacity) (unspent : ¬ a.Spent s)
    (memory : Memory) (n : Binary64) : a.allocate memory n s = (a.rollover memory >>= fun rolled =>
      match rolled with
      | .error e => pure (.error e, a)
      | .ok a => allocateWithin memory n 1 a) s :=
  bind_of_ok (h.attempt_of_full full unspent n)

end Ready

/-! ## The ends -/

theorem respond_of_given {n : Binary64} {b : Arena} {t : Store}
    (h : a.serve table q s =
      if b.slotsAllocated + 1 < UInt64.size then .ok (.ok (b.next t), b.counted) (b.written n t)
      else .error ⟨.overflow .add, b⟩ (b.written n t)) :
    a.respond table q s = given n b t := by
  by_cases fits : b.slotsAllocated + 1 < UInt64.size
  · rw [if_pos fits] at h
    rw [given, if_pos fits, respond_of_ok h]
  · rw [if_neg fits] at h
    rw [given, if_neg fits, respond_of_error h]

theorem full_of_not_room (h : Ready a s) (room : ¬ a.currentPageLen s < a.pageCapacity) :
    a.currentPageLen s = a.pageCapacity :=
  Nat.le_antisymm h.len_le (Nat.le_of_not_lt room)

/-- **All ends of a request for a slot.** -/
theorem Ready.respond_eq (h : Ready a s) (hw : q.WantsSlot) : a.respond table q s =
    if a.currentPageLen s < a.pageCapacity then given q.number a s
    else if a.Spent s then ⟨.error (.overflow .add), a, s⟩
    else if q.memory (8 * a.pageCapacity) = true then
      if a.pagesAllocated + 1 < UInt64.size then given q.number (a.rolled s) (a.extended s)
      else ⟨.error (.overflow .add), a.moved s, a.extended s⟩
    else ⟨.ok (.error (.resourceExhausted (a.pageCapacity * 8))), a, s⟩ := by
  have hserve := serve_of_wantsSlot (a := a) (s := s) table hw
  by_cases room : a.currentPageLen s < a.pageCapacity
  · rw [if_pos room]
    exact respond_of_given (hserve.trans (h.allocateWithin_of_room room _ _ 1))
  · rw [if_neg room]
    by_cases spent : a.Spent s
    · rw [if_pos spent]
      exact respond_of_error (hserve.trans (h.allocate_of_spent spent q.memory q.number))
    · have full := full_of_not_room h room
      have hfull := hserve.trans (h.allocate_of_full full spent q.memory q.number)
      rw [if_neg spent]
      by_cases granted : q.memory (8 * a.pageCapacity) = true
      · rw [if_pos granted]
        by_cases fits : a.pagesAllocated + 1 < UInt64.size
        · -- the second attempt is on an empty page, which has room
          rw [if_pos fits]
          have hempty : (a.rolled s).currentPageLen (a.extended s) < (a.rolled s).pageCapacity := by
            rw [currentPageLen_rolled]
            exact h.pos
          refine respond_of_given (hfull.trans ?_)
          rw [bind_of_ok (h.rollover_of_granted granted fits)]
          exact (h.rolled.allocateWithin_of_room hempty q.memory q.number 0)
        · rw [if_neg fits]
          exact respond_of_error (hfull.trans (bind_of_error (h.rollover_of_overflow granted fits)))
      · rw [if_neg granted]
        refine respond_of_ok (hserve.trans (h.allocate_of_refused full spent ?_ q.number))
        simpa using granted

theorem page_of_given {b : Arena} {n : Binary64} {t : Store} {r : NumberRef}
    (h : (given n b t).answer = .ok (.ok r)) :
    r.page = ⟨(given n b t).arena.current, .counted⟩ := by
  unfold given at h ⊢
  split at h
  · rename_i fits
    rw [if_pos fits]
    cases h
    rfl
  · cases h

theorem Ready.page_of_answer (h : Ready a s) (hw : q.WantsSlot) {r : NumberRef}
    (hr : (a.respond table q s).answer = .ok (.ok r)) :
    r.page = ⟨(a.respond table q s).arena.current, .counted⟩ := by
  rw [h.respond_eq hw] at hr ⊢
  split at hr
  · rename_i room
    rw [if_pos room]
    exact page_of_given hr
  · rename_i room
    rw [if_neg room]
    split at hr
    · cases hr
    · rename_i unspent
      rw [if_neg unspent]
      split at hr
      · rename_i granted
        rw [if_pos granted]
        split at hr
        · rename_i fits
          rw [if_pos fits]
          exact page_of_given hr
        · cases hr
      · cases hr

/-- **A reference that is answered reads as the number**, and it is on the page of the arena or is
the entry of the number. -/
theorem Ready.respond_ok (h : Ready a s) (ht : table.Filled s) {r : NumberRef}
    (hr : (a.respond table q s).answer = .ok (.ok r)) :
    r.get (a.respond table q s).store = .ok q.number ∧
      (r.page = ⟨(a.respond table q s).arena.current, .counted⟩ ∨
        table.get? q.number = .ok (some r)) := by
  by_cases hw : q.WantsSlot
  · refine ⟨?_, .inl (h.page_of_answer hw hr)⟩
    rcases hserve : a.serve table q s with ⟨⟨answer, a'⟩, s'⟩ | ⟨b, s'⟩
    · rw [respond_of_ok hserve] at hr ⊢
      cases hr
      rw [serve_of_wantsSlot table hw] at hserve
      exact (allocateWithin_ok h.store hserve).after
    · rw [respond_of_error hserve] at hr
      cases hr
  · obtain ⟨e, hget, hserve⟩ := serve_of_shared (a := a) ht hw
    rw [respond_of_ok hserve] at hr ⊢
    cases hr
    exact ⟨ht.get_of_get? hget, .inr hget⟩

/-! ## Steady arenas -/

/-- The slots in use on the current page and the pages are among the slots that were given. -/
structure Steady (a : Arena) (s : Store) : Prop extends Ready a s where
  len_le_slots : a.currentPageLen s ≤ a.slotsAllocated
  pages_le : a.pagesAllocated ≤ max 1 a.slotsAllocated

namespace Steady

theorem of_made {c : Nat} (hs : s.WellFormed) (valid : ArenaConfig.validate ⟨c⟩ = .ok ()) :
    Steady ⟨⟨c⟩, s.pages.size, 1, 0⟩ ⟨s.pages.push (Page.new (UInt32.ofNat c))⟩ := by
  have hready := Ready.of_added (a := ⟨⟨c⟩, s.pages.size, 1, 0⟩) hs valid rfl
  exact ⟨hready, Nat.le_of_eq (currentPageLen_of_added rfl), Nat.le_refl 1⟩

theorem frame (h : Steady a s) {t : Store} (ht : t.WellFormed) {id : PageId}
    (hf : Store.Frame id s t) (hne : a.current ≠ id) : Steady a t := by
  refine ⟨h.toReady.frame ht hf hne, ?_, h.pages_le⟩
  rw [h.currentPageLen_frame hf hne]
  exact h.len_le_slots

/-- A full page has a slot, so there are no more pages than slots. -/
theorem pages_le_slots (h : Steady a s) (full : a.currentPageLen s = a.pageCapacity) :
    a.pagesAllocated ≤ a.slotsAllocated := by
  have hpos := h.pos
  have hlen := h.len_le_slots
  have hpages := h.pages_le
  omega

theorem counted (h : Steady a s) (room : a.currentPageLen s < a.pageCapacity) (n : Binary64) :
    Steady a.counted (a.written n s) := by
  refine ⟨h.toReady.counted room n, ?_, ?_⟩
  · rw [h.currentPageLen_counted n]
    exact Nat.succ_le_succ h.len_le_slots
  · have := h.pages_le
    show a.pagesAllocated ≤ max 1 (a.slotsAllocated + 1)
    omega

/-- A slot that is not counted. -/
theorem written (h : Steady a s) (room : a.currentPageLen s < a.pageCapacity)
    (overflows : ¬ a.slotsAllocated + 1 < UInt64.size) (n : Binary64) :
    Steady a (a.written n s) := by
  have hready := h.toReady.counted room n
  refine ⟨⟨hready.store, hready.valid, hready.made, hready.capacity⟩, ?_, h.pages_le⟩
  -- a page is too short for its length to pass a counter that overflows
  have hlen := h.currentPageLen_counted n
  have hcap := (ArenaConfig.validate_eq_ok_iff.1 h.valid).2
  change a.currentPageLen (a.written n s) = _ at hlen
  change a.pageCapacity < UInt32.size at hcap
  unfold UInt32.size at hcap
  unfold UInt64.size at overflows
  omega

theorem rolled (h : Steady a s) (full : a.currentPageLen s = a.pageCapacity) (n : Binary64) :
    Steady (a.rolled s).counted ((a.rolled s).written n (a.extended s)) := by
  have hempty := currentPageLen_rolled a s
  have hready := h.toReady.rolled
  have hpages := h.pages_le_slots full
  refine ⟨hready.counted (by rw [hempty]; exact h.pos) n, ?_, ?_⟩
  · rw [hready.currentPageLen_counted n, hempty]
    exact Nat.succ_le_succ (Nat.zero_le _)
  · show a.pagesAllocated + 1 ≤ max 1 (a.slotsAllocated + 1)
    omega

/-- A page that is counted for a slot that is not. -/
theorem rolled_of_overflow (h : Steady a s) (fits : a.pagesAllocated + 1 < UInt64.size)
    (overflows : ¬ a.slotsAllocated + 1 < UInt64.size) : Steady (a.rolled s) (a.extended s) := by
  refine ⟨h.toReady.rolled, ?_, ?_⟩
  · rw [currentPageLen_rolled]
    exact Nat.zero_le _
  · show a.pagesAllocated + 1 ≤ max 1 a.slotsAllocated
    omega

/-- A page that is not counted. -/
theorem moved (h : Steady a s) : Steady (a.moved s) (a.extended s) := by
  refine ⟨.of_added (a := a.moved s) h.store h.valid rfl, ?_, h.pages_le⟩
  rw [show (a.moved s).currentPageLen (a.extended s) = 0 from
    currentPageLen_of_added (a := a.moved s) rfl]
  exact Nat.zero_le _

end Steady

/-- What a request does to the store and to the arena that its holder has. -/
structure Effect (a : Arena) (s : Store) (r : Response) : Prop where
  steady : r.arena.Steady r.store
  config : r.arena.config = a.config
  frame : Store.Frame a.current s r.store
  current : r.arena.current = a.current ∨ r.arena.current = s.pages.size

theorem frame_written (a : Arena) (n : Binary64) (s : Store) :
    Store.Frame a.current s (a.written n s) := .setPage _ _ _

theorem frame_rolled (a : Arena) (n : Binary64) (s : Store) (id : PageId) :
    Store.Frame id s ((a.rolled s).written n (a.extended s)) := by
  refine ⟨by simp [written, extended, Store.setPage], fun {other} ho hne => ?_⟩
  refine (Store.page_setPage_ne _ ?_ _).trans (Store.page_push_of_lt ho _)
  exact Nat.ne_of_lt ho

/-- A request that leaves everything as it was. -/
theorem Steady.effect_kept (h : Steady a s) (answer : Answer) : Effect a s ⟨answer, a, s⟩ :=
  ⟨h, rfl, .refl _ s, .inl rfl⟩

/-- **A request keeps the arena steady**, and of all pages it touches the current one only. -/
theorem Steady.effect (h : Steady a s) (ht : table.Filled s) (q : Request) :
    Effect a s (a.respond table q s) := by
  by_cases hw : q.WantsSlot
  · rw [h.respond_eq hw]
    split
    · rename_i room
      unfold given
      split
      · exact ⟨h.counted room _, rfl, frame_written a _ s, .inl rfl⟩
      · rename_i overflows
        exact ⟨h.written room overflows _, rfl, frame_written a _ s, .inl rfl⟩
    · rename_i room
      split
      · exact h.effect_kept _
      · have full := full_of_not_room h.toReady room
        split
        · split
          · rename_i fits
            unfold given
            split
            · exact ⟨h.rolled full q.number, rfl, frame_rolled a _ s _, .inr rfl⟩
            · rename_i overflows
              have hempty : (a.rolled s).currentPageLen (a.extended s) < a.pageCapacity := by
                rw [currentPageLen_rolled]
                exact h.pos
              exact ⟨(h.rolled_of_overflow fits overflows).written hempty overflows _, rfl,
                frame_rolled a _ s _, .inr rfl⟩
          · exact ⟨h.moved, rfl, .add _ s _, .inr rfl⟩
        · exact h.effect_kept _
  · obtain ⟨r, -, hrespond⟩ := respond_of_shared (a := a) ht hw
    rw [hrespond]
    exact h.effect_kept _

end Arena

end Boxing
