import Boxing.Proofs.World.Tenure

/-!
# The loop of attempts

To allocate is a loop: an attempt to take a slot, and a rollover after each attempt that finds the
page full, until one of them ends it. `Arena.Loop` is this loop, which has no bound of its own.
`Arena.allocateWithin` runs it within a bound and agrees with it whenever the bound is great enough
(`Loop.allocateWithin_eq`). Since a new page has a slot, the loop of a ready arena ends after two
attempts and one rollover at the latest (`Ready.loop_of_room`, `Ready.loop_of_granted`,
`Ready.loop_of_refused`), and in one way only (`Loop.unique`). On a spent page the first attempt
ends in a fault, and so does the loop (`Ready.loop_of_spent`).
-/

set_option autoImplicit false

namespace Boxing

namespace Arena

/-- How an allocation ends. -/
abbrev Ending := EStateM.Result Broken Store (Except ArenaError NumberRef × Arena)

/-- The loop ends from the arena and the store in this way, after so many attempts to take a slot
and so many rollovers. A rollover counts whether it is granted or refused. -/
inductive Loop (memory : Memory) (n : Binary64) : Arena → Store → Nat → Nat → Ending → Prop
  | taken {a a' : Arena} {s s' : Store} {r : NumberRef} :
      a.attempt n s = .ok (some (r, a')) s' → Loop memory n a s 1 0 (.ok (.ok r, a') s')
  | broken {a : Arena} {s s' : Store} {b : Broken} :
      a.attempt n s = .error b s' → Loop memory n a s 1 0 (.error b s')
  | refused {a : Arena} {s s₁ s₂ : Store} {e : ArenaError} : a.attempt n s = .ok none s₁ →
      a.rollover memory s₁ = .ok (.error e) s₂ → Loop memory n a s 1 1 (.ok (.error e, a) s₂)
  | brokenRollover {a : Arena} {s s₁ s₂ : Store} {b : Broken} : a.attempt n s = .ok none s₁ →
      a.rollover memory s₁ = .error b s₂ → Loop memory n a s 1 1 (.error b s₂)
  | again {a a₁ : Arena} {s s₁ s₂ : Store} {k j : Nat} {e : Ending} :
      a.attempt n s = .ok none s₁ → a.rollover memory s₁ = .ok (.ok a₁) s₂ →
      Loop memory n a₁ s₂ k j e → Loop memory n a s (k + 1) (j + 1) e

namespace Loop

variable {memory : Memory} {n : Binary64} {a : Arena} {s : Store} {k j k' j' : Nat} {e e' : Ending}

/-- **The loop ends in one way**, by induction on its attempts. -/
theorem unique (h : Loop memory n a s k j e) (h' : Loop memory n a s k' j' e') :
    k' = k ∧ j' = j ∧ e' = e := by
  induction h generalizing k' j' e' with
  | taken ha =>
    cases h' with
    | taken ha' =>
      cases ha.symm.trans ha'
      exact ⟨rfl, rfl, rfl⟩
    | broken ha' | refused ha' _ | brokenRollover ha' _ | again ha' _ _ => cases ha.symm.trans ha'
  | broken ha =>
    cases h' with
    | broken ha' =>
      cases ha.symm.trans ha'
      exact ⟨rfl, rfl, rfl⟩
    | taken ha' | refused ha' _ | brokenRollover ha' _ | again ha' _ _ => cases ha.symm.trans ha'
  | refused ha hr =>
    cases h' with
    | taken ha' | broken ha' => cases ha.symm.trans ha'
    | refused ha' hr' =>
      cases ha.symm.trans ha'
      cases hr.symm.trans hr'
      exact ⟨rfl, rfl, rfl⟩
    | brokenRollover ha' hr' | again ha' hr' _ =>
      cases ha.symm.trans ha'
      cases hr.symm.trans hr'
  | brokenRollover ha hr =>
    cases h' with
    | taken ha' | broken ha' => cases ha.symm.trans ha'
    | brokenRollover ha' hr' =>
      cases ha.symm.trans ha'
      cases hr.symm.trans hr'
      exact ⟨rfl, rfl, rfl⟩
    | refused ha' hr' | again ha' hr' _ =>
      cases ha.symm.trans ha'
      cases hr.symm.trans hr'
  | again ha hr _ ih =>
    cases h' with
    | taken ha' | broken ha' => cases ha.symm.trans ha'
    | refused ha' hr' | brokenRollover ha' hr' =>
      cases ha.symm.trans ha'
      cases hr.symm.trans hr'
    | again ha' hr' hrest =>
      cases ha.symm.trans ha'
      cases hr.symm.trans hr'
      obtain ⟨rfl, rfl, rfl⟩ := ih hrest
      exact ⟨rfl, rfl, rfl⟩

/-- **A bound that is great enough makes no difference.** -/
theorem allocateWithin_eq (h : Loop memory n a s k j e) {bound : Nat} (hk : k ≤ bound) :
    allocateWithin memory n bound a s = e := by
  induction h generalizing bound with
  | taken ha =>
    obtain ⟨m, rfl⟩ := Nat.exists_eq_add_of_le' hk
    exact bind_of_ok ha
  | broken ha =>
    obtain ⟨m, rfl⟩ := Nat.exists_eq_add_of_le' hk
    exact bind_of_error ha
  | refused ha hr =>
    obtain ⟨m, rfl⟩ := Nat.exists_eq_add_of_le' hk
    exact (bind_of_ok ha).trans (bind_of_ok hr)
  | brokenRollover ha hr =>
    obtain ⟨m, rfl⟩ := Nat.exists_eq_add_of_le' hk
    exact (bind_of_ok ha).trans (bind_of_error hr)
  | @again a a₁ s s₁ s₂ k j e ha hr _ ih =>
    obtain ⟨m, rfl⟩ := Nat.exists_eq_add_of_le' hk
    exact (bind_of_ok ha).trans ((bind_of_ok hr).trans (ih (Nat.le_add_left k m)))

end Loop

/-! ## The loop of a ready arena -/

/-- The current page has no room. -/
def Full (a : Arena) (s : Store) : Prop := (s.page a.current).isFull = .ok true

/-- The number of slots that a rollover asks for. -/
def requested (a : Arena) (s : Store) : UInt32 := UInt32.ofNat (s.page a.current).capacity

/-- The memory refuses the page that a rollover asks for. -/
def Denied (memory : Memory) (a : Arena) (s : Store) : Prop :=
  Page.tryNew memory (a.requested s) = none

namespace Ready

variable {a : Arena} {s : Store} (h : Ready a s)
include h

theorem full_iff : a.Full s ↔ a.currentPageLen s = a.pageCapacity := by
  have hle := h.len_le
  have hremaining : (s.page a.current).remaining = .ok (a.pageCapacity - a.currentPageLen s) := by
    rw [Page.remaining, h.capacity]
    exact Checked.sub_eq_ok hle
  rw [Full, Page.isFull, hremaining]
  show Except.ok (a.pageCapacity - a.currentPageLen s == 0) = .ok true ↔ _
  rw [Except.ok.injEq, beq_iff_eq]
  omega

theorem room_of_not_full (room : ¬ a.Full s) : a.currentPageLen s < a.pageCapacity :=
  Nat.lt_of_le_of_ne h.len_le (h.full_iff.not.1 room)

/-- A rollover asks for a page of the arena's capacity. -/
theorem toNat_requested : (a.requested s).toNat = a.pageCapacity := by
  rw [requested, h.capacity]
  exact toNat_of_valid h.valid

theorem denied_iff {memory : Memory} :
    a.Denied memory s ↔ memory (8 * a.pageCapacity) = false := by
  rw [Denied, requested, h.capacity, tryNew_of_valid h.valid]
  cases memory (8 * a.pageCapacity) <;> simp

theorem loop_of_room (room : a.currentPageLen s < a.pageCapacity)
    (fits : a.slotsAllocated + 1 < UInt64.size) (memory : Memory) (n : Binary64) :
    Loop memory n a s 1 0 (.ok (.ok (a.next s), a.counted) (a.written n s)) :=
  .taken (h.attempt_of_room room fits n)

theorem loop_of_granted (full : a.currentPageLen s = a.pageCapacity) (unspent : ¬ a.Spent s)
    {memory : Memory} (granted : memory (8 * a.pageCapacity) = true)
    (pages : a.pagesAllocated + 1 < UInt64.size) (slots : a.slotsAllocated + 1 < UInt64.size)
    (n : Binary64) :
    Loop memory n a s 2 1 (.ok (.ok ((a.rolled s).next (a.extended s)), (a.rolled s).counted)
      ((a.rolled s).written n (a.extended s))) := by
  have room : (a.rolled s).currentPageLen (a.extended s) < (a.rolled s).pageCapacity := by
    rw [currentPageLen_rolled]
    exact h.pos
  exact .again (h.attempt_of_full full unspent n) (h.rollover_of_granted granted pages)
    (h.rolled.loop_of_room room slots memory n)

theorem loop_of_refused (full : a.currentPageLen s = a.pageCapacity) (unspent : ¬ a.Spent s)
    {memory : Memory} (refused : memory (8 * a.pageCapacity) = false) (n : Binary64) :
    Loop memory n a s 1 1 (.ok (.error (.resourceExhausted (a.pageCapacity * 8)), a) s) :=
  .refused (h.attempt_of_full full unspent n) (h.rollover_of_refused refused)

theorem loop_of_spent (spent : a.Spent s) (memory : Memory) (n : Binary64) :
    Loop memory n a s 1 0 (.error ⟨.overflow .add, a⟩ s) :=
  .broken (h.attempt_of_spent spent n)

theorem spent_iff_full : a.Spent s ↔ a.Full s ∧ a.pageCapacity = ArenaConfig.maxPageCapacity := by
  rw [h.spent_iff, h.full_iff]

end Ready

/-! ## What the loop gives -/

/-- The loop gives `r`, which reads as `n`, and leaves the arena `a'`: the slot is on its page, and
one more slot is counted. -/
structure Gives (n : Binary64) (a : Arena) (r : NumberRef) (a' : Arena) (t : Store) : Prop where
  reads : r.get t = .ok n
  page : r.page = ⟨a'.current, .counted⟩
  slots : a'.slotsAllocated = a.slotsAllocated + 1
  config : a'.config = a.config

/-- The end of an allocation on a page that is not spent: an error if the page is full and no other
is to be had, else the next slot of the page, or the first slot of a page that is made for it. -/
structure Exit (memory : Memory) (n : Binary64) (a : Arena) (s : Store) (e : Ending) : Prop where
  error_iff : (∃ err a' t, e = .ok (.error err, a') t) ↔ a.Full s ∧ a.Denied memory s
  /-- The error tells the bytes of the page that was asked for, and nothing has changed. -/
  error : ∀ err a' t, e = .ok (.error err, a') t →
    err = .resourceExhausted (8 * a.pageCapacity) ∧
      8 * a.pageCapacity = 8 * (a.requested s).toNat ∧ a' = a ∧ t = s
  room : ¬ a.Full s → ∃ r a' t, e = .ok (.ok r, a') t ∧ Gives n a r a' t ∧
    r.slot = a.currentPageLen s ∧ a'.current = a.current ∧ a'.pagesAllocated = a.pagesAllocated
  /-- The fresh page has no identifier of a page that was there, and the old page stays. -/
  rolled : a.Full s → ¬ a.Denied memory s → ∃ r a' t, e = .ok (.ok r, a') t ∧ Gives n a r a' t ∧
    r.slot = 0 ∧ a'.current = s.pages.size ∧ a'.pagesAllocated = a.pagesAllocated + 1 ∧
    (t.page a'.current).len = 1 ∧ (t.page a'.current).capacity = (s.page a.current).capacity ∧
    t.page a.current = s.page a.current

variable {memory : Memory} {n : Binary64} {a : Arena} {s : Store}

theorem Ready.gives_next (h : Ready a s) (room : a.currentPageLen s < a.pageCapacity) :
    Gives n a (a.next s) a.counted (a.written n s) := by
  have hroom : (s.page a.current).len < (s.page a.current).capacity := by
    rw [h.capacity]
    exact room
  refine ⟨?_, rfl, rfl, rfl⟩
  show ((a.written n s).page a.current).get (s.page a.current).len = .ok n
  rw [written, Store.page_setPage_self h.made]
  exact Page.get_pushed_self n hroom

/-- A slot is given by an ending that is no error. -/
theorem Exit.of_ok {r : NumberRef} {a' : Arena} {t : Store}
    (given : ¬ (a.Full s ∧ a.Denied memory s))
    (room : ¬ a.Full s → Gives n a r a' t ∧ r.slot = a.currentPageLen s ∧
      a'.current = a.current ∧ a'.pagesAllocated = a.pagesAllocated)
    (rolled : a.Full s → Gives n a r a' t ∧ r.slot = 0 ∧ a'.current = s.pages.size ∧
      a'.pagesAllocated = a.pagesAllocated + 1 ∧ (t.page a'.current).len = 1 ∧
      (t.page a'.current).capacity = (s.page a.current).capacity ∧
      t.page a.current = s.page a.current) :
    Exit memory n a s (.ok (.ok r, a') t) := by
  refine ⟨⟨?_, fun hno => absurd hno given⟩, ?_, fun hroom => ⟨r, a', t, rfl, room hroom⟩,
    fun hfull _ => ⟨r, a', t, rfl, rolled hfull⟩⟩
  · rintro ⟨err, b, u, he⟩
    cases he
  · intro err b u he
    cases he

/-- **The loop of a ready arena ends**, after two attempts and one rollover at the latest. -/
theorem Ready.exists_loop (h : Ready a s) (unspent : ¬ a.Spent s)
    (slots : a.slotsAllocated + 1 < UInt64.size) (pages : a.pagesAllocated + 1 < UInt64.size)
    (memory : Memory) (n : Binary64) :
    ∃ k j e, Loop memory n a s k j e ∧ k ≤ 2 ∧ j ≤ 1 ∧ Exit memory n a s e := by
  by_cases full : a.Full s
  · have hlen := h.full_iff.1 full
    by_cases denied : a.Denied memory s
    · -- refused
      refine ⟨1, 1, _, h.loop_of_refused hlen unspent (h.denied_iff.1 denied) n, by decide,
        by decide, ⟨fun _ => ⟨full, denied⟩, fun _ => ⟨_, _, _, rfl⟩⟩, ?_,
        fun room => absurd full room, fun _ granted => absurd denied granted⟩
      intro err a' t he
      cases he
      exact ⟨by rw [Nat.mul_comm], by rw [h.toNat_requested], rfl, rfl⟩
    · have granted : memory (8 * a.pageCapacity) = true := by
        simpa using h.denied_iff.not.1 denied
      have hempty := currentPageLen_rolled a s
      have room : (a.rolled s).currentPageLen (a.extended s) < (a.rolled s).pageCapacity := by
        rw [hempty]
        exact h.pos
      refine ⟨2, 1, _, h.loop_of_granted hlen unspent granted pages slots n, by decide, by decide,
        .of_ok (fun hno => denied hno.2) (fun hroom => absurd full hroom) fun _ => ?_⟩
      obtain ⟨hreads, hpage, hslots, hconfig⟩ := h.rolled.gives_next (n := n) room
      have hready := h.rolled.counted room n
      refine ⟨⟨hreads, hpage, hslots, hconfig⟩, hempty, rfl, rfl, ?_, ?_, ?_⟩
      · have hnext := h.rolled.currentPageLen_counted n
        rwa [hempty] at hnext
      · exact hready.capacity.trans h.capacity.symm
      · exact (Store.page_setPage_ne _ (Nat.ne_of_lt h.made) _).trans
          (Store.page_push_of_lt h.made _)
  · have room := h.room_of_not_full full
    exact ⟨1, 0, _, h.loop_of_room room slots memory n, by decide, by decide,
      .of_ok (fun hno => full hno.1) (fun _ => ⟨h.gives_next room, rfl, rfl, rfl⟩)
        fun hfull => absurd hfull full⟩

end Arena

namespace World

open Arena (Loop Exit allocateWithin)

/-- **The loop of attempts ends, and how it ends is determined.** Take an arena in any world that a
program reaches, with room in its counters, and any number and memory. The loop has exactly one end,
which is after at most two attempts and at most one rollover, and `Arena.allocate` ends so, as does
the loop within any bound of two or more. Unless the page is spent, it ends in an error if and only
if the page is full and the page that a rollover asks for is refused; the error tells the bytes of
that page, and nothing has changed. Otherwise the number is in the next slot of the page, or in the
first slot of a fresh page of the same capacity. A page is spent if it is full and has the greatest
size, and then the loop ends in a fault at the first attempt, and nothing has changed. -/
theorem allocate_ends_loop {w : World} (hw : w.Reachable) {i : Nat} {a : Arena}
    (ha : w.arenas.content? i = some a) (slots : a.slotsAllocated + 1 < UInt64.size)
    (pages : a.pagesAllocated + 1 < UInt64.size) (memory : Memory) (n : Binary64) :
    ∃ attempts rollovers ending,
      (∀ k j e, Loop memory n a w.store k j e ↔ k = attempts ∧ j = rollovers ∧ e = ending) ∧
      attempts ≤ 2 ∧ rollovers ≤ 1 ∧ a.allocate memory n w.store = ending ∧
      (∀ bound, 2 ≤ bound → allocateWithin memory n bound a w.store = ending) ∧
      (¬ a.Spent w.store → Exit memory n a w.store ending) ∧
      (a.Spent w.store ↔
        a.Full w.store ∧ a.pageCapacity = ArenaConfig.maxPageCapacity) ∧
      (a.Spent w.store → attempts = 1 ∧ rollovers = 0 ∧
        ending = .error ⟨.overflow .add, a⟩ w.store) := by
  obtain ⟨owners, htenure⟩ := hw.tenure
  have hready := (htenure.steady ha).toReady
  have hiff := hready.spent_iff_full
  obtain ⟨attempts, rollovers, ending, hloop, hk, hj, hexit, hspent⟩ :
      ∃ k j e, Loop memory n a w.store k j e ∧ k ≤ 2 ∧ j ≤ 1 ∧
        (¬ a.Spent w.store → Exit memory n a w.store e) ∧
        (a.Spent w.store → k = 1 ∧ j = 0 ∧ e = .error ⟨.overflow .add, a⟩ w.store) := by
    by_cases spent : a.Spent w.store
    · exact ⟨1, 0, _, hready.loop_of_spent spent memory n, by decide, by decide,
        fun unspent => absurd spent unspent, fun _ => ⟨rfl, rfl, rfl⟩⟩
    · obtain ⟨k, j, e, hloop, hk, hj, hexit⟩ := hready.exists_loop spent slots pages memory n
      exact ⟨k, j, e, hloop, hk, hj, fun _ => hexit, fun hs => absurd hs spent⟩
  refine ⟨attempts, rollovers, ending, fun k j e => ⟨hloop.unique, ?_⟩, hk, hj,
    hloop.allocateWithin_eq hk, fun bound hbound => hloop.allocateWithin_eq (hk.trans hbound),
    hexit, hiff, hspent⟩
  rintro ⟨rfl, rfl, rfl⟩
  exact hloop

/-- On a full page of one slot the memory decides between an error and a fresh page. -/
theorem loop_ends_on_a_full_page : ∃ w a, Reachable w ∧ w.arenas.content? 0 = some a ∧
    a.slotsAllocated + 1 < UInt64.size ∧ a.pagesAllocated + 1 < UInt64.size ∧
    a.allocate .exhausted .nan w.store = .ok (.error (.resourceExhausted 8), a) w.store ∧
    ∃ r a' t, a.allocate (.upTo 8) .nan w.store = .ok (.ok r, a') t ∧ r.get t = .ok .nan ∧
      r.page.id = w.store.pages.size ∧ r.slot = 0 := by
  obtain ⟨w, a, h⟩ := exists_filled (c := 1) (by decide)
  obtain ⟨slots, pages⟩ := h.room (Nat.le_refl 1)
  have full : a.Full w.store := by rw [h.ready.full_iff, h.len, h.pageCapacity]
  have unspent : ¬ a.Spent w.store := h.ready.not_spent_of_lt (by rw [h.pageCapacity]; decide)
  obtain ⟨-, -, e, -, -, -, hend, -, hexit, -⟩ :=
    allocate_ends_loop h.reachable h.content slots pages .exhausted .nan
  obtain ⟨-, -, e', -, -, -, hend', -, hexit', -⟩ :=
    allocate_ends_loop h.reachable h.content slots pages (.upTo 8) .nan
  refine ⟨w, a, h.reachable, h.content, slots, pages, ?_, ?_⟩
  · obtain ⟨err, a', t, he⟩ := (hexit unspent).error_iff.2 ⟨full, h.ready.denied_iff.2 rfl⟩
    obtain ⟨rfl, -, rfl, rfl⟩ := (hexit unspent).error err a' t he
    rw [hend, he, h.pageCapacity]
  · have granted : ¬ a.Denied (.upTo 8) w.store := by
      rw [h.ready.denied_iff, h.pageCapacity]
      decide
    obtain ⟨r, a', t, he, hgives, hslot, hcurrent, -⟩ := (hexit' unspent).rolled full granted
    refine ⟨r, a', t, hend'.trans he, hgives.reads, ?_, hslot⟩
    rw [hgives.page, ← hcurrent]

/-- A full page of the greatest size is not left: there is neither an error nor a fresh page. -/
theorem loop_breaks_on_the_greatest_page : ∃ w a, Reachable w ∧ w.arenas.content? 0 = some a ∧
    a.slotsAllocated + 1 < UInt64.size ∧ a.pagesAllocated + 1 < UInt64.size ∧ a.Full w.store ∧
    ∀ memory n, a.allocate memory n w.store = .error ⟨.overflow .add, a⟩ w.store := by
  obtain ⟨w, a, h⟩ := exists_filled (c := ArenaConfig.maxPageCapacity) (by decide)
  obtain ⟨slots, pages⟩ := h.room (Nat.le_refl _)
  have full : a.Full w.store := by rw [h.ready.full_iff, h.len, h.pageCapacity]
  have spent : a.Spent w.store := h.ready.spent_iff_full.2 ⟨full, h.pageCapacity⟩
  exact ⟨w, a, h.reachable, h.content, slots, pages, full, h.ready.allocate_of_spent spent⟩

end World

end Boxing
