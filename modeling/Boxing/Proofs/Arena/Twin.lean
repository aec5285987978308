import Boxing.Proofs.World.Act

/-!
# One arena in two stores

Two stores may hold pages that stand for one another (`Pairs`), so that the same arena can live in
both, with another page of the same content (`Arena.Twin`). A request then does the same in both:
it is answered alike (`Alike`), and twins are left (`Twin.respond`). What else is in the stores
makes no difference.
-/

set_option autoImplicit false

namespace Boxing

/-- `M` relates pages of `s` and of `t` that stand for one another. -/
structure Pairs (M : PageId → PageId → Prop) (s t : Store) : Prop where
  made : ∀ {p q}, M p q → p < s.pages.size ∧ q < t.pages.size
  iff : ∀ {p q p' q'}, M p q → M p' q' → (p = p' ↔ q = q')

namespace Pairs

variable {M : PageId → PageId → Prop} {s s' t t' : Store}

theorem mono (h : Pairs M s t) (hs : s.pages.size ≤ s'.pages.size)
    (ht : t.pages.size ≤ t'.pages.size) : Pairs M s' t' := by
  refine ⟨fun hpq => ?_, h.iff⟩
  obtain ⟨hp, hq⟩ := h.made hpq
  exact ⟨Nat.lt_of_lt_of_le hp hs, Nat.lt_of_lt_of_le hq ht⟩

/-- The pages that are made next stand for one another too. -/
def Next (M : PageId → PageId → Prop) (s t : Store) (p q : PageId) : Prop :=
  M p q ∨ (p = s.pages.size ∧ q = t.pages.size)

theorem next (h : Pairs M s t) (hs : s.pages.size < s'.pages.size)
    (ht : t.pages.size < t'.pages.size) : Pairs (Next M s t) s' t' := by
  refine ⟨?_, ?_⟩
  · rintro p q (hpq | ⟨rfl, rfl⟩)
    · exact (h.mono (Nat.le_of_lt hs) (Nat.le_of_lt ht)).made hpq
    · exact ⟨hs, ht⟩
  · rintro p q p' q' (hpq | ⟨rfl, rfl⟩) (hpq' | ⟨rfl, rfl⟩)
    · exact h.iff hpq hpq'
    · obtain ⟨hp, hq⟩ := h.made hpq
      simp [Nat.ne_of_lt hp, Nat.ne_of_lt hq]
    · obtain ⟨hp, hq⟩ := h.made hpq'
      simp [Nat.ne_of_gt hp, Nat.ne_of_gt hq]
    · simp

end Pairs

/-- Two answers of one kind: the references name the same slot of pages that stand for one
another. -/
inductive Alike (M : PageId → PageId → Prop) :
    Except Failure NumberRef → Except Failure NumberRef → Prop
  | ok {r q : NumberRef} : M r.page.id q.page.id → q.page.lifetime = r.page.lifetime →
      q.slot = r.slot → Alike M (.ok r) (.ok q)
  | error (f : Failure) : Alike M (.error f) (.error f)

theorem Alike.mono {M M' : PageId → PageId → Prop} (hM : ∀ {p q}, M p q → M' p q)
    {x y : Except Failure NumberRef} (h : Alike M x y) : Alike M' x y := by
  cases h with
  | ok hp hl hs => exact .ok (hM hp) hl hs
  | error f => exact .error f

namespace Arena

/-- The arena `a` in the store `s` is the arena `b` in the store `t`, up to the place of the
page. -/
structure Twin (M : PageId → PageId → Prop) (a : Arena) (s : Store) (b : Arena) (t : Store) :
    Prop where
  config : b.config = a.config
  pages : b.pagesAllocated = a.pagesAllocated
  slots : b.slotsAllocated = a.slotsAllocated
  page : t.page b.current = s.page a.current
  paired : M a.current b.current

theorem size_given (n : Binary64) (a : Arena) (s : Store) :
    (given n a s).store.pages.size = s.pages.size := by
  unfold given
  split <;> simp [written, Store.setPage]

namespace Twin

variable {M M' : PageId → PageId → Prop} {a b : Arena} {s s' t t' : Store}

theorem stats (h : Twin M a s b t) : b.stats t = a.stats s := by
  simp only [Arena.stats, currentPageLen, pageCapacity, h.config, h.pages, h.slots, h.page]

theorem frame (h : Twin M a s b t) (hM : ∀ {p q}, M p q → M' p q)
    (hs : s'.page a.current = s.page a.current) (ht : t'.page b.current = t.page b.current) :
    Twin M' a s' b t' :=
  ⟨h.config, h.pages, h.slots, by rw [ht, hs, h.page], hM h.paired⟩

theorem of_made (M : PageId → PageId → Prop) (c : Nat) (p : Page) (s t : Store) :
    Twin (Pairs.Next M s t) ⟨⟨c⟩, s.pages.size, 1, 0⟩ ⟨s.pages.push p⟩
      ⟨⟨c⟩, t.pages.size, 1, 0⟩ ⟨t.pages.push p⟩ :=
  ⟨rfl, rfl, rfl, by rw [Store.page_push_size, Store.page_push_size], .inr ⟨rfl, rfl⟩⟩

theorem currentPageLen (h : Twin M a s b t) : b.currentPageLen t = a.currentPageLen s := by
  rw [Arena.currentPageLen, h.page, Arena.currentPageLen]

theorem pageCapacity (h : Twin M a s b t) : b.pageCapacity = a.pageCapacity := by
  rw [Arena.pageCapacity, h.config, Arena.pageCapacity]

theorem written (h : Twin M a s b t) (ha : a.current < s.pages.size)
    (hb : b.current < t.pages.size) (n : Binary64) :
    Twin M a (a.written n s) b (b.written n t) := by
  refine ⟨h.config, h.pages, h.slots, ?_, h.paired⟩
  rw [Arena.written, Store.page_setPage_self hb, Arena.written, Store.page_setPage_self ha, h.page]

theorem counted (h : Twin M a s b t) : Twin M a.counted s b.counted t :=
  ⟨h.config, h.pages, congrArg (· + 1) h.slots, h.page, h.paired⟩

theorem rolled (h : Twin M a s b t) : Twin (Pairs.Next M s t) (a.rolled s) (a.extended s)
    (b.rolled t) (b.extended t) := by
  refine ⟨h.config, congrArg (· + 1) h.pages, h.slots, ?_, .inr ⟨rfl, rfl⟩⟩
  show (b.extended t).page t.pages.size = (a.extended s).page s.pages.size
  rw [extended, Store.page_push_size, extended, Store.page_push_size, h.pageCapacity]

/-- A new page takes the place of the current one, and is not counted. -/
theorem moved (h : Twin M a s b t) : Twin (Pairs.Next M s t) (a.moved s) (a.extended s)
    (b.moved t) (b.extended t) := by
  refine ⟨h.config, h.pages, h.slots, ?_, .inr ⟨rfl, rfl⟩⟩
  show (b.extended t).page t.pages.size = (a.extended s).page s.pages.size
  rw [extended, Store.page_push_size, extended, Store.page_push_size, h.pageCapacity]

theorem spent_iff (h : Twin M a s b t) : b.Spent t ↔ a.Spent s := by
  rw [Arena.Spent, h.page, Arena.Spent]

/-- Twins give the same slot, or break off. -/
theorem given (h : Twin M a s b t) (ha : a.current < s.pages.size)
    (hb : b.current < t.pages.size) (n : Binary64) :
    Alike M (given n a s).result (given n b t).result ∧
      Twin M (Arena.given n a s).arena (Arena.given n a s).store
        (Arena.given n b t).arena (Arena.given n b t).store := by
  unfold Arena.given
  rw [h.slots]
  split
  · exact ⟨.ok h.paired rfl h.currentPageLen, (h.written ha hb n).counted⟩
  · exact ⟨.error _, h.written ha hb n⟩

/-- **A request does the same to twins**: it is answered alike and leaves twins. -/
theorem respond (h : Twin M a s b t) (hp : Pairs M s t) (ha : Ready a s) (hb : Ready b t)
    {table : PreloadTable} (hs : table.Filled s) (ht : table.Filled t)
    (hhalf : ∀ half : Half, M half.page.id half.page.id) (q : Request) :
    ∃ M', (∀ {p p'}, M p p' → M' p p') ∧
      Pairs M' (a.respond table q s).store (b.respond table q t).store ∧
      Alike M' (a.respond table q s).result (b.respond table q t).result ∧
      Twin M' (a.respond table q s).arena (a.respond table q s).store
        (b.respond table q t).arena (b.respond table q t).store := by
  by_cases hw : q.WantsSlot
  · rw [ha.respond_eq hw, hb.respond_eq hw, h.currentPageLen, h.pageCapacity, h.pages]
    simp only [h.spent_iff]
    have hgrow_a : s.pages.size < (a.extended s).pages.size := by simp [extended]
    have hgrow_b : t.pages.size < (b.extended t).pages.size := by simp [extended]
    split
    · -- both pages have room
      refine ⟨M, id, hp.mono ?_ ?_, h.given ha.made hb.made _⟩
      · rw [size_given]
      · rw [size_given]
    · split
      · exact ⟨M, id, hp, .error _, h⟩
      · split
        · split
          · -- both roll over, and the new pages stand for one another
            refine ⟨Pairs.Next M s t, .inl, hp.next ?_ ?_, h.rolled.given ha.rolled.made
              hb.rolled.made _⟩
            · rw [size_given]
              exact hgrow_a
            · rw [size_given]
              exact hgrow_b
          · -- so do the new pages that cannot be counted
            exact ⟨Pairs.Next M s t, .inl, hp.next hgrow_a hgrow_b, .error _, h.moved⟩
        · exact ⟨M, id, hp, .error _, h⟩
  · obtain ⟨r, hget, hrespond⟩ := respond_of_shared (a := a) hs hw
    obtain ⟨r', hget', hrespond'⟩ := respond_of_shared (a := b) ht hw
    obtain rfl : r = r' := Option.some.inj (Except.ok.inj (hget.symm.trans hget'))
    obtain ⟨half, hpage⟩ := hs.page_of_get? hget
    rw [hrespond, hrespond']
    exact ⟨M, id, hp, .ok (by rw [hpage]; exact hhalf half) rfl rfl, h⟩

end Twin

end Arena

end Boxing
