import Boxing.Proofs.Storage.Growth
import Boxing.Proofs.Preload.Decision

/-!
# Filling the table

`PreloadTable.collect` puts as many numbers of a list onto a page as there is room for, each into
the slot after the one before it, and leaves out the rest, if the page bears it (`collect_eq`). So a
new page with a slot for each number is filled, and entry `i` of a half stands in slot `i` of its
page (`buildHalf_eq`).

`PreloadTable.Filled t s`: the store `s` holds the table `t` as it was built. `build_eq` makes it
true and `Filled.of_grows` keeps it true.
-/

set_option autoImplicit false

namespace Boxing

/-! ## Several numbers on one page -/

namespace Page

/-- The page with the numbers in the slots after the last. -/
def pushedAll (p : Page) (ns : List Binary64) : Page := ns.foldl pushed p

theorem capacity_pushedAll (p : Page) (ns : List Binary64) :
    (p.pushedAll ns).capacity = p.capacity := by
  induction ns generalizing p with
  | nil => rfl
  | cons n ns ih => exact (ih (p.pushed n)).trans (capacity_pushed p n)

theorem len_pushedAll (p : Page) (ns : List Binary64) :
    (p.pushedAll ns).len = p.len + ns.length := by
  induction ns generalizing p with
  | nil => rfl
  | cons n ns ih =>
    rw [List.length_cons]
    show ((p.pushed n).pushedAll ns).len = _
    rw [ih, len_pushed]
    omega

theorem extends_pushedAll (p : Page) (ns : List Binary64) : p.Extends (p.pushedAll ns) := by
  induction ns generalizing p with
  | nil => exact .refl p
  | cons n ns ih => exact (extends_pushed p n).trans (ih (p.pushed n))

theorem wellFormed_pushedAll {p : Page} {ns : List Binary64} (h : p.WellFormed)
    (fits : p.len + ns.length ≤ p.capacity) : (p.pushedAll ns).WellFormed := by
  refine ⟨?_, ?_⟩
  · rw [len_pushedAll, capacity_pushedAll]
    exact fits
  · rw [capacity_pushedAll]
    exact h.capacity_lt

/-- Each of the numbers is in its slot. -/
theorem get_pushedAll {p : Page} {ns : List Binary64} (fits : p.len + ns.length ≤ p.capacity)
    {i : Nat} {n : Binary64} (hn : ns[i]? = some n) : (p.pushedAll ns).get (p.len + i) = .ok n := by
  induction ns generalizing p i with
  | nil => simp at hn
  | cons head ns ih =>
    rw [List.length_cons] at fits
    cases i with
    | zero =>
      cases hn
      exact (extends_pushedAll (p.pushed n) ns).get (get_pushed_self n (by omega))
    | succ i =>
      have := ih (p := p.pushed head) (by rw [len_pushed, capacity_pushed]; omega) hn
      rw [len_pushed, Nat.add_right_comm] at this
      exact this

/-- The page can be offered `m` numbers without a fault: there is room for all of them, or the page
is not of the greatest size. -/
def Bears (p : Page) (m : Nat) : Prop := m ≤ p.capacity - p.len ∨ ¬ p.Greatest

instance (p : Page) (m : Nat) : Decidable (p.Bears m) := inferInstanceAs (Decidable (_ ∨ _))

end Page

/-- The page of a half with the numbers of the half. -/
def Half.filled (h : Half) : Page := (Page.new h.limit).pushedAll h.numbers

theorem Half.length_numbers (h : Half) : h.numbers.length = h.limit.toNat := by
  simp [Half.numbers]

theorem Half.wellFormed_filled (h : Half) : h.filled.WellFormed :=
  Page.wellFormed_pushedAll (Page.wellFormed_new _) (by simp [Half.numbers])

/-- The numbers of a half read back from its page. -/
theorem Half.get_filled {h : Half} {i : Nat} (hi : i < h.limit.toNat) :
    h.filled.get i = .ok (.ofInt (h.entry i)) := by
  have hn : h.numbers[i]? = some (.ofInt (h.entry i)) := by
    simp [Half.numbers, hi]
  have := Page.get_pushedAll (p := Page.new h.limit) (by simp [Half.numbers]) hn
  rwa [Page.len_new, Nat.zero_add] at this

theorem Half.isFull_filled (h : Half) : h.filled.isFull = .ok true := by
  have hc : h.filled.capacity = h.limit.toNat :=
    (Page.capacity_pushedAll _ _).trans (Page.capacity_new _)
  have hl : h.filled.len = h.limit.toNat := by
    rw [filled, Page.len_pushedAll, Page.len_new, length_numbers, Nat.zero_add]
  rw [h.wellFormed_filled.isFull, hc, hl, decide_eq_true (Nat.le_refl _)]

theorem Store.setPage_setPage (s : Store) (id : PageId) (p q : Page) :
    (s.setPage id p).setPage id q = s.setPage id q := by
  simp [setPage]

namespace PreloadTable

open NumberRef

/-- The references to `k` slots of a page from slot `l` on. -/
def slotsFrom (page : PageRef) (l k : Nat) : List NumberRef := (List.range' l k).map (⟨page, ·⟩)

/-- With room for it, the first number takes the next slot. -/
theorem collect_of_room {page : PageRef} {n : Binary64} {s : Store} (hs : s.WellFormed)
    (room : (s.page page.id).len < (s.page page.id).capacity) (ns : List Binary64) :
    collect page (n :: ns) s = ((⟨page, (s.page page.id).len⟩ :: ·) <$> collect page ns)
      (s.setPage page.id ((s.page page.id).pushed n)) := by
  rcases alloc_cases hs page n with ⟨full, -⟩ | ⟨spent, -⟩ | ⟨-, -, h, -⟩
  · exact absurd room (Nat.not_lt.2 full)
  · exact absurd room (Nat.not_lt.2 ((hs page.id).full_of_spent spent))
  · rw [collect, bind_of_ok h]
    rfl

/-- **The numbers that the page has room for are pushed in order.** The others are left out, unless
the page does not bear so many: then the first of them ends it in a fault. -/
theorem collect_eq (page : PageRef) (ns : List Binary64) {s : Store} (hs : s.WellFormed)
    (made : page.id < s.pages.size) {p : Page} (hp : s.page page.id = p) :
    collect page ns s =
      if p.Bears ns.length then
        .ok (slotsFrom page p.len (min ns.length (p.capacity - p.len)))
          (s.setPage page.id (p.pushedAll (ns.take (p.capacity - p.len))))
      else .error (.overflow .add)
        (s.setPage page.id (p.pushedAll (ns.take (p.capacity - p.len)))) := by
  induction ns generalizing s p with
  | nil =>
    subst hp
    have hsame : s.setPage page.id ((s.page page.id).pushedAll []) = s := Store.setPage_page s _
    rw [if_pos (.inl (Nat.zero_le _)), List.take_nil, List.length_nil, Nat.zero_min, hsame]
    rfl
  | cons n ns ih =>
    subst hp
    by_cases room : (s.page page.id).len < (s.page page.id).capacity
    · -- one number less, for one slot less
      have hnext := ih (Store.wellFormed_setPage hs (Page.wellFormed_pushed n room (hs _)))
        (by simpa [Store.setPage] using made) (Store.page_setPage_self made _)
      obtain ⟨k, hk⟩ : ∃ k, (s.page page.id).capacity - (s.page page.id).len = k + 1 :=
        ⟨_, (Nat.succ_pred_eq_of_pos (by omega)).symm⟩
      have hrest : (s.page page.id).capacity - ((s.page page.id).len + 1) = k := by omega
      have hbears : ((s.page page.id).pushed n).Bears ns.length ↔
          (s.page page.id).Bears (ns.length + 1) := by
        rw [Page.Bears, Page.Bears, Page.Greatest, Page.Greatest, Page.len_pushed,
          Page.capacity_pushed]
        omega
      rw [ite_cond_congr (propext hbears), Page.len_pushed, Page.capacity_pushed, hrest,
        Store.setPage_setPage] at hnext
      rw [collect_of_room hs room, hk, List.take_succ_cons, List.length_cons, Nat.succ_min_succ]
      split at hnext
      · rename_i bears
        rw [map_of_ok hnext, if_pos bears]
        rfl
      · rename_i short
        rw [map_of_error hnext, if_neg short]
        rfl
    · have full := Nat.le_of_not_lt room
      have hsame : s.setPage page.id ((s.page page.id).pushedAll []) = s := Store.setPage_page s _
      rw [Nat.sub_eq_zero_of_le full, List.take_zero, Nat.min_zero, hsame]
      rcases alloc_cases hs page n with ⟨-, fits, h⟩ | ⟨spent, h⟩ | ⟨-, room', -, -⟩
      · have small : ¬ (s.page page.id).Greatest := fun greatest =>
          fits ((hs page.id).spent_iff.2 ⟨full, greatest⟩)
        rw [if_pos (.inr small), collect, bind_of_ok h]
        show collect page ns s = _
        rw [ih hs made rfl, if_pos (.inr small), Nat.sub_eq_zero_of_le full, List.take_zero,
          Nat.min_zero, hsame]
      · have greatest := ((hs page.id).spent_iff.1 spent).2
        rw [collect, bind_of_error h, if_neg]
        rintro (hle | small)
        · rw [Nat.sub_eq_zero_of_le full] at hle
          exact absurd hle (Nat.not_succ_le_zero _)
        · exact small greatest
      · exact absurd room' room

/-- A new page of a half is filled by the numbers of the half. -/
theorem buildHalf_eq (h : Half) {s : Store} (hs : s.WellFormed) :
    buildHalf h s =
      .ok (slotsFrom ⟨s.pages.size, .permanent⟩ 0 h.limit.toNat).toArray
        ⟨s.pages.push h.filled⟩ := by
  have hwf := Store.wellFormed_add hs (Page.wellFormed_new h.limit)
  have made : s.pages.size < (s.pages.push (Page.new h.limit)).size := by simp
  have hcollect := collect_eq ⟨s.pages.size, .permanent⟩ h.numbers hwf made
    (Store.page_push_size s _)
  rw [Page.len_new, Page.capacity_new, h.length_numbers, Nat.sub_zero, Nat.min_self,
    ← h.length_numbers, List.take_length, h.length_numbers] at hcollect
  have hset : Store.setPage ⟨s.pages.push (Page.new h.limit)⟩ s.pages.size h.filled =
      ⟨s.pages.push h.filled⟩ := by
    simp [Store.setPage, Array.setIfInBounds, Array.set_push]
  have hbears : (Page.new h.limit).Bears h.limit.toNat :=
    .inl (by rw [Page.capacity_new, Page.len_new, Nat.sub_zero])
  rw [← Half.filled, hset, if_pos hbears] at hcollect
  show (Store.add (Page.new h.limit) >>= fun id => fill ⟨id, .permanent⟩ h.numbers) s = _
  rw [bind_of_ok (Store.add_eq _ s), fill, bind_of_ok hcollect, bind_get,
    bind_of_ok (lift_ok (by rw [Store.page_push_size, h.isFull_filled]) _)]
  rfl

/-! ## The table in a store -/

end PreloadTable

/-- The page of a half: the halves are the first two pages that are made. -/
def Half.page : Half → PageRef
  | nonNegative => ⟨0, .permanent⟩
  | negative => ⟨1, .permanent⟩

/-- The permanent reference of a small integer. -/
def Half.ref (k : Int) : NumberRef := ⟨(Half.ofInt k).page, Half.index k⟩

namespace PreloadTable

/-- The store holds the table: the entries of each half are the slots of its page in order, and
they read as the integers of the half. -/
structure Filled (t : PreloadTable) (s : Store) : Prop where
  half : ∀ h, t.half h = (slotsFrom h.page 0 h.limit.toNat).toArray
  get : ∀ {k}, -128 ≤ k → k ≤ 255 → (Half.ref k).get s = .ok (.ofInt k)

theorem Filled.of_grows {t : PreloadTable} {s s' : Store} (h : t.Filled s) (hg : s.Grows s') :
    t.Filled s' :=
  ⟨h.half, fun h1 h2 => NumberRef.get_of_grows hg (h.get h1 h2)⟩

/-- The entry of a half at a position is the slot at this position. -/
theorem Filled.getElem? {t : PreloadTable} {s : Store} (ht : t.Filled s) (h : Half) (i : Nat) :
    (t.half h)[i]? = if i < h.limit.toNat then some ⟨h.page, i⟩ else none := by
  rw [ht.half, List.getElem?_toArray, slotsFrom, List.getElem?_map]
  by_cases hi : i < h.limit.toNat
  · rw [if_pos hi, List.getElem?_range' hi]
    simp
  · rw [if_neg hi, List.getElem?_eq_none (by simpa using hi)]
    rfl

theorem Filled.get?_ofInt {t : PreloadTable} {s : Store} (ht : t.Filled s) {k : Int}
    (h1 : -128 ≤ k) (h2 : k ≤ 255) : t.get? (.ofInt k) = .ok (some (Half.ref k)) := by
  rw [t.get?_ofInt h1 h2, ht.getElem?, if_pos (Half.index_lt h1 h2)]
  rfl

/-- A preloaded number has an entry. -/
theorem Filled.exists_entry {t : PreloadTable} {s : Store} (ht : t.Filled s) {n : Binary64}
    (hp : Preloaded n) : ∃ r, t.get? n = .ok (some r) := by
  obtain ⟨k, h1, h2, rfl⟩ := hp
  exact ⟨_, ht.get?_ofInt h1 h2⟩

/-- **An entry reads as the number that it was found for.** -/
theorem Filled.get_of_get? {t : PreloadTable} {s : Store} (ht : t.Filled s) {n : Binary64}
    {r : NumberRef} (hr : t.get? n = .ok (some r)) : r.get s = .ok n := by
  by_cases hp : Preloaded n
  · obtain ⟨k, h1, h2, rfl⟩ := hp
    rw [ht.get?_ofInt h1 h2] at hr
    cases hr
    exact ht.get h1 h2
  · rw [t.get?_of_not_preloaded hp] at hr
    cases hr

/-- The store at the start: one filled page for each half. -/
theorem page_filled (h : Half) : Store.page
    ⟨(Store.empty.pages.push Half.nonNegative.filled).push Half.negative.filled⟩ h.page.id =
      h.filled := by
  cases h with
  | nonNegative =>
    have hfirst : 0 < (Store.empty.pages.push Half.nonNegative.filled).size := Nat.zero_lt_one
    exact (Store.page_push_of_lt (s := ⟨_⟩) hfirst _).trans (Store.page_push_size Store.empty _)
  | negative => exact Store.page_push_size ⟨Store.empty.pages.push _⟩ _

/-- **The table is built on the first two pages**, whatever a program does afterwards. -/
theorem build_eq : ∃ t s, build Store.empty = .ok t s ∧ s.WellFormed ∧ t.Filled s := by
  have hs₁ := Store.wellFormed_add Store.wellFormed_empty Half.nonNegative.wellFormed_filled
  have h₁ := buildHalf_eq .nonNegative Store.wellFormed_empty
  have h₂ := buildHalf_eq .negative hs₁
  refine ⟨_, _, (bind_of_ok h₁).trans (bind_of_ok h₂),
    Store.wellFormed_add hs₁ Half.negative.wellFormed_filled, ?_, ?_⟩
  · intro h
    cases h <;> rfl
  · intro k h1 h2
    show (Store.page _ (Half.ofInt k).page.id).get (Half.index k) = _
    rw [page_filled, Half.get_filled (Half.index_lt h1 h2), Half.entry_index]

end PreloadTable

end Boxing
