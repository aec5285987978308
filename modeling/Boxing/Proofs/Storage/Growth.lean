import Boxing.Proofs.Action
import Boxing.Value.Basic

/-!
# How the store grows

No action takes a slot back or writes it twice: whatever reads in a store reads the same in every
later one. `Page.Extends p q` says it of a page, `Store.Grows s t` of a store; a store grows by new
empty pages (`grows_add`) and by one more slot of a page (`push_cases`). `Store.Leads s t` adds that
well-formed pages stay so, which makes it a preorder that every action on the store keeps.

`NumberRef.Fresh`: a reference that read nothing before and now reads a number. A reference that
`NumberRef.alloc` gives is fresh (`alloc_cases`).
-/

set_option autoImplicit false

namespace Boxing

/-! ## Pages -/

namespace Page

/-- `q` is `p` with perhaps more slots handed out. -/
structure Extends (p q : Page) : Prop where
  capacity : q.capacity = p.capacity
  get : ∀ {i n}, p.get i = .ok n → q.get i = .ok n

theorem Extends.refl (p : Page) : p.Extends p := ⟨rfl, id⟩

theorem Extends.trans {p q r : Page} (h₁ : p.Extends q) (h₂ : q.Extends r) : p.Extends r :=
  ⟨h₂.capacity.trans h₁.capacity, fun h => h₂.get (h₁.get h)⟩

theorem get_eq_ok_iff {p : Page} {i : Nat} {n : Binary64} :
    p.get i = .ok n ↔ i < p.len ∧ p.slots[i]? = some n := by
  refine ⟨fun h => ?_, fun h => get_of_lt h.1 h.2⟩
  unfold get at h
  split at h
  · rename_i hi
    split at h
    · rename_i hn
      cases h
      exact ⟨hi, hn⟩
    · cases h
  · cases h

namespace WellFormed

variable {p : Page} (h : p.WellFormed)
include h

theorem get_of_lt {slot : Nat} (hs : slot < p.len) : ∃ n, p.get slot = .ok n := by
  have hsize : slot < p.slots.size := Nat.lt_of_lt_of_le hs h.len_le
  exact ⟨_, Page.get_of_lt hs (Array.getElem?_eq_getElem hsize)⟩

theorem remaining : p.remaining = .ok (p.capacity - p.len) := Checked.sub_eq_ok h.len_le

theorem isFull : p.isFull = .ok (decide (p.capacity ≤ p.len)) := by
  have hiff : (p.capacity - p.len == 0) = decide (p.capacity ≤ p.len) := by
    rw [Bool.beq_eq_decide_eq, decide_eq_decide]
    exact Nat.sub_eq_zero_iff_le
  rw [Page.isFull, h.remaining, ← hiff]
  rfl

/-- A full page stays full. -/
theorem full_of_extends {q : Page} (full : p.capacity ≤ p.len) (hq : p.Extends q) :
    q.capacity ≤ q.len := by
  rw [hq.capacity]
  rcases Nat.eq_zero_or_pos p.capacity with h0 | hpos
  · rw [h0]
    exact Nat.zero_le _
  · -- its last slot reads in every later page
    have hlt : p.capacity - 1 < p.len := by omega
    obtain ⟨n, hn⟩ := h.get_of_lt hlt
    have hlast := (get_eq_ok_iff.1 (hq.get hn)).1
    omega

end WellFormed

/-- The page with `n` in the slot after the last. -/
def pushed (p : Page) (n : Binary64) : Page := ⟨p.slots.setIfInBounds p.len n, p.len + 1⟩

@[simp] theorem len_pushed (p : Page) (n : Binary64) : (p.pushed n).len = p.len + 1 := rfl

@[simp] theorem capacity_pushed (p : Page) (n : Binary64) : (p.pushed n).capacity = p.capacity := by
  simp [pushed, capacity]

section
variable {p : Page} (n : Binary64) (room : p.len < p.capacity)
include room

/-- A page with room takes the number into the slot after the last. -/
theorem push_of_room (h : p.WellFormed) : push n p = .ok (some p.len) (p.pushed n) := by
  rw [push_of_lt h n room]
  simp only [pushed, Array.setIfInBounds]
  rw [dif_pos (show p.len < p.slots.size from room)]

theorem wellFormed_pushed (h : p.WellFormed) : (p.pushed n).WellFormed :=
  ⟨by rw [len_pushed, capacity_pushed]; exact room, by rw [capacity_pushed]; exact h.capacity_lt⟩

theorem get_pushed_self : (p.pushed n).get p.len = .ok n := by
  refine get_eq_ok_iff.2 ⟨Nat.lt_succ_self _, ?_⟩
  show (p.slots.setIfInBounds p.len n)[p.len]? = some n
  rw [Array.getElem?_setIfInBounds_self, if_pos (show p.len < p.slots.size from room)]

end

theorem extends_pushed (p : Page) (n : Binary64) : p.Extends (p.pushed n) := by
  refine ⟨capacity_pushed p n, fun h => ?_⟩
  obtain ⟨hi, hn⟩ := get_eq_ok_iff.1 h
  refine get_eq_ok_iff.2 ⟨Nat.lt_succ_of_lt hi, ?_⟩
  show (p.slots.setIfInBounds p.len n)[_]? = _
  rw [Array.getElem?_setIfInBounds_ne (by omega), hn]

end Page

/-! ## Stores -/

namespace Store

/-- Every page is well formed. -/
def WellFormed (s : Store) : Prop := ∀ id, (s.page id).WellFormed

/-- `t` is `s` with perhaps more slots handed out and more pages. -/
structure Grows (s t : Store) : Prop where
  size : s.pages.size ≤ t.pages.size
  page : ∀ {id}, id < s.pages.size → (s.page id).Extends (t.page id)

theorem Grows.refl (s : Store) : s.Grows s := ⟨Nat.le_refl _, fun _ => .refl _⟩

theorem Grows.trans {s t u : Store} (h₁ : s.Grows t) (h₂ : t.Grows u) : s.Grows u :=
  ⟨Nat.le_trans h₁.size h₂.size, fun h =>
    (h₁.page h).trans (h₂.page (Nat.lt_of_lt_of_le h h₁.size))⟩

theorem page_of_le {s : Store} {id : PageId} (h : s.pages.size ≤ id) : s.page id = default := by
  rw [page, Array.getElem?_eq_none h]
  rfl

/-- Only pages that were made can be read. -/
theorem lt_of_get {s : Store} {id : PageId} {i : Nat} {n : Binary64}
    (h : (s.page id).get i = .ok n) : id < s.pages.size := by
  apply Nat.lt_of_not_le
  intro hc
  rw [page_of_le hc] at h
  exact absurd (Page.get_eq_ok_iff.1 h).1 (Nat.not_lt_zero _)

theorem Grows.get {s t : Store} (h : s.Grows t) {id : PageId} {i : Nat} {n : Binary64}
    (hn : (s.page id).get i = .ok n) : (t.page id).get i = .ok n :=
  (h.page (lt_of_get hn)).get hn

theorem wellFormed_empty : empty.WellFormed := fun id => by
  rw [page_of_le (Nat.zero_le _)]
  exact Page.wellFormed_new 0

/-! ## The ways to grow -/

theorem grows_add (s : Store) (p : Page) : s.Grows ⟨s.pages.push p⟩ := by
  refine ⟨by simp, fun h => ?_⟩
  rw [page_push_of_lt h]
  exact .refl _

theorem wellFormed_add {s : Store} {p : Page} (hs : s.WellFormed) (hp : p.WellFormed) :
    Store.WellFormed ⟨s.pages.push p⟩ := by
  intro id
  rcases Nat.lt_trichotomy id s.pages.size with hl | rfl | hg
  · rw [page_push_of_lt hl]
    exact hs id
  · rw [page_push_size]
    exact hp
  · rw [page_of_le (by simp; omega)]
    exact Page.wellFormed_new 0

theorem grows_setPage {s : Store} {id : PageId} {p : Page} (h : (s.page id).Extends p) :
    s.Grows (s.setPage id p) := by
  refine ⟨by simp [setPage], fun {other} ho => ?_⟩
  by_cases he : other = id
  · subst he
    rw [page_setPage_self ho]
    exact h
  · rw [page_setPage_ne s he]
    exact .refl _

theorem wellFormed_setPage {s : Store} {id : PageId} {p : Page} (hs : s.WellFormed)
    (hp : p.WellFormed) : (s.setPage id p).WellFormed := by
  intro other
  by_cases he : other = id
  · subst he
    by_cases hl : other < s.pages.size
    · rw [page_setPage_self hl]
      exact hp
    · rw [page_of_le (by simpa [setPage] using hl)]
      exact Page.wellFormed_new 0
  · rw [page_setPage_ne s he]
    exact hs other

/-- A step from a well-formed store to a greater one that is well formed. -/
def Leads (s t : Store) : Prop := s.WellFormed → t.WellFormed ∧ s.Grows t

instance : IsPreorder Store Leads where
  refl s h := ⟨h, .refl s⟩
  trans _ _ _ h₁ h₂ h := ⟨(h₂ (h₁ h).1).1, (h₁ h).2.trans (h₂ (h₁ h).1).2⟩

theorem keeps_add {p : Page} (h : p.WellFormed) : Keeps Leads (add p) :=
  fun s hs => ⟨wellFormed_add hs h, grows_add s p⟩

/-- A page takes one more number, or it is full and stays as it is, with or without a fault. -/
theorem push_cases {s : Store} (hs : s.WellFormed) (id : PageId) (n : Binary64) :
    ((s.page id).capacity ≤ (s.page id).len ∧ ¬ (s.page id).Spent ∧
        onPage id (Page.push n) s = .ok none s) ∨
      ((s.page id).Spent ∧ onPage id (Page.push n) s = .error (.overflow .add) s) ∨
      (id < s.pages.size ∧ (s.page id).len < (s.page id).capacity ∧
        onPage id (Page.push n) s =
          .ok (some (s.page id).len) (s.setPage id ((s.page id).pushed n))) := by
  by_cases made : id < s.pages.size
  · by_cases room : (s.page id).len < (s.page id).capacity
    · exact .inr (.inr ⟨made, room, onPage_eq_ok made (Page.push_of_room n room (hs id))⟩)
    · have full := Nat.le_of_not_lt room
      by_cases spent : (s.page id).Spent
      · refine .inr (.inl ⟨spent, ?_⟩)
        rw [onPage_eq_error made (Page.push_of_spent n spent), setPage_page]
      · refine .inl ⟨full, spent, ?_⟩
        rw [onPage_eq_ok made (Page.push_of_full n full spent), setPage_page]
  · -- a page that was never made is read as one without slots
    have hp : s.page id = default := page_of_le (Nat.le_of_not_lt made)
    have fits : ¬ (default : Page).Spent := by decide
    refine .inl ⟨by rw [hp]; exact Nat.le_refl _, by rwa [hp], ?_⟩
    simp only [onPage, dif_neg made, Page.push_of_full n (p := default) (Nat.le_refl _) fits]

theorem keeps_push (id : PageId) (n : Binary64) : Keeps Leads (onPage id (Page.push n)) := by
  intro s hs
  rcases push_cases hs id n with ⟨-, -, h⟩ | ⟨-, h⟩ | ⟨-, room, h⟩
  · rw [h]
    exact ⟨hs, .refl s⟩
  · rw [h]
    exact ⟨hs, .refl s⟩
  · rw [h]
    exact ⟨wellFormed_setPage hs (Page.wellFormed_pushed n room (hs id)),
      grows_setPage (Page.extends_pushed _ n)⟩

end Store

/-! ## References -/

namespace NumberRef

theorem get_of_grows {s t : Store} (h : s.Grows t) {r : NumberRef} {n : Binary64}
    (hn : r.get s = .ok n) : r.get t = .ok n := h.get hn

/-- `r` could not be read in `s` and reads `n` in `t`. -/
structure Fresh (s t : Store) (r : NumberRef) (n : Binary64) : Prop where
  before : ∀ m, r.get s ≠ .ok m
  after : r.get t = .ok n

/-- What is fresh after more has been made was fresh before. -/
theorem Fresh.of_grows {s t u : Store} {r : NumberRef} {n : Binary64} (h : s.Grows t)
    (hf : Fresh t u r n) : Fresh s u r n :=
  ⟨fun m hm => hf.before m (get_of_grows h hm), hf.after⟩

/-- **A page gives its next slot, which is fresh, or it is full and nothing changes.** -/
theorem alloc_cases {s : Store} (hs : s.WellFormed) (page : PageRef) (n : Binary64) :
    ((s.page page.id).capacity ≤ (s.page page.id).len ∧ ¬ (s.page page.id).Spent ∧
        alloc page n s = .ok none s) ∨
      ((s.page page.id).Spent ∧ alloc page n s = .error (.overflow .add) s) ∨
      (page.id < s.pages.size ∧ (s.page page.id).len < (s.page page.id).capacity ∧
        alloc page n s = .ok (some ⟨page, (s.page page.id).len⟩)
          (s.setPage page.id ((s.page page.id).pushed n)) ∧
        Fresh s (s.setPage page.id ((s.page page.id).pushed n))
          ⟨page, (s.page page.id).len⟩ n) := by
  rcases Store.push_cases hs page.id n with ⟨full, fits, h⟩ | ⟨spent, h⟩ | ⟨made, room, h⟩
  · exact .inl ⟨full, fits, bind_of_ok h⟩
  · exact .inr (.inl ⟨spent, bind_of_error h⟩)
  · refine .inr (.inr ⟨made, room, bind_of_ok h, fun m hm => ?_, ?_⟩)
    · exact absurd (Page.get_eq_ok_iff.1 hm).1 (Nat.lt_irrefl _)
    · rw [get, Store.page_setPage_self made]
      exact Page.get_pushed_self n room

theorem keeps_alloc (page : PageRef) (n : Binary64) : Keeps Store.Leads (alloc page n) :=
  keeps_bind (Store.keeps_push page.id n) fun _ => keeps_pure _

end NumberRef

end Boxing
