import Boxing.Proofs.Preload.Fill

/-!
# Numbers and slots side by side

`PreloadTable.fill` leaves out a number that finds the page full, and says nothing of it. What keeps
the entries in step with the slots is that a full page stays full: only the last numbers can be left
out, so each number before them is in the slot of its own position (`PreloadTable.Aligned`). The
page may be in use already. A list that is too short for it is found out, because it leaves room,
and a list that is too long is not (`fill_aligned`), unless the page has the greatest size
(`fill_breaks_on_the_greatest_page`).
-/

set_option autoImplicit false

namespace Boxing

namespace PreloadTable

/-- On a page with `l` slots in use and `r` slots left, the first of the numbers, as many as fit,
are in the slots from `l` on, and `refs` are the references to them. Nothing else has changed. -/
structure Aligned (page : PageRef) (l r : Nat) (numbers : List Binary64) (s t : Store)
    (refs : List NumberRef) : Prop where
  count : refs.length = min numbers.length r
  /-- Each number that fits has the reference at its position, to the slot at its position. -/
  entry : ∀ {i n}, numbers[i]? = some n → i < r → ∃ ref, refs[i]? = some ref ∧
    ref.isCanonical = true ∧ ref.page = page ∧ ref.slot = l + i ∧ ref.get t = .ok n
  len : (t.page page.id).len = l + min numbers.length r
  /-- The slots that were in use read as before. -/
  earlier : (s.page page.id).Extends (t.page page.id)
  size : t.pages.size = s.pages.size
  others : ∀ id, id ≠ page.id → t.page id = s.page id

theorem getElem?_slotsFrom (page : PageRef) (l : Nat) {k i : Nat} (h : i < k) :
    (slotsFrom page l k)[i]? = some ⟨page, l + i⟩ := by
  rw [slotsFrom, List.getElem?_map, List.getElem?_range' h, Nat.one_mul]
  rfl

theorem length_slotsFrom (page : PageRef) (l k : Nat) : (slotsFrom page l k).length = k := by
  rw [slotsFrom, List.length_map, List.length_range']

variable {s : Store} {page : PageRef} {l r : Nat}

/-- How a push ends on a full page: it is refused, or the page is spent. -/
def refusal {α : Type} (p : Page) (s : Store) : EStateM.Result Fault Store (Option α) :=
  if p.Greatest then .error (.overflow .add) s else .ok none s

theorem refusal_congr {p q : Page} (h : q.capacity = p.capacity) {α : Type} (s : Store) :
    (refusal q s : EStateM.Result Fault Store (Option α)) = refusal p s := by
  have hiff : q.Greatest ↔ p.Greatest := by rw [Page.Greatest, Page.Greatest, h]
  exact ite_cond_congr (propext hiff)

/-- A full page is full for ever, and takes no number in whatever store comes later. -/
theorem refused_of_full {t later : Store} (ht : (t.page page.id).WellFormed)
    (full : (t.page page.id).capacity ≤ (t.page page.id).len) (made : page.id < t.pages.size)
    (hlater : later.WellFormed) (hgrows : t.Grows later) (n : Binary64) :
    Store.onPage page.id (Page.push n) later = refusal (t.page page.id) later ∧
      NumberRef.alloc page n later = refusal (t.page page.id) later := by
  have hfull := ht.full_of_extends full (hgrows.page made)
  have hspent := (hlater page.id).spent_iff
  rw [← refusal_congr (hgrows.page made).capacity, ← refusal_congr (hgrows.page made).capacity]
  unfold refusal
  rcases Store.push_cases hlater page.id n with ⟨-, fits, h⟩ | ⟨spent, h⟩ | ⟨-, room, -⟩
  · have small := fun greatest => fits (hspent.2 ⟨hfull, greatest⟩)
    rw [if_neg small, if_neg small]
    exact ⟨h, bind_of_ok h⟩
  · have greatest := (hspent.1 spent).2
    rw [if_pos greatest, if_pos greatest]
    exact ⟨h, bind_of_error h⟩
  · exact absurd room (Nat.not_lt.2 hfull)

/-- A spent page does not take part in filling. -/
theorem fill_of_spent (hs : s.WellFormed) (spent : (s.page page.id).Spent) (n : Binary64)
    (rest : List Binary64) : fill page (n :: rest) s = .error (.overflow .add) s := by
  rcases NumberRef.alloc_cases hs page n with ⟨-, fits, -⟩ | ⟨-, h⟩ | ⟨-, room, -⟩
  · exact absurd spent fits
  · exact bind_of_error (bind_of_error h)
  · exact absurd room (Nat.not_lt.2 ((hs page.id).full_of_spent spent))

section
variable (hs : s.WellFormed) (made : page.id < s.pages.size) (hl : (s.page page.id).len = l)
  (hr : (s.page page.id).remaining = .ok r) (numbers : List Binary64)
include hs made hl hr

theorem collect_aligned (hlife : page.lifetime = .permanent) :
    ∃ refs t, collect page numbers s =
        (if (s.page page.id).Bears numbers.length then .ok refs t
          else .error (.overflow .add) t) ∧
      t.WellFormed ∧ Aligned page l r numbers s t refs := by
  subst hl
  obtain rfl : (s.page page.id).capacity - (s.page page.id).len = r :=
    Except.ok.inj ((hs page.id).remaining.symm.trans hr)
  have hle := (hs page.id).len_le
  generalize hp : s.page page.id = p at *
  have hcollect := collect_eq page numbers hs made hp
  have htake : (numbers.take (p.capacity - p.len)).length =
      min numbers.length (p.capacity - p.len) := by rw [List.length_take, Nat.min_comm]
  have fits : p.len + (numbers.take (p.capacity - p.len)).length ≤ p.capacity := by omega
  have hpage := Store.page_setPage_self made (p.pushedAll (numbers.take (p.capacity - p.len)))
  refine ⟨_, _, hcollect, Store.wellFormed_setPage hs
    (Page.wellFormed_pushedAll (hp ▸ hs page.id) fits), ?_⟩
  refine ⟨length_slotsFrom _ _ _, fun {i n} hn hi => ?_, ?_, ?_, by simp [Store.setPage],
    fun id hid => Store.page_setPage_ne s hid _⟩
  · have hlt := (List.getElem?_eq_some_iff.1 hn).1
    refine ⟨_, getElem?_slotsFrom page p.len (Nat.lt_min.2 ⟨hlt, hi⟩), ?_, rfl, rfl, ?_⟩
    · rw [NumberRef.isCanonical, hlife]
      rfl
    · rw [NumberRef.get, hpage]
      exact Page.get_pushedAll fits (by rw [List.getElem?_take_of_lt hi, hn])
  · rw [hpage, Page.len_pushedAll, htake]
  · rw [hpage, hp]
    exact Page.extends_pushedAll p _

/-- **Entries, slots and numbers stay side by side.** Fill a permanent page with any numbers, when
`l` of its slots are in use and `r` are left. Of the numbers those before position `r` are put into
the slots from `l` on, each with its reference at its own position, and the others are left out. The
references are answered if there are numbers enough for all slots; a slot that is left breaks the
filling off. Nothing else does, unless the page is of the greatest size: there the first number that
finds no room ends it in a fault. A filled page takes no number that is pushed onto it in any later
store. If it was empty and had a slot for each number, entry `i` is slot `i`. -/
theorem fill_aligned (hlife : page.lifetime = .permanent) :
    ∃ (refs : List NumberRef) (t : Store), Aligned page l r numbers s t refs ∧
      (numbers.length ≤ r ∨ ¬ (s.page page.id).Greatest →
        collect page numbers s = .ok refs t ∧ fill page numbers s =
          if r ≤ numbers.length then .ok refs.toArray t else .error .unfilledPage t) ∧
      (r < numbers.length ∧ (s.page page.id).Greatest →
        collect page numbers s = .error (.overflow .add) t ∧
        fill page numbers s = .error (.overflow .add) t) ∧
      (r ≤ numbers.length → ∀ later : Store, later.WellFormed → t.Grows later → ∀ n,
        Store.onPage page.id (Page.push n) later = refusal (s.page page.id) later ∧
        NumberRef.alloc page n later = refusal (s.page page.id) later) ∧
      (l = 0 → r = numbers.length → refs.length = numbers.length ∧
        ∀ (i : Nat) (ref : NumberRef), refs[i]? = some ref → ref.slot = i ∧ ref.page = page) := by
  obtain ⟨refs, t, hcollect, ht, h⟩ := collect_aligned hs made hl hr numbers hlife
  have hcap := h.earlier.capacity
  have hleft := Except.ok.inj ((hs page.id).remaining.symm.trans hr)
  have hroom : (s.page page.id).capacity = l + r := by
    have hle := (hs page.id).len_le
    omega
  have hfull : (t.page page.id).capacity ≤ (t.page page.id).len ↔ r ≤ numbers.length := by
    rw [hcap, h.len, hroom]
    omega
  refine ⟨refs, t, h, fun bears => ?_, fun ⟨short, greatest⟩ => ?_,
    fun henough later hlater hgrows n => ?_, fun h0 hm => ?_⟩
  · rw [if_pos (show (s.page page.id).Bears _ by rwa [Page.Bears, hleft])] at hcollect
    refine ⟨hcollect, ?_⟩
    rw [fill, bind_of_ok hcollect, bind_get, bind_of_ok (lift_ok (ht page.id).isFull t)]
    by_cases henough : r ≤ numbers.length
    · rw [if_pos henough, if_pos (decide_eq_true (hfull.2 henough))]
      rfl
    · rw [if_neg henough, if_neg (by simpa using hfull.not.2 henough)]
      rfl
  · rw [if_neg] at hcollect
    · exact ⟨hcollect, bind_of_error hcollect⟩
    · rw [Page.Bears, hleft]
      rintro (hle | small)
      · exact absurd short (Nat.not_lt.2 hle)
      · exact small greatest
  · have hrefused := refused_of_full (ht page.id) (hfull.2 henough) (h.size ▸ made) hlater hgrows n
    rwa [refusal_congr hcap, refusal_congr hcap] at hrefused
  · have hcount : refs.length = numbers.length := by rw [h.count, hm, Nat.min_self]
    refine ⟨hcount, fun i ref href => ?_⟩
    have hi : i < numbers.length := hcount ▸ (List.getElem?_eq_some_iff.1 href).1
    obtain ⟨ref', href', -, hpage, hslot, -⟩ := h.entry (List.getElem?_eq_getElem hi) (hm ▸ hi)
    obtain rfl : ref' = ref := Option.some.inj (href'.symm.trans href)
    exact ⟨by rw [hslot, h0, Nat.zero_add], hpage⟩

end

/-- Two of three numbers find room on a page of three slots with one in use; a single one leaves a
slot, which breaks the filling off. -/
theorem fill_page_of_three :
    ∃ refs t t', fill ⟨0, .permanent⟩ [.nan, .infinity true, .zero]
        ⟨#[(Page.new 3).pushed .zero]⟩ = .ok refs t ∧
      refs.size = 2 ∧ (NumberRef.mk ⟨0, .permanent⟩ 2).get t = .ok (.infinity true) ∧
      fill ⟨0, .permanent⟩ [.nan] ⟨#[(Page.new 3).pushed .zero]⟩ = .error .unfilledPage t' := by
  have hs : Store.WellFormed ⟨#[(Page.new 3).pushed .zero]⟩ :=
    Store.wellFormed_add Store.wellFormed_empty
      (Page.wellFormed_pushed _ (by decide) (Page.wellFormed_new 3))
  have hlife : (PageRef.mk 0 .permanent).lifetime = .permanent := rfl
  obtain ⟨refs, t, h, hborne, -, -, -⟩ := fill_aligned (l := 1) (r := 2) hs (by decide) rfl rfl
    [.nan, .infinity true, .zero] hlife
  obtain ⟨_, t', -, hborne', -, -, -⟩ := fill_aligned (l := 1) (r := 2) hs (by decide) rfl rfl
    [.nan] hlife
  obtain ⟨-, hfill⟩ := hborne (.inr (by decide))
  obtain ⟨-, hfill'⟩ := hborne' (.inr (by decide))
  rw [if_pos (by decide)] at hfill
  rw [if_neg (by decide)] at hfill'
  obtain ⟨⟨refPage, refSlot⟩, -, -, hpage, hslot, hread⟩ := h.entry (i := 1) rfl (by decide)
  cases hpage
  cases hslot
  exact ⟨refs.toArray, t, t', hfill, by simpa using h.count, hread, hfill'⟩

/-- On a full page of the greatest size the number that is too many is not left out. -/
theorem fill_breaks_on_the_greatest_page :
    ∃ s, s = ⟨#[(Page.new 4294967295).pushedAll (List.replicate 4294967295 .zero)]⟩ ∧
      (s.page 0).remaining = .ok 0 ∧
      fill ⟨0, .permanent⟩ [.nan] s = .error (.overflow .add) s := by
  have hfull {c : UInt32} {k : Nat} (hk : c.toNat = k) (greatest : UInt32.size ≤ k + 1) {p : Page}
      (hp : p = (Page.new c).pushedAll (List.replicate k .zero)) :
      (Store.page ⟨#[p]⟩ 0).remaining = .ok 0 ∧
        fill ⟨0, .permanent⟩ [.nan] ⟨#[p]⟩ = .error (.overflow .add) ⟨#[p]⟩ := by
    have hcap : p.capacity = k := by rw [hp, Page.capacity_pushedAll, Page.capacity_new, hk]
    have hlen : p.len = k := by
      rw [hp, Page.len_pushedAll, Page.len_new, List.length_replicate, Nat.zero_add]
    have hwf : p.WellFormed := ⟨by rw [hlen, hcap], by rw [hcap, ← hk]; exact c.toNat_lt⟩
    refine ⟨?_, fill_of_spent (Store.wellFormed_add Store.wellFormed_empty hwf) ?_ .nan []⟩
    · show p.remaining = .ok 0
      rw [hwf.remaining, hcap, hlen, Nat.sub_self]
    · show UInt32.size ≤ p.len + 1
      rw [hlen]
      exact greatest
  have hc : (4294967295 : UInt32).toNat = 4294967295 := rfl
  exact ⟨_, rfl, hfull hc (by decide) rfl⟩

end PreloadTable

end Boxing
