import Boxing.Proofs.Storage.Growth
import Boxing.Storage.Race
import Mathlib.Data.List.Perm.Basic
import Mathlib.Data.List.Sort
import Mathlib.Data.List.Range

/-!
# A race loses and duplicates nothing

`Writer.Move` is what one step of a writer can do (`step_moves`): it looks at the length, finds that
it changed, claims the next slot, is refused, writes its slot, or answers. A writer *holds* the
slots that its pushes own, each with the number it wrote there, if it did so already. A step leaves
the holdings alone, adds the next slot to them, or notes a number (`Move.holdings`).

`Race.Fair` is the invariant: the slots held are those below the length, each held once, and what
was written there reads back. It is kept by every step (`Fair.step`), however the writers take
turns, so it holds after every schedule (`Fair.run`).
-/

set_option autoImplicit false

namespace Boxing

/-! ## Holdings -/

/-- The slot that a push of `n` owns, with what it has written there. -/
def Stage.holding (n : Binary64) : Stage → List (Nat × Option Binary64)
  | .looking _ => []
  | .claimed slot => [(slot, none)]
  | .written slot => [(slot, some n)]

namespace Writer

/-- The slots that the pushes of a writer own: the one under way, and those that are over. -/
def holdings (w : Writer) : List (Nat × Option Binary64) :=
  (w.active.elim [] fun push => push.stage.holding push.number) ++
    w.answers.filterMap fun answer => answer.2.map fun slot => (slot, some answer.1)

/-- The numbers of a writer in order: those answered, the one under way, and those that wait. -/
def numbers (w : Writer) : List Binary64 :=
  w.answers.reverse.map Prod.fst ++ (w.active.map Push.number).toList ++ w.waiting

/-! ## Steps of a writer -/

/-- What one step of the writer `w` can do before the page `p`. -/
inductive Move (w : Writer) (p : Page) : Writer → Page → Prop
  | rest : w.active = none → w.waiting = [] → Move w p w p
  | look {n : Binary64} {rest : List Binary64} : w.active = none → w.waiting = n :: rest →
      Move w p { w with waiting := rest, active := some ⟨n, .looking p.len⟩ } p
  | retry {n : Binary64} {seen : Nat} : w.active = some ⟨n, .looking seen⟩ →
      Move w p { w with active := some ⟨n, .looking p.len⟩ } p
  | claim {n : Binary64} : w.active = some ⟨n, .looking p.len⟩ → p.len < p.capacity →
      Move w p { w with active := some ⟨n, .claimed p.len⟩ } ⟨p.slots, p.len + 1⟩
  | refuse {n : Binary64} {seen : Nat} : w.active = some ⟨n, .looking seen⟩ → p.capacity ≤ seen →
      Move w p (w.finish n none) p
  | write {n : Binary64} {slot : Nat} : w.active = some ⟨n, .claimed slot⟩ →
      Move w p { w with active := some ⟨n, .written slot⟩ }
        ⟨p.slots.setIfInBounds slot n, p.len⟩
  | answer {n : Binary64} {slot : Nat} : w.active = some ⟨n, .written slot⟩ →
      Move w p (w.finish n (some slot)) p

variable {w w' : Writer} {p p' : Page}

theorem advance_of_eq (p : Page) (next : Nat) :
    Page.advance p.len next p = .ok true ⟨p.slots, next⟩ := if_pos rfl

theorem next_of_room (hp : p.WellFormed) {seen : Nat} (room : seen < p.capacity) :
    Checked.add UInt32.size seen 1 = .ok (seen + 1) :=
  Checked.add_eq_ok (Nat.lt_of_le_of_lt room hp.capacity_lt)

theorem store_of_lt {slot : Nat} (h : slot < p.capacity) (n : Binary64) :
    Page.store slot n p = .ok () ⟨p.slots.setIfInBounds slot n, p.len⟩ := by
  have h : slot < p.slots.size := h
  simp [Page.store, Array.setIfInBounds, h]

/-- A look at a page with room claims the slot that was seen if it still is the next one. -/
theorem step_looking (hp : p.WellFormed) {n : Binary64} {seen : Nat}
    (hactive : w.active = some ⟨n, .looking seen⟩) (room : seen < p.capacity) (spurious : Bool) :
    ∃ w' p', w.step spurious p = .ok w' p' ∧ Move w p w' p' := by
  simp only [step, hactive]
  rw [bind_get, if_pos room, bind_of_ok (lift_ok (next_of_room hp room) p)]
  cases spurious with
  | true => exact ⟨_, _, rfl, .retry hactive⟩
  | false =>
    by_cases hseen : p.len = seen
    · subst hseen
      exact ⟨_, _, bind_of_ok (advance_of_eq p _), .claim hactive room⟩
    · have hstays : Page.advance seen (seen + 1) p = .ok false p := if_neg hseen
      exact ⟨_, _, bind_of_ok hstays, .retry hactive⟩

theorem step_moves (hp : p.WellFormed)
    (hslot : ∀ n slot, w.active = some ⟨n, .claimed slot⟩ → slot < p.capacity) (spurious : Bool) :
    ∃ w' p', w.step spurious p = .ok w' p' ∧ Move w p w' p' := by
  rcases hactive : w.active with _ | ⟨n, seen | slot | slot⟩
  · rcases hwaiting : w.waiting with _ | ⟨n, rest⟩
    · exact ⟨_, _, by simp only [step, hactive, hwaiting]; rfl, .rest hactive hwaiting⟩
    · exact ⟨_, _, by simp only [step, hactive, hwaiting]; rfl, .look hactive hwaiting⟩
  · by_cases room : seen < p.capacity
    · exact step_looking hp hactive room spurious
    · refine ⟨_, _, ?_, .refuse hactive (Nat.le_of_not_lt room)⟩
      simp only [step, hactive]
      rw [bind_get, if_neg room]
      rfl
  · refine ⟨_, _, ?_, .write hactive⟩
    simp only [step, hactive]
    rw [bind_of_ok (store_of_lt (hslot n slot hactive) n)]
    rfl
  · exact ⟨_, _, by simp only [step, hactive]; rfl, .answer hactive⟩

/-- The steps of a writer that nobody disturbs are a push, unless the page is spent. -/
theorem steps_alone (hp : p.WellFormed) (fits : ¬ p.Spent) (n : Binary64) :
    ∃ slot p', Page.push n p = .ok slot p' ∧
      (do (← (← (← (ofNumbers [n]).step false).step false).step false).step false :
        PageM Writer) p = .ok ⟨[], none, [(n, slot)]⟩ p' := by
  have hlook : (ofNumbers [n]).step false p = .ok ⟨[], some ⟨n, .looking p.len⟩, []⟩ p := rfl
  rw [bind_of_ok hlook]
  by_cases room : p.len < p.capacity
  · have hclaim : step ⟨[], some ⟨n, .looking p.len⟩, []⟩ false p =
        .ok ⟨[], some ⟨n, .claimed p.len⟩, []⟩ ⟨p.slots, p.len + 1⟩ := by
      simp only [step]
      rw [bind_get, if_pos room, bind_of_ok (lift_ok (next_of_room hp room) p)]
      exact bind_of_ok (advance_of_eq p _)
    have hwrite : step ⟨[], some ⟨n, .claimed p.len⟩, []⟩ false ⟨p.slots, p.len + 1⟩ =
        .ok ⟨[], some ⟨n, .written p.len⟩, []⟩ (p.pushed n) :=
      bind_of_ok (store_of_lt (p := ⟨p.slots, p.len + 1⟩) room n)
    refine ⟨_, _, Page.push_of_room n room hp, ?_⟩
    rw [bind_of_ok hclaim, bind_of_ok hwrite]
    rfl
  · have hrefuse : step ⟨[], some ⟨n, .looking p.len⟩, []⟩ false p =
        .ok ⟨[], none, [(n, none)]⟩ p := by
      simp only [step]
      rw [bind_get, if_neg room]
      rfl
    refine ⟨_, _, Page.push_of_full n (Nat.le_of_not_lt room) fits, ?_⟩
    rw [bind_of_ok hrefuse]
    rfl

namespace Move

theorem numbers (h : Move w p w' p') : w'.numbers = w.numbers := by
  cases h <;> simp_all [Writer.numbers, finish]

theorem page (h : Move w p w' p') : p'.capacity = p.capacity ∧ p.len ≤ p'.len := by
  cases h <;> simp [Page.capacity]

/-- An answer that was given stays. -/
theorem answers (h : Move w p w' p') : w.answers ⊆ w'.answers := by
  cases h <;> simp [finish]

/-- **A step leaves the holdings alone, claims the next slot, or writes a slot.** -/
theorem holdings (h : Move w p w' p') :
    (p' = p ∧ w'.holdings = w.holdings) ∨
      (p.len < p.capacity ∧ p' = ⟨p.slots, p.len + 1⟩ ∧
        w'.holdings = (p.len, none) :: w.holdings) ∨
      ∃ slot n rest, w.holdings = (slot, none) :: rest ∧
        p' = ⟨p.slots.setIfInBounds slot n, p.len⟩ ∧ w'.holdings = (slot, some n) :: rest := by
  cases h with
  | rest _ _ => exact .inl ⟨rfl, rfl⟩
  | look hactive _ => exact .inl ⟨rfl, by simp [Writer.holdings, hactive, Stage.holding]⟩
  | retry hactive => exact .inl ⟨rfl, by simp [Writer.holdings, hactive, Stage.holding]⟩
  | refuse hactive _ => exact .inl ⟨rfl, by simp [Writer.holdings, hactive, Stage.holding, finish]⟩
  | answer hactive => exact .inl ⟨rfl, by simp [Writer.holdings, hactive, Stage.holding, finish]⟩
  | claim hactive room =>
    exact .inr (.inl ⟨room, rfl, by simp [Writer.holdings, hactive, Stage.holding]⟩)
  | @write n slot hactive =>
    refine .inr (.inr ⟨slot, n, w.answers.filterMap fun a => a.2.map fun s => (s, some a.1), ?_,
      rfl, rfl⟩)
    simp [Writer.holdings, hactive, Stage.holding]

end Move

/-- What a writer has seen of the page: a length that it had, or that it is full. -/
structure Informed (p : Page) (w : Writer) : Prop where
  seen : ∀ {n seen}, w.active = some ⟨n, .looking seen⟩ → seen ≤ p.len
  refused : ∀ {n}, (n, none) ∈ w.answers → p.capacity ≤ p.len

theorem Informed.mono (h : w.Informed p) (hc : p'.capacity = p.capacity) (hl : p.len ≤ p'.len) :
    w.Informed p' :=
  ⟨fun hw => Nat.le_trans (h.seen hw) hl, fun hw => by have := h.refused hw; omega⟩

theorem Move.informed (hm : Move w p w' p') (h : w.Informed p) : w'.Informed p' := by
  have hmono := h.mono hm.page.1 hm.page.2
  cases hm with
  | rest _ _ => exact h
  | look _ _ | retry _ =>
    refine ⟨fun hw => ?_, h.refused⟩
    cases hw
    exact Nat.le_refl _
  | claim _ _ | write _ =>
    refine ⟨fun hw => ?_, hmono.refused⟩
    cases hw
  | refuse hactive full =>
    refine ⟨fun hw => ?_, fun _ => Nat.le_trans full (h.seen hactive)⟩
    cases hw
  | answer _ =>
    refine ⟨fun hw => ?_, fun {n} hw => h.refused (n := n) ?_⟩
    · cases hw
    · simpa [finish] using hw

end Writer

/-! ## One writer among many -/

theorem flatMap_set_perm {α β : Type} (f : α → List β) {l : List α} {i : Nat} (hi : i < l.length) :
    ∃ rest, (l.flatMap f).Perm (f l[i] ++ rest) ∧
      ∀ a, ((l.set i a).flatMap f).Perm (f a ++ rest) := by
  have hset (a : α) : (l.set i a).flatMap f =
      (l.take i).flatMap f ++ (f a ++ (l.drop (i + 1)).flatMap f) := by
    rw [List.set_eq_take_append_cons_drop, if_pos hi, List.flatMap_append, List.flatMap_cons]
  refine ⟨(l.take i).flatMap f ++ (l.drop (i + 1)).flatMap f, ?_, fun a => ?_⟩
  · have := hset l[i]
    rw [List.set_getElem_self] at this
    rw [this]
    exact List.perm_append_comm_assoc _ _ _
  · rw [hset a]
    exact List.perm_append_comm_assoc _ _ _

namespace Race

/-- The slots that are owned, each with what is written there. -/
def holdings (r : Race) : List (Nat × Option Binary64) := r.writers.toList.flatMap Writer.holdings

def claimed (r : Race) : List Nat := r.holdings.map Prod.fst

def answers (r : Race) : List (Binary64 × Option Nat) := r.writers.toList.flatMap Writer.answers

/-- How many pushes found the page full. -/
def refusals (r : Race) : Nat := r.answers.countP fun answer => answer.2.isNone

/-- The invariant of a race for a page of `c` slots between writers of these numbers. -/
structure Fair (c : Nat) (numbers : List (List Binary64)) (r : Race) : Prop where
  page : r.page.WellFormed
  capacity : r.page.capacity = c
  claimed : r.claimed.Perm (List.range r.page.len)
  written : ∀ {slot n}, (slot, some n) ∈ r.holdings → r.page.get slot = .ok n
  informed : ∀ w ∈ r.writers.toList, w.Informed r.page
  numbers : r.writers.toList.map Writer.numbers = numbers

namespace Fair

variable {c : Nat} {numbers : List (List Binary64)} {r : Race}

theorem start (c : UInt32) (numbers : List (List Binary64)) :
    Fair c.toNat numbers (Race.start c numbers) := by
  have hnone : (Race.start c numbers).holdings = [] := by
    simp [Race.start, holdings, Writer.ofNumbers, Writer.holdings]
  refine ⟨Page.wellFormed_new c, Page.capacity_new c, ?_, ?_, ?_, ?_⟩
  · rw [Race.claimed, hnone]
    exact List.Perm.refl []
  · simp [hnone]
  · simp only [Race.start, List.mem_map, forall_exists_index, and_imp]
    rintro w ns - rfl
    constructor
    · intro n seen hw
      cases hw
    · intro n hw
      cases hw
  · simp [Race.start, Writer.ofNumbers, Writer.numbers, Function.comp_def]

theorem lt_of_mem (h : Fair c numbers r) {slot : Nat} {n : Option Binary64}
    (hs : (slot, n) ∈ r.holdings) : slot < r.page.len :=
  List.mem_range.1 (h.claimed.mem_iff.1 (List.mem_map_of_mem hs))

/-- **A step of one writer keeps the race fair.** -/
theorem move (h : Fair c numbers r) {i : Nat} (hi : i < r.writers.size) {w' : Writer} {p' : Page}
    (hm : Writer.Move r.writers[i] r.page w' p') : Fair c numbers ⟨p', r.writers.set i w'⟩ := by
  obtain ⟨hcap, hlen⟩ := hm.page
  obtain ⟨rest, hbefore, hset⟩ := flatMap_set_perm Writer.holdings (l := r.writers.toList) hi
  have hafter : Race.holdings ⟨p', r.writers.set i w'⟩ = (r.writers.toList.set i w').flatMap
      Writer.holdings := by
    simp [Race.holdings]
  have hbefore : r.holdings.Perm (r.writers[i].holdings ++ rest) := hbefore
  have hafter : (Race.holdings ⟨p', r.writers.set i w'⟩).Perm (w'.holdings ++ rest) :=
    hafter ▸ hset w'
  have hclaimed := (hbefore.map Prod.fst).symm.trans h.claimed
  -- the writers one by one, and what is the same whatever the step does to the holdings
  have hinformed : ∀ w ∈ (r.writers.set i w').toList, w.Informed p' := by
    intro w hw
    rw [Array.toList_set] at hw
    rcases List.mem_or_eq_of_mem_set hw with hw | rfl
    · exact (h.informed w hw).mono hcap hlen
    · exact hm.informed (h.informed _ (Array.getElem_mem_toList hi))
  have hnumbers : (r.writers.set i w').toList.map Writer.numbers = numbers := by
    rw [Array.toList_set, List.map_set, hm.numbers, ← List.map_set, ← Array.getElem_toList,
      List.set_getElem_self, h.numbers]
  rcases hm.holdings with ⟨rfl, heq⟩ | ⟨room, rfl, heq⟩ | ⟨slot, n, others, hw, rfl, heq⟩
  · rw [heq] at hafter
    refine ⟨h.page, h.capacity, (hafter.map Prod.fst).trans hclaimed, fun hs => ?_, hinformed,
      hnumbers⟩
    exact h.written (hbefore.mem_iff.2 (hafter.mem_iff.1 hs))
  · rw [heq, List.cons_append] at hafter
    refine ⟨⟨room, h.page.capacity_lt⟩, h.capacity, ?_, fun hs => ?_, hinformed, hnumbers⟩
    · show (Race.claimed _).Perm (List.range (r.page.len + 1))
      rw [List.range_succ]
      exact (hafter.map Prod.fst).trans
        ((hclaimed.cons r.page.len).trans (List.perm_append_singleton _ _).symm)
    · have hold := (List.mem_cons.1 (hafter.mem_iff.1 hs)).resolve_left (by simp)
      obtain ⟨hlt, hread⟩ := Page.get_eq_ok_iff.1 (h.written (hbefore.mem_iff.2 hold))
      exact Page.get_of_lt (Nat.lt_succ_of_lt hlt) hread
  · rw [hw, List.cons_append] at hbefore hclaimed
    rw [heq, List.cons_append] at hafter
    have hslot : slot < r.page.len := h.lt_of_mem (hbefore.mem_iff.2 (List.mem_cons_self ..))
    have hnodup := (hclaimed.nodup_iff.2 List.nodup_range)
    rw [List.map_cons, List.nodup_cons] at hnodup
    refine ⟨⟨?_, ?_⟩, hcap.trans h.capacity, (hafter.map Prod.fst).trans hclaimed,
      fun {s m} hs => ?_, hinformed, hnumbers⟩
    · rw [hcap]
      exact h.page.len_le
    · rw [hcap]
      exact h.page.capacity_lt
    · rcases List.mem_cons.1 (hafter.mem_iff.1 hs) with hs | hs
      · cases hs
        have hsize : slot < r.page.slots.size := Nat.lt_of_lt_of_le hslot h.page.len_le
        exact Page.get_of_lt hslot (by simp [hsize])
      · -- the slot is owned by one push only, so no other one reads differently
        have hne : slot ≠ s := by
          rintro rfl
          exact hnodup.1 (List.mem_map.2 ⟨_, hs, rfl⟩)
        obtain ⟨hlt, hread⟩ := Page.get_eq_ok_iff.1
          (h.written (hbefore.mem_iff.2 (List.mem_cons_of_mem _ hs)))
        exact Page.get_of_lt hlt (by rw [Array.getElem?_setIfInBounds_ne hne, hread])

theorem slot_lt (h : Fair c numbers r) {i : Nat} (hi : i < r.writers.size) {n : Binary64}
    {slot : Nat} (hactive : r.writers[i].active = some ⟨n, .claimed slot⟩) :
    slot < r.page.capacity := by
  have hmem : (slot, none) ∈ r.holdings := by
    refine List.mem_flatMap.2 ⟨_, Array.getElem_mem_toList hi, ?_⟩
    simp [Writer.holdings, hactive, Stage.holding]
  exact Nat.lt_of_lt_of_le (h.lt_of_mem hmem) h.page.len_le

/-- **Every step keeps the race fair**, and none breaks off. -/
theorem step (h : Fair c numbers r) (turn : Turn) :
    ∃ r', Race.step turn r = .ok () r' ∧ Fair c numbers r' ∧ r.answers ⊆ r'.answers := by
  by_cases hi : turn.writer < r.writers.size
  · obtain ⟨w', p', hstep, hm⟩ := Writer.step_moves (w := r.writers[turn.writer]) h.page
      (fun n slot hactive => h.slot_lt hi hactive) turn.spurious
    refine ⟨⟨p', r.writers.set turn.writer w'⟩, by simp only [Race.step, dif_pos hi, hstep],
      h.move hi hm, fun answer ha => ?_⟩
    obtain ⟨rest, hbefore, hset⟩ := flatMap_set_perm Writer.answers (l := r.writers.toList) hi
    have hafter := hset w'
    rw [← Array.toList_set (h := hi)] at hafter
    rw [Race.answers, hafter.mem_iff]
    rcases List.mem_append.1 (hbefore.mem_iff.1 ha) with ha | ha
    · exact List.mem_append_left _ (hm.answers ha)
    · exact List.mem_append_right _ ha
  · exact ⟨r, by simp only [Race.step, dif_neg hi], h, fun _ => id⟩

/-- **Every schedule keeps the race fair**, by induction on its turns. -/
theorem run (h : Fair c numbers r) (schedule : List Turn) :
    ∃ r', Race.run schedule r = .ok () r' ∧ Fair c numbers r' ∧ r.answers ⊆ r'.answers := by
  induction schedule generalizing r with
  | nil => exact ⟨r, rfl, h, fun _ => id⟩
  | cons turn rest ih =>
    obtain ⟨r₁, hstep, h₁, hsub₁⟩ := h.step turn
    obtain ⟨r₂, hrun, h₂, hsub₂⟩ := ih h₁
    refine ⟨r₂, ?_, h₂, fun _ ha => hsub₂ (hsub₁ ha)⟩
    show (Race.step turn >>= fun _ => Race.run rest) r = _
    rw [bind_of_ok hstep, hrun]

/-! ## What was answered -/

theorem get_of_answered (h : Fair c numbers r) {n : Binary64} {slot : Nat}
    (ha : (n, some slot) ∈ r.answers) : r.page.get slot = .ok n := by
  obtain ⟨w, hw, ha⟩ := List.mem_flatMap.1 ha
  refine h.written (List.mem_flatMap.2 ⟨w, hw, List.mem_append_right _ ?_⟩)
  exact List.mem_filterMap.2 ⟨_, ha, rfl⟩

theorem len_of_refused (h : Fair c numbers r) {n : Binary64} (ha : (n, none) ∈ r.answers) :
    r.page.len = c := by
  obtain ⟨w, hw, ha⟩ := List.mem_flatMap.1 ha
  have hfull := (h.informed w hw).refused ha
  have hle := h.page.len_le
  rw [h.capacity] at hfull hle
  omega

section
variable (h : Fair c numbers r) (hdone : r.isDone = true)
include h hdone

theorem answered_of_done :
    r.writers.toList.map (fun w => w.answers.reverse.map Prod.fst) = numbers ∧
      r.claimed = r.answers.filterMap Prod.snd := by
  have hidle : ∀ w ∈ r.writers.toList, w.waiting = [] ∧ w.active = none := by
    rw [isDone, ← Array.all_toList, List.all_eq_true] at hdone
    intro w hw
    simpa [Writer.isDone] using hdone w hw
  constructor
  · rw [← h.numbers]
    refine List.map_congr_left fun w hw => ?_
    simp [Writer.numbers, hidle w hw]
  · rw [Race.claimed, Race.holdings, Race.answers, List.map_flatMap, List.filterMap_flatMap]
    refine List.flatMap_congr fun w hw => ?_
    simp [Writer.holdings, hidle w hw, List.map_filterMap, Function.comp_def]

theorem length_answers : r.answers.length = numbers.flatten.length := by
  rw [← (h.answered_of_done hdone).1, Race.answers]
  simp [List.length_flatMap, List.length_flatten, Function.comp_def]

theorem len_add_refusals : r.page.len + r.refusals = numbers.flatten.length := by
  have hlen := h.claimed.length_eq
  rw [(h.answered_of_done hdone).2, List.length_filterMap_eq_countP, List.length_range] at hlen
  rw [← h.length_answers hdone, ← hlen, Race.refusals,
    List.length_eq_countP_add_countP fun answer : Binary64 × Option Nat => answer.2.isSome]
  simp only [Bool.not_eq_true, Option.isSome_eq_false_iff, Bool.decide_eq_true]

theorem len_of_done : r.page.len = min numbers.flatten.length c := by
  have htotal := h.len_add_refusals hdone
  have hle := h.page.len_le
  rw [h.capacity] at hle
  rcases Nat.eq_zero_or_pos r.refusals with hnone | hsome
  · omega
  · obtain ⟨⟨n, slot⟩, ha, hslot⟩ := List.countP_pos_iff.1 hsome
    cases slot with
    | none =>
      have := h.len_of_refused ha
      omega
    | some slot => cases hslot

theorem slotsAnswered_of_done : r.slotsAnswered = List.range r.page.len := by
  have hslots : (r.writers.toList.flatMap fun w => w.answers.filterMap Prod.snd) = r.claimed := by
    rw [(h.answered_of_done hdone).2, Race.answers, List.filterMap_flatMap]
  have hsorted : r.claimed.mergeSort.Pairwise (· ≤ ·) := by
    have hsort := @List.pairwise_mergeSort Nat (fun a b => decide (a ≤ b))
      (by simp only [decide_eq_true_eq]; omega)
      (by simp only [Bool.or_eq_true, decide_eq_true_eq]; omega) r.claimed
    simpa only [decide_eq_true_eq] using hsort
  rw [slotsAnswered, hslots]
  exact List.Perm.eq_of_pairwise (fun a b _ _ => Nat.le_antisymm) hsorted List.pairwise_le_range
    ((List.mergeSort_perm _ _).trans h.claimed)

end

end Fair

/-- **Pushes that race for a page lose and duplicate nothing.** After every schedule the slots
that pushes own are those below the length, each owned once. A push is refused only by a full page,
and a slot that was answered reads as the number that was pushed, then and for ever after. When all
pushes are over, the slots answered are the first ones of the page, and the page is full if any
push was refused. -/
theorem claimed_slots_of_run (c : UInt32) (numbers : List (List Binary64))
    (earlier later : List Turn) :
    ∃ r r', run earlier (start c numbers) = .ok () r ∧ run later r = .ok () r' ∧
      r.page.capacity = c.toNat ∧ r.page.len ≤ c.toNat ∧
      r.claimed.Perm (List.range r.page.len) ∧
      (∀ n, (n, none) ∈ r.answers → r.page.len = c.toNat) ∧
      (∀ n slot, (n, some slot) ∈ r.answers →
        r.page.get slot = .ok n ∧ r'.page.get slot = .ok n) ∧
      (r.isDone = true →
        r.writers.toList.map (fun w => w.answers.reverse.map Prod.fst) = numbers ∧
        r.slotsAnswered = List.range (min numbers.flatten.length c.toNat) ∧
        r.page.len = min numbers.flatten.length c.toNat ∧
        r.refusals = numbers.flatten.length - min numbers.flatten.length c.toNat) := by
  obtain ⟨r, hrun, h, -⟩ := (Fair.start c numbers).run earlier
  obtain ⟨r', hrun', h', hsub⟩ := h.run later
  refine ⟨r, r', hrun, hrun', h.capacity, h.capacity ▸ h.page.len_le, h.claimed,
    fun n ha => h.len_of_refused ha,
    fun n slot ha => ⟨h.get_of_answered ha, h'.get_of_answered (hsub ha)⟩, fun hdone => ?_⟩
  have hlen := h.len_of_done hdone
  have htotal := h.len_add_refusals hdone
  refine ⟨(h.answered_of_done hdone).1, ?_, hlen, by omega⟩
  rw [h.slotsAnswered_of_done hdone, hlen]

/-- Two writers before a page of one slot: the second one is refused. -/
example : (match run (inTurns 2 1) (start 1 [[.zero], [.nan]]) with
    | .ok _ r => r.isDone && r.claimed == [0] && r.refusals == 1
    | .error _ _ => false) = true := by
  decide +kernel

end Race

end Boxing
