import Boxing.Proofs.Arena.Respond
import Boxing.Proofs.World.Provenance

/-!
# The layout of an arena

An arena rolls over as late as it can: it leaves a page when that page is full and another slot is
wanted. So the slot with number `k` is slot `k % c` of page `k / c`, for pages of `c` slots,
whatever requests were refused, ended in a fault or shared an entry in between.
`Arena.Layout a s earlier refs` is the invariant: `earlier` are the pages that the arena left,
`refs` are the references that it gave. A request keeps it (`Layout.respond`), a history does
(`Layout.respondAll`), and `Arena.LaidOut` reads the closed form of the counters off it.
`layout_of_respondAll` starts in any world that a program can reach.
-/

set_option autoImplicit false

namespace Boxing

/-- The request takes a slot of an arena with pages of `c` slots that gave `m` slots: it wants one,
and there is room, or a new page is granted. A full page of the greatest size is never left. -/
def Request.TakesSlot (c m : Nat) (q : Request) : Prop :=
  q.WantsSlot ∧ (m = 0 ∨ m % c ≠ 0 ∨ c < ArenaConfig.maxPageCapacity ∧ q.memory (8 * c) = true)

instance (c m : Nat) (q : Request) : Decidable (q.TakesSlot c m) :=
  inferInstanceAs (Decidable (_ ∧ _))

namespace Arena

/-- The number of slots that an arena has given after these requests, if it gave `m` before. -/
def slotsTaken (c : Nat) : List Request → Nat → Nat
  | [], m => m
  | q :: rest, m => slotsTaken c rest (if q.TakesSlot c m then m + 1 else m)

/-- The slot that was answered to a request. -/
def takenBy (q : Request) : Answer → List NumberRef
  | .ok (.ok r) => if q.WantsSlot then [r] else []
  | _ => []

/-- The slots among the answers to a history, in order. -/
def taken : List Request → List Answer → List NumberRef
  | q :: rest, answer :: answers => takenBy q answer ++ taken rest answers
  | _, _ => []

/-- The answer is a fault only if pages of `c` slots are the greatest, and then an overflow. -/
def OnlyOverflows (c : Nat) (answer : Answer) : Prop :=
  ∀ f, answer = .error f → c = ArenaConfig.maxPageCapacity ∧ f = .overflow .add

theorem onlyOverflows_ok (c : Nat) (answer : Except ArenaError NumberRef) :
    OnlyOverflows c (.ok answer) := nofun

theorem le_slotsTaken (c : Nat) (requests : List Request) (m : Nat) :
    m ≤ slotsTaken c requests m := by
  induction requests generalizing m with
  | nil => exact Nat.le_refl m
  | cons q rest ih =>
    rw [slotsTaken]
    split
    · exact Nat.le_of_succ_le (ih (m + 1))
    · exact ih m

/-! ## Positions -/

/-- Reference `k` names slot `k % c` of page `k / c`. -/
def Placed (c : Nat) (ids : List PageId) (refs : List NumberRef) : Prop :=
  ∀ k r, refs[k]? = some r →
    r.page.lifetime = .counted ∧ r.slot = k % c ∧ ids[k / c]? = some r.page.id

/-- The next reference names a slot of page `e`, behind `e` pages of `c` slots. -/
theorem Placed.concat {c e : Nat} {ids : List PageId} {refs : List NumberRef} {r : NumberRef}
    (h : Placed c ids refs) (more : List PageId) (hslot : r.slot < c)
    (hlen : refs.length = e * c + r.slot) (hlife : r.page.lifetime = .counted)
    (hpage : (ids ++ more)[e]? = some r.page.id) : Placed c (ids ++ more) (refs ++ [r]) := by
  intro k q hq
  rcases Nat.lt_trichotomy k refs.length with hk | rfl | hk
  · rw [List.getElem?_append_left hk] at hq
    obtain ⟨hl, hs, hp⟩ := h k q hq
    refine ⟨hl, hs, ?_⟩
    rw [List.getElem?_append_left (List.getElem?_eq_some_iff.1 hp).1, hp]
  · rw [List.getElem?_concat_length] at hq
    cases hq
    have hdiv : refs.length / c = e := by
      rw [hlen, Nat.mul_comm, Nat.mul_add_div (by omega), Nat.div_eq_of_lt hslot, Nat.add_zero]
    have hmod : refs.length % c = r.slot := by
      rw [hlen, Nat.mul_comm, Nat.mul_add_mod, Nat.mod_eq_of_lt hslot]
    exact ⟨hlife, hmod.symm, by rw [hdiv, hpage]⟩
  · rw [List.getElem?_eq_none (by rw [List.length_append, List.length_singleton]; omega)] at hq
    cases hq

/-- A page that was made later comes behind the others. -/
theorem pairwise_concat {earlier : List PageId} {current new : PageId}
    (h : (earlier ++ [current]).Pairwise (· < ·)) (hlt : current < new) :
    (earlier ++ [current] ++ [new]).Pairwise (· < ·) := by
  refine List.pairwise_append.2 ⟨h, List.pairwise_singleton _ _, fun id hid last hlast => ?_⟩
  rw [List.mem_singleton] at hlast
  subst hlast
  rcases List.mem_append.1 hid with hid | hid
  · exact Nat.lt_trans ((List.pairwise_append.1 h).2.2 id hid _ (List.mem_singleton_self _)) hlt
  · rw [List.mem_singleton.1 hid]
    exact hlt

/-! ## The invariant -/

/-- The arena left the pages `earlier`, which are full, and gave the references `refs`. -/
structure Layout (a : Arena) (s : Store) (earlier : List PageId) (refs : List NumberRef) :
    Prop where
  ready : a.Ready s
  order : (earlier ++ [a.current]).Pairwise (· < ·)
  pages : a.pagesAllocated = earlier.length + 1
  slots : a.slotsAllocated = refs.length
  count : refs.length = earlier.length * a.pageCapacity + a.currentPageLen s
  used : 0 < earlier.length → 0 < a.currentPageLen s
  placed : Placed a.pageCapacity (earlier ++ [a.current]) refs

variable {a : Arena} {s : Store} {earlier : List PageId} {refs : List NumberRef}

namespace Layout

/-- A page is full exactly if another slot would be the first one of a new page. -/
theorem full_iff (h : Layout a s earlier refs) : a.currentPageLen s = a.pageCapacity ↔
    ¬ (refs.length = 0 ∨ refs.length % a.pageCapacity ≠ 0) := by
  have hpos := h.ready.pos
  have hle := h.ready.len_le
  have hused := h.used
  have hmod : refs.length % a.pageCapacity = a.currentPageLen s % a.pageCapacity := by
    rw [h.count, Nat.mul_comm, Nat.mul_add_mod]
  rw [hmod]
  constructor
  · intro hfull
    rw [hfull, Nat.mod_self]
    have := h.count
    omega
  · intro hno
    apply Nat.le_antisymm hle
    apply Nat.le_of_not_lt
    intro hlt
    rw [Nat.mod_eq_of_lt hlt] at hno
    have hzero : earlier.length = 0 := by omega
    have := h.count
    rw [hzero, Nat.zero_mul] at this
    omega

/-- **The next slot of a page with room.** -/
theorem counted (h : Layout a s earlier refs) (room : a.currentPageLen s < a.pageCapacity)
    (n : Binary64) : Layout a.counted (a.written n s) earlier (refs ++ [a.next s]) := by
  have hlen := h.ready.currentPageLen_counted n
  refine ⟨h.ready.counted room n, h.order, h.pages, ?_, ?_, ?_, ?_⟩
  · rw [List.length_append, List.length_singleton, ← h.slots]
    rfl
  · rw [List.length_append, List.length_singleton, hlen, h.count]
    rfl
  · intro _
    rw [hlen]
    exact Nat.succ_pos _
  · have := h.placed.concat (r := a.next s) [] room h.count rfl
      (by rw [List.append_nil, List.getElem?_concat_length]; rfl)
    rwa [List.append_nil] at this

/-- **The first slot of a new page**, when the one before is full. -/
theorem rolled (h : Layout a s earlier refs) (full : a.currentPageLen s = a.pageCapacity)
    (n : Binary64) :
    Layout (a.rolled s).counted ((a.rolled s).written n (a.extended s)) (earlier ++ [a.current])
      (refs ++ [(a.rolled s).next (a.extended s)]) := by
  have hempty := currentPageLen_rolled a s
  have hpos : 0 < a.pageCapacity := h.ready.pos
  have hlen := h.ready.rolled.currentPageLen_counted n
  rw [hempty] at hlen
  refine ⟨h.ready.rolled.counted (by rw [hempty]; exact hpos) n, ?_, ?_, ?_, ?_, ?_, ?_⟩
  · exact pairwise_concat h.order h.ready.made
  · rw [List.length_append, List.length_singleton, ← h.pages]
    rfl
  · rw [List.length_append, List.length_singleton, ← h.slots]
    rfl
  · rw [List.length_append, List.length_append, List.length_singleton, List.length_singleton, hlen,
      h.count, full, Nat.succ_mul]
    rfl
  · intro _
    rw [hlen]
    exact Nat.one_pos
  · refine h.placed.concat (r := (a.rolled s).next (a.extended s)) (e := earlier.length + 1)
      [s.pages.size] ?_ ?_ rfl ?_
    · show (a.rolled s).currentPageLen (a.extended s) < _
      rw [hempty]
      exact hpos
    · show _ = _ + (a.rolled s).currentPageLen (a.extended s)
      rw [hempty, h.count, full, Nat.succ_mul]
      rfl
    · have : earlier.length + 1 = (earlier ++ [a.current]).length := by
        rw [List.length_append, List.length_singleton]
      rw [this, List.getElem?_concat_length]
      rfl

/-! ## Requests -/

/-- What the holder of an arena has after a request, if it has given `refs` then and the answer is
no fault that cannot be helped. -/
structure After (c : Nat) (refs : List NumberRef) (q : Request) (r : Response) : Prop where
  capacity : r.arena.pageCapacity = c
  layout : ∃ earlier, Layout r.arena r.store earlier (refs ++ takenBy q r.answer)
  faults : OnlyOverflows c r.answer

section
variable {table : PreloadTable} {q : Request}

/-- A request that leaves everything as it is and takes no slot. -/
theorem after_kept (h : Layout a s earlier refs) {answer : Answer} (hnone : takenBy q answer = [])
    (hf : OnlyOverflows a.pageCapacity answer) : After a.pageCapacity refs q ⟨answer, a, s⟩ :=
  ⟨rfl, ⟨earlier, by rw [hnone, List.append_nil]; exact h⟩, hf⟩

/-- A slot is given if there is room or a new page is granted. -/
theorem respond_of_takes (h : Layout a s earlier refs) (table : PreloadTable)
    (takes : q.TakesSlot a.pageCapacity refs.length) (fits : refs.length + 1 < UInt64.size) :
    (∃ r, (a.respond table q s).answer = .ok (.ok r)) ∧
      After a.pageCapacity refs q (a.respond table q s) := by
  obtain ⟨hw, takes⟩ := takes
  have hslots : a.slotsAllocated + 1 < UInt64.size := by rw [h.slots]; exact fits
  have htaken (r : NumberRef) : refs ++ takenBy q (.ok (.ok r)) = refs ++ [r] := by
    rw [takenBy, if_pos hw]
  by_cases hfull : a.currentPageLen s = a.pageCapacity
  · obtain ⟨hsmall, hmem⟩ : a.pageCapacity < ArenaConfig.maxPageCapacity ∧
        q.memory (8 * a.pageCapacity) = true := by
      have hno := h.full_iff.1 hfull
      rcases takes with h0 | h0 | hmem
      · exact absurd (.inl h0) hno
      · exact absurd (.inr h0) hno
      · exact hmem
    have hpages : a.pagesAllocated + 1 < UInt64.size := by
      -- each page so far is full and has at least one slot
      have hmul := Nat.le_mul_of_pos_right (earlier.length + 1) h.ready.pos
      have hcount : refs.length = (earlier.length + 1) * a.pageCapacity := by
        rw [h.count, hfull, Nat.succ_mul]
      rw [h.pages]
      omega
    have hserve := (serve_of_wantsSlot table hw).trans (h.ready.allocate_of_granted hfull
      (h.ready.not_spent_of_lt hsmall) hmem hpages hslots q.number)
    rw [respond_of_ok hserve]
    refine ⟨⟨_, rfl⟩, rfl, ⟨earlier ++ [a.current], ?_⟩, onlyOverflows_ok _ _⟩
    rw [htaken]
    exact h.rolled hfull q.number
  · have hroom := Nat.lt_of_le_of_ne h.ready.len_le hfull
    have hserve := (serve_of_wantsSlot table hw).trans
      (h.ready.allocate_of_room hroom hslots q.memory q.number)
    rw [respond_of_ok hserve]
    refine ⟨⟨_, rfl⟩, rfl, ⟨earlier, ?_⟩, onlyOverflows_ok _ _⟩
    rw [htaken]
    exact h.counted hroom q.number

/-- Otherwise the arena stays as it is. -/
theorem respond_of_not_takes (h : Layout a s earlier refs) (ht : table.Filled s)
    (takes : ¬ q.TakesSlot a.pageCapacity refs.length) :
    takenBy q (a.respond table q s).answer = [] ∧
      After a.pageCapacity refs q (a.respond table q s) := by
  by_cases hw : q.WantsSlot
  · have hfull : a.currentPageLen s = a.pageCapacity := by
      refine h.full_iff.2 fun hroom => takes ⟨hw, ?_⟩
      rcases hroom with h0 | h0
      · exact .inl h0
      · exact .inr (.inl h0)
    have hserve := serve_of_wantsSlot (a := a) (s := s) table hw
    by_cases spent : a.Spent s
    · -- the page is full, and no other is asked for
      rw [respond_of_error (hserve.trans (h.ready.allocate_of_spent spent q.memory q.number))]
      refine ⟨rfl, h.after_kept rfl fun f hf => ?_⟩
      cases hf
      exact ⟨(h.ready.spent_iff.1 spent).2, rfl⟩
    · have hsmall : a.pageCapacity < ArenaConfig.maxPageCapacity :=
        Nat.lt_of_le_of_ne h.ready.le_max fun heq => spent (h.ready.spent_iff.2 ⟨hfull, heq⟩)
      have hmem : q.memory (8 * a.pageCapacity) = false := by
        cases hmem : q.memory (8 * a.pageCapacity) with
        | true => exact absurd ⟨hw, .inr (.inr ⟨hsmall, hmem⟩)⟩ takes
        | false => rfl
      rw [respond_of_ok (hserve.trans (h.ready.allocate_of_refused hfull spent hmem q.number))]
      exact ⟨rfl, h.after_kept rfl (onlyOverflows_ok _ _)⟩
  · obtain ⟨r, -, hrespond⟩ := respond_of_shared (a := a) ht hw
    have hnone : takenBy q (.ok (.ok r)) = [] := by rw [takenBy, if_neg hw]
    rw [hrespond]
    exact ⟨hnone, h.after_kept hnone (onlyOverflows_ok _ _)⟩

/-- **Every request keeps the layout**, and the slots that it takes are counted. -/
theorem respond (h : Layout a s earlier refs) (ht : table.Filled s)
    (fits : (if q.TakesSlot a.pageCapacity refs.length then refs.length + 1 else refs.length) <
      UInt64.size) :
    After a.pageCapacity refs q (a.respond table q s) ∧
      (refs ++ takenBy q (a.respond table q s).answer).length =
        if q.TakesSlot a.pageCapacity refs.length then refs.length + 1 else refs.length := by
  by_cases takes : q.TakesSlot a.pageCapacity refs.length
  · rw [if_pos takes] at fits ⊢
    obtain ⟨⟨r, hr⟩, hafter⟩ := h.respond_of_takes table takes fits
    refine ⟨hafter, ?_⟩
    rw [hr, takenBy, if_pos takes.1, List.length_append, List.length_singleton]
  · rw [if_neg takes]
    obtain ⟨hnone, hafter⟩ := h.respond_of_not_takes ht takes
    exact ⟨hafter, by rw [hnone, List.append_nil]⟩

end

/-- **Every history keeps the layout**, by induction on its requests. -/
theorem respondAll {table : PreloadTable} (requests : List Request) (h : Layout a s earlier refs)
    (ht : table.Filled s) (fits : slotsTaken a.pageCapacity requests refs.length < UInt64.size) :
    ∃ answers a' s' earlier', a.respondAll table requests s = (answers, a', s') ∧
      a'.pageCapacity = a.pageCapacity ∧ Layout a' s' earlier' (refs ++ taken requests answers) ∧
      (refs ++ taken requests answers).length = slotsTaken a.pageCapacity requests refs.length ∧
      ∀ answer ∈ answers, OnlyOverflows a.pageCapacity answer := by
  induction requests generalizing a s earlier refs with
  | nil =>
    have htaken : refs ++ taken [] [] = refs := List.append_nil refs
    exact ⟨[], a, s, earlier, rfl, rfl, by rw [htaken]; exact h, by rw [htaken]; rfl, nofun⟩
  | cons q rest ih =>
    rw [slotsTaken] at fits ⊢
    have hfirst := Nat.lt_of_le_of_lt (le_slotsTaken _ rest _) fits
    obtain ⟨⟨hcap, ⟨earlier₁, hlayout⟩, hfaults⟩, hlen⟩ := h.respond ht hfirst
    have hgrows := (respond_leads table q a s h.ready.store).2
    rw [← hlen, ← hcap] at fits
    obtain ⟨answers, a₂, s₂, earlier₂, hrest, hcap₂, hlayout₂, hlen₂, hfaults₂⟩ :=
      ih hlayout (ht.of_grows hgrows) fits
    refine ⟨(a.respond table q s).answer :: answers, a₂, s₂, earlier₂, ?_, hcap₂.trans hcap, ?_, ?_,
      ?_⟩
    · simp only [Arena.respondAll, hrest]
    · rw [taken, ← List.append_assoc]
      exact hlayout₂
    · rw [taken, ← List.append_assoc, hlen₂, hlen, hcap]
    · rw [hcap] at hfaults₂
      exact List.forall_mem_cons.2 ⟨hfaults, hfaults₂⟩

/-- A new arena has given nothing. -/
theorem of_ready (h : a.Ready s) (hlen : a.currentPageLen s = 0) (hpages : a.pagesAllocated = 1)
    (hslots : a.slotsAllocated = 0) : Layout a s [] [] := by
  refine ⟨h, List.pairwise_singleton _ _, hpages, hslots, ?_, fun h0 => absurd h0 (Nat.lt_irrefl 0),
    fun k r hr => ?_⟩
  · rw [hlen, List.length_nil, List.length_nil, Nat.zero_mul]
  · cases hr

end Layout

/-! ## The closed form -/

/-- An arena with pages of `c` slots that gave the `m` slots `refs`. -/
structure LaidOut (c m : Nat) (a : Arena) (s : Store) (refs : List NumberRef) : Prop where
  count : refs.length = m
  slots : (a.stats s).slotsAllocated = m
  pages : (a.stats s).pagesAllocated = max 1 ((m + c - 1) / c)
  len : (a.stats s).currentPageLen = if m = 0 then 0 else (m - 1) % c + 1
  capacity : (a.stats s).pageCapacity = c
  remaining : a.currentPageRemaining s = .ok (c - (a.stats s).currentPageLen)
  slot : ∀ k r, refs[k]? = some r → r.isCanonical = false ∧ r.slot = k % c
  samePage : ∀ j k r q, refs[j]? = some r → refs[k]? = some q →
    (r.samePage q = true ↔ j / c = k / c)

/-- The pages and the length that go with `m` slots, when the last page is in use. -/
theorem closed_form {c e l m : Nat} (hm : m = e * c + l) (hle : l ≤ c) (hc : 0 < c)
    (hused : 0 < e → 0 < l) :
    e + 1 = max 1 ((m + c - 1) / c) ∧ l = if m = 0 then 0 else (m - 1) % c + 1 := by
  cases l with
  | zero =>
    have he : e = 0 := by omega
    have hm0 : m = 0 := by rw [hm, he, Nat.zero_mul]
    have hdiv : (m + c - 1) / c = 0 := Nat.div_eq_of_lt (by omega)
    rw [he, hdiv, if_pos hm0]
    exact ⟨rfl, rfl⟩
  | succ l =>
    have hlast : m - 1 = c * e + l := by rw [hm, Nat.mul_comm]; omega
    have hfirst : m + c - 1 = c * (e + 1) + l := by rw [Nat.mul_succ, hm, Nat.mul_comm]; omega
    have hdiv : (m + c - 1) / c = e + 1 := by
      rw [hfirst, Nat.mul_add_div hc, Nat.div_eq_of_lt (by omega), Nat.add_zero]
    have hmod : (m - 1) % c = l := by
      rw [hlast, Nat.mul_add_mod, Nat.mod_eq_of_lt (by omega)]
    rw [hdiv, hmod, if_neg (by omega), Nat.max_eq_right (by omega)]
    exact ⟨rfl, rfl⟩

/-- **The layout is the closed form.** -/
theorem Layout.laidOut (h : Layout a s earlier refs) :
    LaidOut a.pageCapacity refs.length a s refs := by
  obtain ⟨hpages, hlen⟩ := closed_form h.count h.ready.len_le h.ready.pos h.used
  refine ⟨rfl, h.slots, ?_, hlen, rfl, ?_, fun k r hr => ?_, fun j k r q hr hq => ?_⟩
  · show a.pagesAllocated = _
    rw [h.pages, hpages]
  · rw [currentPageRemaining, Page.remaining, h.ready.capacity]
    exact Checked.sub_eq_ok h.ready.len_le
  · obtain ⟨hlife, hslot, -⟩ := h.placed k r hr
    refine ⟨?_, hslot⟩
    rw [NumberRef.isCanonical, hlife]
    rfl
  · obtain ⟨-, -, hj⟩ := h.placed j r hr
    obtain ⟨-, -, hk⟩ := h.placed k q hq
    have hnodup : (earlier ++ [a.current]).Nodup := h.order.imp Nat.ne_of_lt
    rw [← List.getElem?_inj (List.getElem?_eq_some_iff.1 hj).1 hnodup, hj, hk, NumberRef.samePage]
    simp

end Arena

namespace World

/-- **The closed form of an arena's layout and counters.** In any world that a program reaches and
for any valid capacity, both constructors make one and the same arena, and after any history of
requests that takes fewer than `2 ^ 64` slots it is laid out by the number of these slots alone. No
request ends in a fault, unless its pages have the greatest size. -/
theorem layout_of_respondAll (calls : List (Call × Memory)) {c : Nat} (hc : 1 ≤ c)
    (hc' : c ≤ ArenaConfig.maxPageCapacity) {requests : List Request}
    (hm : Arena.slotsTaken c requests 0 < UInt64.size) :
    ∃ w₀ outcomes w a s answers a' s', start = .ok w₀ ∧ run calls w₀ = .ok outcomes w ∧
      Arena.new c w.store = .ok a s ∧
      (∀ memory : Memory, memory (8 * c) = true →
        Arena.withConfig memory ⟨c⟩ w.store = .ok (.ok a) s) ∧
      a.respondAll w.table requests s = (answers, a', s') ∧
      Arena.LaidOut c (Arena.slotsTaken c requests 0) a' s' (Arena.taken requests answers) ∧
      ∀ answer ∈ answers, Arena.OnlyOverflows c answer := by
  obtain ⟨w₀, hstart, hsound⟩ := Sound.start
  obtain ⟨outcomes, hrun⟩ := run_eq calls w₀
  have h := hsound.run calls
  have hvalid : ArenaConfig.validate ⟨c⟩ = .ok () :=
    ArenaConfig.validate_eq_ok_iff.2 ⟨hc, Nat.lt_succ_of_le hc'⟩
  have hnew := Arena.new_of_valid hvalid (afterAll calls w₀).store
  have hready := Arena.Ready.of_added (a := ⟨⟨c⟩, _, 1, 0⟩) h.store hvalid rfl
  have htable := h.table.of_grows (Store.grows_add _ (Page.new (UInt32.ofNat c)))
  have hlayout₀ := Arena.Layout.of_ready hready (Arena.currentPageLen_of_added rfl) rfl rfl
  obtain ⟨answers, a', s', earlier', hrespond, hcap, hlayout, hlen, hfaults⟩ :=
    hlayout₀.respondAll requests htable hm
  have hlaid := hlayout.laidOut
  rw [hlen, hcap, List.nil_append] at hlaid
  exact ⟨w₀, outcomes, afterAll calls w₀, _, _, answers, a', s', hstart, hrun, hnew,
    fun memory hmem => Arena.withConfig_of_granted hvalid hmem _, hrespond, hlaid, hfaults⟩

/-- Two slots fill a page. The next request is refused a page and the one after it shares an entry,
then a page is granted. -/
theorem layout_after_three_slots :
    ∃ w₀ outcomes w a s answers a' s', start = .ok w₀ ∧
      run [(.lookup (.ofInt 7), .exhausted), (.newArena 3, .exhausted)] w₀ = .ok outcomes w ∧
      Arena.new 2 w.store = .ok a s ∧
      a.respondAll w.table [⟨.allocate, .ofInt 5, .exhausted⟩, ⟨.allocate, .ofInt 6, .exhausted⟩,
        ⟨.allocate, .ofInt 7, .exhausted⟩, ⟨.box, .ofInt 5, .exhausted⟩,
        ⟨.allocate, .ofInt 7, .upTo 16⟩] s = (answers, a', s') ∧
      a'.stats s' = ⟨2, 3, 1, 2⟩ ∧ a'.currentPageRemaining s' = .ok 1 := by
  have hshared : Preloaded (.ofInt 5) := ⟨5, by decide, by decide, rfl⟩
  have hm : Arena.slotsTaken 2 [⟨.allocate, .ofInt 5, .exhausted⟩,
      ⟨.allocate, .ofInt 6, .exhausted⟩, ⟨.allocate, .ofInt 7, .exhausted⟩,
      ⟨.box, .ofInt 5, .exhausted⟩, ⟨.allocate, .ofInt 7, .upTo 16⟩] 0 = 3 := by
    simp [Arena.slotsTaken, Request.TakesSlot, Request.WantsSlot, hshared, Memory.exhausted,
      Memory.upTo, ArenaConfig.maxPageCapacity]
  obtain ⟨w₀, outcomes, w, a, s, answers, a', s', hstart, hrun, hnew, -, hrespond, hlaid, -⟩ :=
    layout_of_respondAll [(.lookup (.ofInt 7), .exhausted), (.newArena 3, .exhausted)]
      (c := 2) (by decide) (by decide) (by rw [hm]; decide)
  rw [hm] at hlaid
  have hlen := hlaid.len
  have hstats : a'.stats s' = ⟨2, 3, 1, 2⟩ := by
    have hpages := hlaid.pages
    have hslots := hlaid.slots
    have hcap := hlaid.capacity
    cases hs : a'.stats s'
    rw [hs] at hpages hslots hlen hcap
    cases hpages
    cases hslots
    cases hlen
    cases hcap
    rfl
  refine ⟨w₀, outcomes, w, a, s, answers, a', s', hstart, hrun, hnew, hrespond, hstats, ?_⟩
  rw [hlaid.remaining, hlen]
  rfl

end World

end Boxing
