import Boxing.Proofs.Arena.Replay
import Boxing.Proofs.World.Apart

/-!
# Boxing in the place of allocating

To box a number instead of allocating it changes where the numbers go and nothing that is read from
them. Two histories ask two new arenas for the same numbers, and the second one boxes wherever the
first one does, and maybe elsewhere (`Request.BoxesToo`). From the first hit on the arenas roll over
at different times, so their positions cannot be compared. But a granted history is laid out by the
number of slots that it wants (`Layout.serveAll_granted`), these numbers differ by the hits that
only the second one has (`countP_wantsSlot`), and the pages grow with them. This holds as long as
arenas with such pages yield so many slots (`Arena.Yields`); if not, the history ends in a fault
(`Layout.serveAll_overfilled`).
-/

set_option autoImplicit false

namespace Boxing

theorem not_preloaded_nan : ¬ Preloaded .nan := by
  rintro ⟨k, hk, hk', hnan⟩
  have hfinite := (PreloadTable.whole_ofInt (k := k) (by omega)).1
  rw [← hnan] at hfinite
  cases hfinite

namespace Request

theorem not_wantsSlot_iff {q : Request} : ¬ q.WantsSlot ↔ q.mode = .box ∧ Preloaded q.number := by
  simp [WantsSlot]

/-- The request `q` asks for the same number as `p`, and boxes it if `p` does. -/
def BoxesToo (p q : Request) : Prop := q.number = p.number ∧ (p.mode = .box → q.mode = .box)

/-- The request `q` boxes a preloaded number that `p` allocates. -/
def Spares (p q : Request) : Prop := p.mode = .allocate ∧ q.mode = .box ∧ Preloaded q.number

instance (p q : Request) : Decidable (p.Spares q) := inferInstanceAs (Decidable (_ ∧ _ ∧ _))

/-- The number of slots that the second history spares. -/
def spared (first second : List Request) : Nat :=
  (first.zip second).countP fun pq => pq.1.Spares pq.2

/-- One of the two requests wants a slot if the other one does, unless it spares it. -/
theorem BoxesToo.wantsSlot_iff {p q : Request} (h : p.BoxesToo q) :
    p.WantsSlot ↔ q.WantsSlot ∨ p.Spares q := by
  obtain ⟨hnumber, hmode⟩ := h
  rw [WantsSlot, WantsSlot, Spares, hnumber]
  cases hp : p.mode with
  | allocate =>
    by_cases hn : Preloaded p.number
    · cases hq : q.mode <;> simp [hn]
    · simp [hn]
  | box => simp [hmode hp]

theorem not_wantsSlot_of_spares {p q : Request} (h : p.Spares q) : ¬ q.WantsSlot :=
  not_wantsSlot_iff.2 h.2

/-- **The slots that are wanted differ by those that are spared**, by induction on the two
histories. -/
theorem countP_wantsSlot {first second : List Request} (h : List.Forall₂ BoxesToo first second) :
    first.countP (·.WantsSlot) = second.countP (·.WantsSlot) + spared first second := by
  induction h with
  | nil => rfl
  | @cons p q first second hpq _ ih =>
    have hiff := hpq.wantsSlot_iff
    rw [spared] at ih ⊢
    rw [List.zip_cons_cons, List.countP_cons, List.countP_cons, List.countP_cons, ih]
    simp only [decide_eq_true_eq]
    -- the first one alone wants a slot, or both do, or neither
    by_cases hspares : p.Spares q
    · rw [if_pos (hiff.2 (.inr hspares)), if_neg (not_wantsSlot_of_spares hspares), if_pos hspares]
      omega
    · by_cases hq : q.WantsSlot
      · rw [if_pos (hiff.2 (.inl hq)), if_pos hq, if_neg hspares]
        omega
      · have hp : ¬ p.WantsSlot := fun hp => (hiff.1 hp).elim hq hspares
        rw [if_neg hp, if_neg hq, if_neg hspares]
        omega

end Request

/-- The reference reads as the number of the request, and is canonical exactly if the number is
preloaded and the request boxes it. -/
structure Request.Served (s : Store) (q : Request) (r : NumberRef) : Prop where
  reads : r.get s = .ok q.number
  isCanonical_iff : r.isCanonical = true ↔ q.mode = .box ∧ Preloaded q.number

theorem Request.Served.of_grows {s t : Store} {q : Request} {r : NumberRef} (h : q.Served s r)
    (hgrows : s.Grows t) : q.Served t r :=
  ⟨NumberRef.get_of_grows hgrows h.reads, h.isCanonical_iff⟩

namespace Arena

open Request (Served)

variable {table : PreloadTable} {a : Arena} {s : Store} {earlier : List PageId}
  {refs : List NumberRef}

/-- An arena with pages of `c` slots yields `m` slots, if pages are granted: they are not of the
greatest size, or the first one is enough. -/
def Yields (c m : Nat) : Prop := c < ArenaConfig.maxPageCapacity ∨ m ≤ c

instance (c m : Nat) : Decidable (Yields c m) := inferInstanceAs (Decidable (_ ∨ _))

theorem Yields.mono {c m m' : Nat} (h : Yields c m') (hm : m ≤ m') : Yields c m :=
  h.imp_right hm.trans

/-- Pages of the greatest size yield no slot beyond the first page. -/
theorem not_yields_of_lt {m : Nat} (h : ArenaConfig.maxPageCapacity < m) :
    ¬ Yields ArenaConfig.maxPageCapacity m :=
  not_or.2 ⟨Nat.lt_irrefl _, Nat.not_le.2 h⟩

namespace Layout

/-- One more slot is there, or can be. -/
theorem takesSlot_of_yields {c m : Nat} {q : Request} (hw : q.WantsSlot)
    (yields : Yields c (m + 1)) (granted : q.memory (8 * c) = true) : q.TakesSlot c m := by
  refine ⟨hw, ?_⟩
  rcases yields with small | hm
  · exact .inr (.inr ⟨small, granted⟩)
  · rw [Nat.mod_eq_of_lt hm]
    omega

/-- **A request that is granted a page if it needs one is served.** -/
theorem serve_granted (h : Layout a s earlier refs) (ht : table.Filled s) {q : Request}
    (granted : q.memory (8 * a.pageCapacity) = true)
    (yields : Yields a.pageCapacity (refs.length + if q.WantsSlot then 1 else 0))
    (fits : refs.length + (if q.WantsSlot then 1 else 0) < UInt64.size) :
    ∃ r a' s' earlier' refs', a.serve table q s = .ok (.ok r, a') s' ∧
      a'.pageCapacity = a.pageCapacity ∧ Layout a' s' earlier' refs' ∧
      refs'.length = refs.length + (if q.WantsSlot then 1 else 0) ∧ q.Served s' r := by
  by_cases hw : q.WantsSlot
  · rw [if_pos hw] at fits yields ⊢
    obtain ⟨⟨r, hr⟩, hcap, ⟨earlier', hlayout⟩, -⟩ := h.respond_of_takes table
      (takesSlot_of_yields hw yields granted) fits
    have hserve := serve_of_answer hr
    rw [hr, takenBy, if_pos hw] at hlayout
    -- the new reference is the last one of the layout, so its page is a counted one
    obtain ⟨hlife, -, -⟩ := hlayout.placed refs.length r List.getElem?_concat_length
    refine ⟨r, _, _, earlier', refs ++ [r], hserve, hcap, hlayout, List.length_append,
      (h.ready.respond_ok ht hr).1, ?_⟩
    rw [← Request.not_wantsSlot_iff, NumberRef.isCanonical, hlife]
    exact ⟨fun hfalse => absurd hfalse Bool.false_ne_true, fun hno => absurd hw hno⟩
  · obtain ⟨r, hget, hserve⟩ := serve_of_shared (a := a) ht hw
    rw [if_neg hw, Nat.add_zero]
    exact ⟨r, a, s, earlier, refs, hserve, rfl, h, rfl, ht.get_of_get? hget,
      fun _ => Request.not_wantsSlot_iff.1 hw, fun _ => ht.isCanonical_of_get? hget⟩

/-- **A granted history is served, and takes the slots that it wants**, by induction on its
requests. -/
theorem serveAll_granted (h : Layout a s earlier refs) (ht : table.Filled s)
    (requests : List Request) (granted : ∀ q ∈ requests, q.memory (8 * a.pageCapacity) = true)
    (yields : Yields a.pageCapacity (refs.length + requests.countP (·.WantsSlot)))
    (fits : refs.length + requests.countP (·.WantsSlot) < UInt64.size) :
    ∃ given a' s' earlier' refs', a.serveAll table requests s = .ok (given.map .ok, a') s' ∧
      a'.pageCapacity = a.pageCapacity ∧ Layout a' s' earlier' refs' ∧
      refs'.length = refs.length + requests.countP (·.WantsSlot) ∧
      List.Forall₂ (Served s') requests given := by
  induction requests generalizing a s earlier refs with
  | nil => exact ⟨[], a, s, earlier, refs, rfl, rfl, h, rfl, .nil⟩
  | cons q rest ih =>
    rw [List.countP_cons] at fits yields ⊢
    simp only [decide_eq_true_eq] at fits yields ⊢
    obtain ⟨r, a₁, s₁, earlier₁, refs₁, hserve, hcap₁, h₁, hlen₁, hserved⟩ :=
      h.serve_granted ht (granted q List.mem_cons_self) (yields.mono (by omega)) (by omega)
    have hgrows := ((keeps_serve table q a).of_ok hserve h.ready.store).2
    obtain ⟨given, a₂, s₂, earlier₂, refs₂, hrest, hcap₂, h₂, hlen₂, hall⟩ :=
      ih h₁ (ht.of_grows hgrows)
        (fun p hp => by rw [hcap₁]; exact granted p (List.mem_cons_of_mem _ hp))
        (by rw [hcap₁, hlen₁]; exact yields.mono (by omega)) (by rw [hlen₁]; omega)
    have hlater := ((keeps_serveAll table rest a₁).of_ok hrest h₁.ready.store).2
    exact ⟨r :: given, a₂, s₂, earlier₂, refs₂, serveAll_cons hserve hrest, hcap₂.trans hcap₁, h₂,
      by rw [hlen₂, hlen₁]; omega, .cons (hserved.of_grows hlater) hall⟩

/-- The page is full and has the greatest size if it was the first one and there is no more. -/
theorem spent_of_not_yields (h : Layout a s earlier refs)
    (yields : Yields a.pageCapacity refs.length)
    (beyond : ¬ Yields a.pageCapacity (refs.length + 1)) : a.Spent s := by
  have hpos := h.ready.pos
  have hmax := h.ready.le_max
  obtain ⟨hgreatest, hlen⟩ : a.pageCapacity = ArenaConfig.maxPageCapacity ∧
      refs.length = a.pageCapacity := by
    unfold Yields at yields beyond
    omega
  refine h.ready.spent_iff.2 ⟨h.full_iff.2 ?_, hgreatest⟩
  rw [hlen, Nat.mod_self]
  omega

/-- A granted request is served, or it wants a slot more than the arena yields and is a fault. -/
theorem granted_or_overfilled (h : Layout a s earlier refs) (ht : table.Filled s) {q : Request}
    (granted : q.memory (8 * a.pageCapacity) = true) (yields : Yields a.pageCapacity refs.length)
    {m : Nat} (beyond : ¬ Yields a.pageCapacity m) :
    (∃ r a' s' earlier' refs', a.serve table q s = .ok (.ok r, a') s' ∧
      a'.pageCapacity = a.pageCapacity ∧ Layout a' s' earlier' refs' ∧
      refs'.length = refs.length + (if q.WantsSlot then 1 else 0) ∧
      Yields a'.pageCapacity refs'.length ∧ q.Served s' r) ∨
    a.serve table q s = .error ⟨.overflow .add, a⟩ s := by
  by_cases last : q.WantsSlot ∧ ¬ Yields a.pageCapacity (refs.length + 1)
  · exact .inr ((serve_of_wantsSlot table last.1).trans
      (h.ready.allocate_of_spent (h.spent_of_not_yields yields last.2) q.memory q.number))
  · have hnext : Yields a.pageCapacity (refs.length + if q.WantsSlot then 1 else 0) := by
      split
      · rename_i hw
        exact not_not.1 fun hno => last ⟨hw, hno⟩
      · exact yields
    have hfits : refs.length + (if q.WantsSlot then 1 else 0) < UInt64.size := by
      have hmax := h.ready.le_max
      unfold Yields ArenaConfig.maxPageCapacity at *
      unfold UInt64.size
      omega
    obtain ⟨r, a', s', earlier', refs', hserve, hcap, h', hlen, hserved⟩ :=
      h.serve_granted ht granted hnext hfits
    exact .inl ⟨r, a', s', earlier', refs', hserve, hcap, h', hlen, by rw [hcap, hlen]; exact hnext,
      hserved⟩

/-- **A granted history that wants more slots than the arena yields ends in a fault**, by induction
on its requests. -/
theorem serveAll_overfilled (h : Layout a s earlier refs) (ht : table.Filled s)
    (requests : List Request) (granted : ∀ q ∈ requests, q.memory (8 * a.pageCapacity) = true)
    (yields : Yields a.pageCapacity refs.length)
    (beyond : ¬ Yields a.pageCapacity (refs.length + requests.countP (·.WantsSlot))) :
    ∃ b s', a.serveAll table requests s = .error ⟨.overflow .add, b⟩ s' := by
  induction requests generalizing a s earlier refs with
  | nil => exact absurd yields beyond
  | cons q rest ih =>
    rcases h.granted_or_overfilled ht (granted q List.mem_cons_self) yields beyond with
      ⟨r, a₁, s₁, earlier₁, refs₁, hserve, hcap₁, h₁, hlen₁, hyields, -⟩ | hbroken
    · rw [List.countP_cons] at beyond
      simp only [decide_eq_true_eq] at beyond
      have hgrows := ((keeps_serve table q a).of_ok hserve h.ready.store).2
      obtain ⟨b, s', hrest⟩ := ih h₁ (ht.of_grows hgrows)
        (fun p hp => by rw [hcap₁]; exact granted p (List.mem_cons_of_mem _ hp)) hyields
        (by rw [hcap₁, hlen₁, Nat.add_assoc, Nat.add_comm (ite _ _ _)]; exact beyond)
      refine ⟨b, s', ?_⟩
      rw [serveAll, bind_of_ok hserve]
      exact bind_of_error hrest
    · exact ⟨a, s, bind_of_error hbroken⟩

end Layout

/-- **A granted history on a new arena**: its references, and the counters that it leaves. -/
theorem serveAll_of_new (h : Layout a s [] []) (ht : table.Filled s) (requests : List Request)
    (granted : ∀ q ∈ requests, q.memory (8 * a.pageCapacity) = true)
    (yields : Yields a.pageCapacity (requests.countP (·.WantsSlot)))
    (fits : requests.length < UInt64.size) :
    ∃ given a' s', a.serveAll table requests s = .ok (given.map .ok, a') s' ∧
      List.Forall₂ (Served s') requests given ∧
      (a'.stats s').slotsAllocated = requests.countP (·.WantsSlot) ∧
      (a'.stats s').pagesAllocated =
        max 1 ((requests.countP (·.WantsSlot) + a.pageCapacity - 1) / a.pageCapacity) := by
  have hle : requests.countP (·.WantsSlot) ≤ requests.length := List.countP_le_length
  have hzero : ([] : List NumberRef).length + requests.countP (·.WantsSlot) =
      requests.countP (·.WantsSlot) := Nat.zero_add _
  obtain ⟨given, a', s', earlier, refs, hserve, hcap, h', hlen, hall⟩ :=
    h.serveAll_granted ht requests granted (by rw [hzero]; exact yields) (by rw [hzero]; omega)
  rw [hzero] at hlen
  obtain ⟨-, hslots, hpages, -⟩ := h'.laidOut
  rw [hlen] at hslots hpages
  rw [hcap] at hpages
  exact ⟨given, a', s', hserve, hall, hslots, hpages⟩

theorem serveAll_of_new_overfilled (h : Layout a s [] []) (ht : table.Filled s)
    (requests : List Request) (granted : ∀ q ∈ requests, q.memory (8 * a.pageCapacity) = true)
    (beyond : ¬ Yields a.pageCapacity (requests.countP (·.WantsSlot))) :
    ∃ b s', a.serveAll table requests s = .error ⟨.overflow .add, b⟩ s' :=
  h.serveAll_overfilled ht requests granted (.inr (Nat.zero_le _))
    (by rw [List.length_nil, Nat.zero_add]; exact beyond)

/-- More slots take no fewer pages. -/
theorem pages_mono {m m' : Nat} (h : m ≤ m') (c : Nat) :
    max 1 ((m + c - 1) / c) ≤ max 1 ((m' + c - 1) / c) := by
  have hdiv : (m + c - 1) / c ≤ (m' + c - 1) / c := Nat.div_le_div_right (by omega)
  omega

end Arena

namespace World

open Arena (Yields)
open Request (BoxesToo Served spared)

/-- What is read is what was asked for. -/
theorem reads_of_served {s : Store} {requests : List Request} {given : List NumberRef}
    (h : List.Forall₂ (Served s) requests given) :
    given.map (·.get s) = (requests.map Request.number).map .ok := by
  rw [List.map_map]
  exact (map_eq_of_forall₂ h fun hq => hq.reads.symm).symm

/-- A new arena has no slots behind it. -/
theorem layout_of_new {w : World} (hw : w.Reachable) {c : Nat}
    (valid : ArenaConfig.validate ⟨c⟩ = .ok ()) :
    ∃ a s, Arena.new c w.store = .ok a s ∧
      (∀ memory : Memory, memory (8 * c) = true →
        Arena.withConfig memory ⟨c⟩ w.store = .ok (.ok a) s) ∧
      a.pageCapacity = c ∧ Arena.Layout a s [] [] ∧ w.table.Filled s := by
  obtain ⟨owners, htenure⟩ := hw.tenure
  have hready := Arena.Ready.of_added (a := ⟨⟨c⟩, _, 1, 0⟩) htenure.store valid rfl
  exact ⟨_, _, Arena.new_of_valid valid w.store,
    fun memory granted => Arena.withConfig_of_granted valid granted w.store, rfl,
    .of_ready hready (Arena.currentPageLen_of_added rfl) rfl rfl,
    htenure.table.of_grows (Store.grows_add _ _)⟩

/-- **Boxing is transparent.** Make an arena with pages of any valid capacity in each of two worlds
that programs reach, and ask them for the same fewer than `2 ^ 64` numbers with all pages granted,
the second one by boxing wherever the first one is asked by boxing. If the first one yields the
slots that it is asked for, both answer every request, and the same is read from their references,
which are canonical exactly where a preloaded number was boxed. The second arena has given fewer
slots, by the number of preloaded numbers that it alone was asked to box, and it has made no more
pages. Otherwise the first history ends in a fault. -/
theorem boxing_is_transparent_if_yielded {w v : World} (hw : w.Reachable) (hv : v.Reachable)
    {c : Nat} (hc : 1 ≤ c) (hc' : c ≤ ArenaConfig.maxPageCapacity) {first second : List Request}
    (boxes : List.Forall₂ BoxesToo first second)
    (granted : ∀ q ∈ first ++ second, q.memory (8 * c) = true)
    (fits : first.length < UInt64.size) :
    ∃ a s b t, Arena.new c w.store = .ok a s ∧ Arena.new c v.store = .ok b t ∧
      (∀ memory : Memory, memory (8 * c) = true →
        Arena.withConfig memory ⟨c⟩ w.store = .ok (.ok a) s ∧
        Arena.withConfig memory ⟨c⟩ v.store = .ok (.ok b) t) ∧
      (Yields c (first.countP (·.WantsSlot)) → ∃ given given' a' s' b' t',
        a.serveAll w.table first s = .ok (given.map .ok, a') s' ∧
        b.serveAll v.table second t = .ok (given'.map .ok, b') t' ∧
        List.Forall₂ (Served s') first given ∧ List.Forall₂ (Served t') second given' ∧
        given'.map (·.get t') = given.map (·.get s') ∧
        (a'.stats s').slotsAllocated = (b'.stats t').slotsAllocated + spared first second ∧
        (b'.stats t').pagesAllocated ≤ (a'.stats s').pagesAllocated) ∧
      (¬ Yields c (first.countP (·.WantsSlot)) → ∃ broken s',
        a.serveAll w.table first s = .error ⟨.overflow .add, broken⟩ s') := by
  have valid : ArenaConfig.validate ⟨c⟩ = .ok () :=
    ArenaConfig.validate_eq_ok_iff.2 ⟨hc, Nat.lt_succ_of_le hc'⟩
  obtain ⟨a, s, hnew, hconfig, hcap, hlayout, htable⟩ := layout_of_new hw valid
  obtain ⟨b, t, hnew', hconfig', hcap', hlayout', htable'⟩ := layout_of_new hv valid
  have hgranted : ∀ q ∈ first, q.memory (8 * a.pageCapacity) = true :=
    fun q hq => by rw [hcap]; exact granted q (List.mem_append_left _ hq)
  have hgranted' : ∀ q ∈ second, q.memory (8 * b.pageCapacity) = true :=
    fun q hq => by rw [hcap']; exact granted q (List.mem_append_right _ hq)
  have hcount := Request.countP_wantsSlot boxes
  refine ⟨a, s, b, t, hnew, hnew',
    fun memory hmem => ⟨hconfig memory hmem, hconfig' memory hmem⟩, fun yields => ?_,
    fun beyond => Arena.serveAll_of_new_overfilled hlayout htable first hgranted
      (by rw [hcap]; exact beyond)⟩
  obtain ⟨given, a', s', hserve, hall, hslots, hpages⟩ :=
    Arena.serveAll_of_new hlayout htable first hgranted (by rw [hcap]; exact yields) fits
  obtain ⟨given', b', t', hserve', hall', hslots', hpages'⟩ :=
    Arena.serveAll_of_new hlayout' htable' second hgranted'
      (by rw [hcap']; exact yields.mono (by omega)) (by rw [← boxes.length_eq]; exact fits)
  have hnumbers : first.map Request.number = second.map Request.number :=
    map_eq_of_forall₂ boxes fun hpq => hpq.1.symm
  refine ⟨given, given', a', s', b', t', hserve, hserve', hall, hall', ?_, ?_, ?_⟩
  · rw [reads_of_served hall, reads_of_served hall', hnumbers]
  · rw [hslots, hslots', hcount]
  · rw [hpages, hpages', hcap, hcap', hcount]
    exact Arena.pages_mono (Nat.le_add_right _ _) c

/-- To box `5` in one more place spares a slot; to box a NaN there spares none. -/
theorem boxing_spares_one_slot :
    ∃ (w v : World) (given given' : List NumberRef) (a b a' b' : Arena) (s t s' t' : Store),
      w.Reachable ∧ v.Reachable ∧ Arena.new 1 w.store = .ok a s ∧ Arena.new 1 v.store = .ok b t ∧
      a.serveAll w.table [⟨.allocate, .ofInt 5, .upTo 8⟩, ⟨.allocate, .nan, .upTo 8⟩,
        ⟨.box, .ofInt 5, .upTo 8⟩] s = .ok (given.map .ok, a') s' ∧
      b.serveAll v.table [⟨.box, .ofInt 5, .upTo 8⟩, ⟨.box, .nan, .upTo 8⟩,
        ⟨.box, .ofInt 5, .upTo 8⟩] t = .ok (given'.map .ok, b') t' ∧
      given'.map (·.get t') = given.map (·.get s') ∧
      (a'.stats s').slotsAllocated = (b'.stats t').slotsAllocated + 1 ∧
      (b'.stats t').pagesAllocated ≤ (a'.stats s').pagesAllocated := by
  have hspares : Preloaded (.ofInt 5) := ⟨5, by decide, by decide, rfl⟩
  have hspared : spared [⟨.allocate, .ofInt 5, .upTo 8⟩, ⟨.allocate, .nan, .upTo 8⟩,
      ⟨.box, .ofInt 5, .upTo 8⟩] [⟨.box, .ofInt 5, .upTo 8⟩, ⟨.box, .nan, .upTo 8⟩,
      ⟨.box, .ofInt 5, .upTo 8⟩] = 1 := by
    simp [spared, Request.Spares, hspares, not_preloaded_nan]
  have boxes : List.Forall₂ BoxesToo [⟨.allocate, .ofInt 5, .upTo 8⟩, ⟨.allocate, .nan, .upTo 8⟩,
      ⟨.box, .ofInt 5, .upTo 8⟩] [⟨.box, .ofInt 5, .upTo 8⟩, ⟨.box, .nan, .upTo 8⟩,
      ⟨.box, .ofInt 5, .upTo 8⟩] :=
    .cons ⟨rfl, fun _ => rfl⟩ (.cons ⟨rfl, fun _ => rfl⟩ (.cons ⟨rfl, fun _ => rfl⟩ .nil))
  obtain ⟨s₀, t₀, hstart, -, -⟩ := start_eq
  have hw := reachable_afterAll hstart []
  obtain ⟨v, b₀, hv⟩ := exists_opened (c := 3) (by decide)
  obtain ⟨a, s, b, t, hnew, hnew', -, hserved, -⟩ :=
    boxing_is_transparent_if_yielded hw hv.reachable (c := 1) (by decide) (by decide) boxes
      (by decide) (by decide : 3 < UInt64.size)
  obtain ⟨given, given', a', s', b', t', hserve, hserve', -, -, hreads, hslots, hpages⟩ :=
    hserved (.inl (by decide))
  rw [hspared] at hslots
  exact ⟨_, v, given, given', a, b, a', b', s, t, s', t', hw, hv.reachable, hnew, hnew', hserve,
    hserve', hreads, hslots, hpages⟩

/-- Ask a new arena for one slot more than a page of the greatest size has: the first page is never
left, though another one would be granted. -/
theorem allocations_break_on_the_greatest_page : ∃ w a s b s', Reachable w ∧
    Arena.new ArenaConfig.maxPageCapacity w.store = .ok a s ∧
    a.serveAll w.table (List.replicate (ArenaConfig.maxPageCapacity + 1)
      ⟨.allocate, .nan, .upTo (8 * ArenaConfig.maxPageCapacity)⟩) s =
        .error ⟨.overflow .add, b⟩ s' := by
  obtain ⟨w, hw⟩ := exists_reachable
  obtain ⟨a, s, hnew, -, hcap, hlayout, htable⟩ :=
    layout_of_new hw (c := ArenaConfig.maxPageCapacity) (by decide)
  have granted : Memory.upTo (8 * ArenaConfig.maxPageCapacity)
      (8 * ArenaConfig.maxPageCapacity) = true := by decide
  have hover {m : Nat} (hm : a.pageCapacity < m) : ∃ b s', a.serveAll w.table (List.replicate m
      ⟨.allocate, .nan, .upTo (8 * ArenaConfig.maxPageCapacity)⟩) s =
        .error ⟨.overflow .add, b⟩ s' := by
    refine Arena.serveAll_of_new_overfilled hlayout htable _ (fun q hq => ?_) ?_
    · rw [List.eq_of_mem_replicate hq, hcap]
      exact granted
    · rw [List.countP_replicate, if_pos (by decide), hcap]
      exact Arena.not_yields_of_lt (hcap ▸ hm)
  obtain ⟨b, s', hserve⟩ := hover (Nat.lt_succ_of_le (Nat.le_of_eq hcap))
  exact ⟨w, a, s, b, s', hw, hnew, hserve⟩

end World

end Boxing
