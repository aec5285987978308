import Boxing.Proofs.Arena.FastPath
import Boxing.Proofs.Arena.Respond
import Boxing.Proofs.Exchange.Parcels

/-!
# Producers in one store

Each producer has its arena on a page of its own (`Crew.apart`), so what one of them does leaves the
arenas of the others as they were. `Producer.Kept` is what the counters of a producer come to: one
slot for every second number that it boxed. A new crew has boxed nothing (`Crew.newProducers`), and
a producer that goes on keeps the crew (`Crew.set`), be it that it boxes (`Producer.Kept.box`) or
that it lets go of its arena (`Producer.Kept.finish`). A slot that its arena does not yield is a
fault (`Producer.Kept.box_overfilled`).
-/

set_option autoImplicit false

namespace Boxing

namespace Arena.Layout

variable {a : Arena} {s t : Store} {earlier : List PageId} {refs : List NumberRef}

/-- What happens on another page leaves the layout as it is. -/
theorem frame (h : Layout a s earlier refs) (ht : t.WellFormed) {id : PageId}
    (hf : Store.Frame id s t) (hne : a.current ≠ id) : Layout a t earlier refs := by
  have hlen := h.ready.currentPageLen_frame hf hne
  refine ⟨h.ready.frame ht hf hne, h.order, h.pages, h.slots, ?_, ?_, h.placed⟩
  · rw [hlen]
    exact h.count
  · rw [hlen]
    exact h.used

theorem steady (h : Layout a s earlier refs) : Steady a s := by
  have hcount := h.count
  have hused := h.used
  have hmul := Nat.le_mul_of_pos_right earlier.length h.ready.pos
  refine ⟨h.ready, ?_, ?_⟩
  · rw [h.slots]
    omega
  · rw [h.slots, h.pages]
    omega

end Arena.Layout

namespace Producer

/-- The page that the producer writes on. -/
def page? (p : Producer) : Option PageId := p.arena?.map Arena.current

/-- The counters of a producer with pages of `c` slots: of the numbers that it boxed, those at odd
positions have a slot. -/
def Kept (c quota : Nat) (s : Store) : Producer → Prop
  | working a made => made ≤ quota ∧ a.pageCapacity = c ∧
      ∃ earlier refs, Arena.Layout a s earlier refs ∧ refs.length = made / 2
  | finished stats => stats.slotsAllocated = quota / 2 ∧
      stats.pagesAllocated = max 1 ((quota / 2 + c - 1) / c)

namespace Kept

variable {c quota : Nat} {s t : Store} {p : Producer}

theorem lt_size (h : p.Kept c quota s) {id : PageId} (hid : p.page? = some id) :
    id < s.pages.size := by
  cases p with
  | working a made =>
    obtain ⟨-, -, earlier, refs, hlayout, -⟩ := h
    cases hid
    exact hlayout.ready.made
  | finished stats => cases hid

theorem frame (h : p.Kept c quota s) (ht : t.WellFormed) {id : PageId}
    (hf : Store.Frame id s t) (hne : p.page? ≠ some id) : p.Kept c quota t := by
  cases p with
  | working a made =>
    obtain ⟨hle, hcap, earlier, refs, hlayout, hlen⟩ := h
    exact ⟨hle, hcap, earlier, refs, hlayout.frame ht hf fun heq => hne (congrArg some heq), hlen⟩
  | finished stats => exact h

theorem made_le (h : p.Kept c quota s) : p.made quota ≤ quota := by
  cases p with
  | working a made => exact h.1
  | finished stats => exact Nat.le_refl _

/-- **The counters of a producer that boxed all its numbers.** -/
theorem stats_eq (h : p.Kept c quota s) (hmade : p.made quota = quota) :
    (p.stats s).slotsAllocated = quota / 2 ∧
      (p.stats s).pagesAllocated = max 1 ((quota / 2 + c - 1) / c) := by
  cases p with
  | working a made =>
    obtain ⟨-, hcap, earlier, refs, hlayout, hlen⟩ := h
    change made = quota at hmade
    obtain ⟨-, hslots, hpages, -⟩ := hlayout.laidOut
    rw [hlen, hmade] at hslots hpages
    rw [hcap] at hpages
    exact ⟨hslots, hpages⟩
  | finished stats => exact h

/-- A producer that boxed all its numbers can let go of its arena. -/
theorem finish {a : Arena} (h : (working a quota).Kept c quota s) :
    (finished (a.stats s)).Kept c quota s := h.stats_eq rfl

end Kept

section
variable {producers quota i made : Nat} (hexact : Parcel.Exact producers quota) (hi : i < producers)
  (hmade : made < quota)
include hexact hi hmade

/-- The slots of a producer can be counted. -/
theorem fits_of_exact : made / 2 + 1 < UInt64.size := by
  have hlt : made < 2 ^ 52 + 1 := by
    rcases Nat.mod_two_eq_zero_or_one made with heven | hodd
    · rcases Nat.eq_zero_or_pos made with rfl | hpos
      · exact Nat.succ_pos _
      · have := hexact i (made - 1) hi (by omega) (by omega)
        omega
    · have := hexact i made hi hmade hodd
      omega
  unfold UInt64.size
  omega

/-- The numbers at odd positions want slots. -/
theorem wantsSlot_number_iff (memory : Memory) :
    Request.WantsSlot ⟨.box, Parcel.number i made, memory⟩ ↔ made % 2 = 1 := by
  rw [← not_iff_not, Request.not_wantsSlot_iff, Nat.mod_two_not_eq_one]
  refine ⟨fun h => ?_, fun heven => ⟨rfl, Parcel.preloaded_of_even heven⟩⟩
  rcases Nat.mod_two_eq_zero_or_one made with heven | hodd
  · exact heven
  · exact absurd h.2 (Parcel.not_preloaded_of_odd hodd (hexact i made hi hmade hodd))

/-- What is answered for the next number makes a sound parcel. -/
theorem sound_of_served {table : PreloadTable} {memory : Memory} {s s' : Store} {a a' : Arena}
    {r : NumberRef} (ht : table.Filled s)
    (hbox : a.box table memory (Parcel.number i made) s = .ok (.ok r, a') s')
    (hserved : Request.Served s' ⟨.box, Parcel.number i made, memory⟩ r) :
    Parcel.Sound table s' ⟨i, made, r⟩ := by
  have hwants := wantsSlot_number_iff hexact hi hmade memory
  refine ⟨hserved.reads, fun heven => ?_, fun hodd => ?_⟩
  · obtain ⟨entry, hentry, hshared⟩ :=
      Arena.serve_of_shared (a := a) ht (hwants.not.2 (Nat.mod_two_not_eq_one.2 heven))
    cases hbox.symm.trans hshared
    exact hentry
  · have hno := Parcel.not_preloaded_of_odd hodd (hexact i made hi hmade hodd)
    refine ⟨table.get?_of_not_preloaded hno, ?_⟩
    rw [← Bool.not_eq_true, hserved.isCanonical_iff]
    exact fun h => hno h.2

/-- **A producer boxes its next number.** It gets a sound parcel, its counters are kept, and of the
pages that were there it writes on its own only. -/
theorem Kept.box {c : Nat} {s : Store} {table : PreloadTable} {memory : Memory} {a : Arena}
    (h : (working a made).Kept c quota s) (ht : table.Filled s)
    (granted : memory (8 * c) = true) (yields : Arena.Yields c ((made + 1) / 2)) :
    ∃ r a' s', a.box table memory (Parcel.number i made) s = .ok (.ok r, a') s' ∧
      (working a' (made + 1)).Kept c quota s' ∧ Parcel.Sound table s' ⟨i, made, r⟩ ∧
      s'.WellFormed ∧ s.Grows s' ∧ Store.Frame a.current s s' ∧
      (a'.current = a.current ∨ a'.current = s.pages.size) := by
  obtain ⟨-, hcap, earlier, refs, hlayout, hlen⟩ := h
  have hfits := fits_of_exact hexact hi hmade
  have hwants := wantsSlot_number_iff hexact hi hmade memory
  have hslots : made / 2 + (if Request.WantsSlot ⟨.box, Parcel.number i made, memory⟩ then 1
      else 0) = (made + 1) / 2 := by
    rw [ite_cond_congr (propext hwants)]
    split <;> omega
  rw [← hlen] at hslots
  obtain ⟨r, a', s', earlier', refs', hbox, hcap', hlayout', hlen', hserved⟩ :=
    hlayout.serve_granted ht (q := ⟨.box, Parcel.number i made, memory⟩)
      (by rw [hcap]; exact granted) (by rw [hslots, hcap]; exact yields) (by rw [hslots]; omega)
  have heffect := hlayout.steady.effect ht ⟨.box, Parcel.number i made, memory⟩
  rw [Arena.respond_of_ok hbox] at heffect
  obtain ⟨hs', hgrows⟩ := (Arena.keeps_serve table ⟨.box, Parcel.number i made, memory⟩ a).of_ok
    hbox hlayout.ready.store
  refine ⟨r, a', s', hbox, ⟨hmade, hcap'.trans hcap, earlier', refs', hlayout', ?_⟩,
    sound_of_served hexact hi hmade ht hbox hserved, hs', hgrows, heffect.frame, heffect.current⟩
  rw [hlen', hslots]

/-- A number whose slot the arena does not yield is a fault. -/
theorem Kept.box_overfilled {c : Nat} {s : Store} {table : PreloadTable} {memory : Memory}
    {a : Arena} (h : (working a made).Kept c quota s) (ht : table.Filled s)
    (granted : memory (8 * c) = true) (yields : Arena.Yields c (made / 2))
    (beyond : ¬ Arena.Yields c ((made + 1) / 2)) :
    a.box table memory (Parcel.number i made) s = .error ⟨.overflow .add, a⟩ s := by
  obtain ⟨-, rfl, earlier, refs, hlayout, hlen⟩ := h
  have hwants := wantsSlot_number_iff hexact hi hmade memory
  have hodd : made % 2 = 1 := by
    by_contra heven
    exact beyond (yields.mono (by omega))
  rcases hlayout.granted_or_overfilled ht (q := ⟨.box, Parcel.number i made, memory⟩) granted
      (by rw [hlen]; exact yields) beyond with
    ⟨r, a', s', _, refs', _, hcap, _, hlen', hno, _⟩ | hbroken
  · rw [hlen', if_pos (hwants.2 hodd), hlen, hcap] at hno
    exact absurd (hno.mono (by omega)) beyond
  · exact hbroken

end

end Producer

/-! ## The crew -/

/-- Producers with pages of `c` slots, each with its arena on a page of its own. -/
structure Crew (c quota : Nat) (producers : Array Producer) (s : Store) : Prop where
  kept : ∀ {i : Nat} {p : Producer}, producers[i]? = some p → p.Kept c quota s
  apart : ∀ {i j : Nat} {p q : Producer} {id : PageId}, producers[i]? = some p →
    producers[j]? = some q → p.page? = some id → q.page? = some id → i = j

namespace Crew

variable {c quota : Nat} {producers : Array Producer} {s t : Store} {i : Nat} {p : Producer}

/-- **One producer goes on**, and stays on its page or gets a new one. The others are left alone. -/
theorem set (h : Crew c quota producers s) (hp : producers[i]? = some p) {id : PageId}
    (hid : p.page? = some id) {q : Producer} (ht : t.WellFormed) (hf : Store.Frame id s t)
    (hq : q.Kept c quota t)
    (hpage : ∀ {new}, q.page? = some new → new = id ∨ new = s.pages.size) :
    Crew c quota (producers.setIfInBounds i q) t := by
  have hi := (Array.getElem?_eq_some_iff.1 hp).1
  -- another producer is on an old page, which was not this one's and is not now
  have hother {j : Nat} {o : Producer} {old : PageId} (ho : producers[j]? = some o) (hj : j ≠ i)
      (hold : o.page? = some old) : old ≠ id ∧ q.page? ≠ some old := by
    have hne : old ≠ id := fun heq => hj (h.apart ho hp (heq ▸ hold) hid)
    refine ⟨hne, fun hsame => ?_⟩
    rcases hpage hsame with heq | heq
    · exact hne heq
    · exact Nat.ne_of_lt ((h.kept ho).lt_size hold) heq
  refine ⟨fun {j o} ho => ?_, fun {j k o o' new} ho ho' hnew hnew' => ?_⟩
  · rw [getElem?_setIfInBounds_of_lt hi] at ho
    split at ho
    · cases ho
      exact hq
    · rename_i hj
      exact (h.kept ho).frame ht hf fun hsame => (hother ho hj hsame).1 rfl
  · rw [getElem?_setIfInBounds_of_lt hi] at ho ho'
    split at ho <;> split at ho'
    · rename_i hj hk
      rw [hj, hk]
    · rename_i hj hk
      cases ho
      exact absurd hnew (hother ho' hk hnew').2
    · rename_i hj hk
      cases ho'
      exact absurd hnew' (hother ho hj hnew).2
    · exact h.apart ho ho' hnew hnew'

theorem nil (c quota : Nat) (s : Store) : Crew c quota [].toArray s := by
  refine ⟨fun {i p} hp => ?_, fun {i j p q id} hp => ?_⟩
  · cases hp
  · cases hp

/-- A producer on a page that no other one is on joins the crew. -/
theorem cons {new : List Producer} (h : Crew c quota new.toArray s) (hp : p.Kept c quota s)
    (hpage : ∀ {q id}, q ∈ new → q.page? = some id → p.page? ≠ some id) :
    Crew c quota (p :: new).toArray s := by
  have hold {j : Nat} {q : Producer} (hq : new[j]? = some q) : new.toArray[j]? = some q := by
    rw [List.getElem?_toArray, hq]
  refine ⟨fun {i q} hq => ?_, fun {i j q q' id} hq hq' hid hid' => ?_⟩
  · rw [List.getElem?_toArray] at hq
    cases i with
    | zero =>
      cases hq
      exact hp
    | succ i => exact h.kept (hold hq)
  · rw [List.getElem?_toArray] at hq hq'
    cases i with
    | zero =>
      cases hq
      cases j with
      | zero => rfl
      | succ j => exact absurd hid (hpage (List.mem_of_getElem? hq') hid')
    | succ i =>
      cases j with
      | zero =>
        cases hq'
        exact absurd hid' (hpage (List.mem_of_getElem? hq) hid)
      | succ j => exact congrArg (· + 1) (h.apart (hold hq) (hold hq') hid hid')

/-- **A new crew has boxed nothing**; by induction on how many producers there are. -/
theorem newProducers (valid : ArenaConfig.validate ⟨c⟩ = .ok ()) (count quota : Nat) {s : Store}
    (hs : s.WellFormed) :
    ∃ new t, Exchange.newProducers c count s = .ok new t ∧ new.length = count ∧ t.WellFormed ∧
      s.Grows t ∧ (∀ id, Store.Frame id s t) ∧ Crew c quota new.toArray t ∧
      (∀ p ∈ new, p.made quota = 0 ∧ ∀ {id}, p.page? = some id → s.pages.size ≤ id) := by
  induction count generalizing s with
  | zero =>
    exact ⟨[], s, rfl, rfl, hs, .refl s, fun id => .refl id s, .nil c quota s,
      fun p hp => absurd hp List.not_mem_nil⟩
  | succ count ih =>
    have hnew := Arena.new_of_valid valid s
    have hready := Arena.Ready.of_added (a := ⟨⟨c⟩, s.pages.size, 1, 0⟩) hs valid rfl
    have hlayout := Arena.Layout.of_ready hready (Arena.currentPageLen_of_added rfl) rfl rfl
    obtain ⟨new, t, hrest, hlen, ht, hgrows, hframe, hcrew, hfresh⟩ := ih hready.store
    -- the pages of the others are made later
    have hlater {q : Producer} {id : PageId} (hq : q ∈ new) (hid : q.page? = some id) :
        s.pages.size < id := Nat.lt_of_lt_of_le hready.made ((hfresh q hq).2 hid)
    have hfirst : (Producer.working ⟨⟨c⟩, s.pages.size, 1, 0⟩ 0).Kept c quota t :=
      Producer.Kept.frame ⟨Nat.zero_le _, rfl, [], [], hlayout, rfl⟩ ht (hframe (s.pages.size + 1))
        fun hsame => Nat.ne_of_lt (Nat.lt_succ_self _) (Option.some.inj hsame)
    refine ⟨_ :: new, t, ?_, congrArg (· + 1) hlen, ht, (Store.grows_add s _).trans hgrows,
      fun id => (Store.Frame.add id s _).trans (hframe id),
      hcrew.cons hfirst fun hq hid hsame => ?_, fun p hp => ?_⟩
    · rw [Exchange.newProducers, bind_of_ok hnew]
      exact bind_of_ok hrest
    · exact Nat.ne_of_lt (hlater hq hid) (Option.some.inj hsame)
    · rcases List.mem_cons.1 hp with rfl | hp
      · exact ⟨rfl, fun hid => Nat.le_of_eq (Option.some.inj hid)⟩
      · exact ⟨(hfresh p hp).1, fun hid => Nat.le_of_lt (hlater hp hid)⟩

end Crew

end Boxing
