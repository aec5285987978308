import Boxing.Proofs.World.Act

/-!
# Who may write on a page

`World.Tenure w owners`: each page of the world `w` has an owner, the arena of one register or
nobody. An arena is on a page of its own, and the registers of pages have pages of nobody. Every
call keeps it, with owners for the pages that it makes (`Tenure.step`), so it holds in every world
that a program reaches (`Reachable.tenure`). It keeps arenas apart: a call that does not name an
arena leaves the arena and its page alone (`Tenure.frame`).

`Opened c m w a`: one arena was made in the world `w`, and it gave `m` slots of its first page. A
program reaches worlds with a new arena and with a full one (`exists_opened`, `exists_filled`).
-/

set_option autoImplicit false

namespace Boxing

namespace World

/-- Some program leads to this world. -/
def Reachable (w : World) : Prop :=
  ∃ calls w₀ outcomes, start = .ok w₀ ∧ run calls w₀ = .ok outcomes w

/-- The pages have these owners: the arena of a register, or nobody. -/
structure Tenure (w : World) (owners : List (Option Nat)) : Prop where
  store : w.store.WellFormed
  table : w.table.Filled w.store
  size : owners.length = w.store.pages.size
  half : ∀ h : Half, owners[h.page.id]? = some none
  steady : ∀ {i a}, w.arenas.content? i = some a → a.Steady w.store
  arena : ∀ {i a}, w.arenas.content? i = some a → owners[a.current]? = some (some i)
  page : ∀ {k p}, w.pages.content? k = some p → owners[p.id]? = some none

theorem owner_append {owners : List (Option Nat)} {id : PageId} {o : Option Nat}
    (h : owners[id]? = some o) (more : List (Option Nat)) : (owners ++ more)[id]? = some o := by
  obtain ⟨hid, -⟩ := List.getElem?_eq_some_iff.1 h
  rw [List.getElem?_append_left hid, h]

namespace Tenure

open Call (valid_of_arenaMade)

variable {w w' : World} {owners : List (Option Nat)}

theorem steady_frame (h : Tenure w owners) {i : Nat} {a : Arena}
    (ha : w.arenas.content? i = some a) (hs : w'.store.WellFormed) {id : PageId}
    (hf : Store.Frame id w.store w'.store) (hid : owners[id]? ≠ some (some i)) :
    a.Steady w'.store := by
  refine (h.steady ha).frame hs hf ?_
  rintro rfl
  exact hid (h.arena ha)

section
variable (h : Tenure w owners) (htable : w'.table.Filled w'.store) (hs : w'.store.WellFormed)
include h htable hs

/-- A call that leaves the pages of arenas alone and makes none. -/
theorem keep (id : PageId) (hf : Store.Frame id w.store w'.store)
    (hsize : w'.store.pages.size = w.store.pages.size)
    (hid : ∀ i, owners[id]? ≠ some (some i))
    (harenas : ∀ {i a}, w'.arenas.content? i = some a → w.arenas.content? i = some a)
    (hpages : ∀ {k p}, w'.pages.content? k = some p → w.pages.content? k = some p) :
    Tenure w' (owners ++ []) := by
  rw [List.append_nil]
  exact ⟨hs, htable, h.size.trans hsize.symm, h.half,
    fun ha => h.steady_frame (harenas ha) hs hf (hid _), fun ha => h.arena (harenas ha),
    fun hp => h.page (hpages hp)⟩

/-- A call that makes a page for the owner `o`. -/
theorem add {p : Page} (o : Option Nat) (hstore : w'.store = ⟨w.store.pages.push p⟩)
    (harenas : ∀ {i a}, w'.arenas.content? i = some a → w.arenas.content? i = some a ∨
      (o = some i ∧ a.current = w.store.pages.size ∧ a.Steady w'.store))
    (hpages : ∀ {k p}, w'.pages.content? k = some p → w.pages.content? k = some p ∨
      (o = none ∧ p.id = w.store.pages.size)) : Tenure w' (owners ++ [o]) := by
  have hnew : (owners ++ [o])[w.store.pages.size]? = some o := by simp [← h.size]
  have hf : Store.Frame w.store.pages.size w.store w'.store := by
    rw [hstore]
    exact .add _ _ _
  refine ⟨hs, htable, by simp [hstore, h.size], fun half => owner_append (h.half half) _, ?_, ?_,
    ?_⟩
  · intro i a ha
    rcases harenas ha with hold | ⟨-, -, hsteady⟩
    · exact h.steady_frame hold hs hf (by simp [← h.size])
    · exact hsteady
  · intro i a ha
    rcases harenas ha with hold | ⟨rfl, hcur, -⟩
    · exact owner_append (h.arena hold) _
    · rw [hcur, hnew]
  · intro k p hp
    rcases hpages hp with hold | ⟨rfl, hid⟩
    · exact owner_append (h.page hold) _
    · rw [hid, hnew]

theorem served {i : Nat} {a : Arena} (ha : w.arenas.content? i = some a) {r : Arena.Response}
    (he : Arena.Effect a w.store r) (hstore : w'.store = r.store)
    (harenas : w'.arenas = w.arenas.setIfInBounds i (some r.arena)) (hpages : w'.pages = w.pages) :
    ∃ more, Tenure w' (owners ++ more) := by
  obtain ⟨k, hk⟩ := Nat.exists_eq_add_of_le he.frame.size
  -- the pages that came are the arena's own, be it one or none
  refine ⟨List.replicate k (some i), hs, htable, by simp [hstore, hk, h.size],
    fun half => owner_append (h.half half) _, ?_, ?_,
    fun hp => owner_append (h.page (hpages ▸ hp)) _⟩
  · intro j b hb
    rw [harenas, Registers.content?_setIfInBounds ha] at hb
    split at hb
    · cases hb
      rw [hstore]
      exact he.steady
    · rename_i hj
      refine h.steady_frame hb hs (hstore ▸ he.frame) ?_
      rw [h.arena ha]
      simpa using Ne.symm hj
  · intro j b hb
    rw [harenas, Registers.content?_setIfInBounds ha] at hb
    split at hb
    · rename_i hj
      cases hb
      subst hj
      rcases he.current with hcur | hcur
      · rw [hcur]
        exact owner_append (h.arena ha) _
      · have hmade := he.steady.made
        rw [hcur, hk] at hmade
        have hpos : 0 < k := by simpa using hmade
        rw [hcur, ← h.size, List.getElem?_append_right (Nat.le_refl _), Nat.sub_self,
          List.getElem?_replicate, if_pos hpos]
    · exact owner_append (h.arena hb) _

end

/-- **Every call keeps the owners of the pages that are there.** -/
theorem step (h : Tenure w owners) (call : Call) (memory : Memory) :
    ∃ more, Tenure (call.after memory w) (owners ++ more) := by
  obtain ⟨htable, hleads, -⟩ := call.effect memory h.store h.table
  obtain ⟨hs, hgrows⟩ := hleads h.store
  have ht : (call.after memory w).table.Filled (call.after memory w).store :=
    htable ▸ h.table.of_grows hgrows
  have hacts := call.acts memory h.store h.table
  generalize faultOf (call.perform memory w) = fault at hacts
  generalize call.after memory w = w' at *
  cases hacts with
  | still hfault hmade hstore harenas hpages =>
    refine ⟨[], h.keep ht hs w.store.pages.size ?_ (by rw [hstore]) ?_ ?_ hpages⟩
    · rw [hstore]
      exact .refl _ _
    · simp [← h.size]
    · intro i a ha
      rw [harenas] at ha
      split at ha
      · rwa [Registers.content?_push_none] at ha
      · exact ha
  | @arenaMade c _ hmade hstore harenas hpages =>
    refine ⟨[some w.arenas.size], h.add ht hs _ hstore (fun {i a} ha => ?_) fun hp => ?_⟩
    · rw [harenas, Registers.content?_push] at ha
      split at ha
      · rename_i hi
        cases ha
        rw [hstore]
        exact .inr ⟨by rw [hi], rfl, .of_made h.store (valid_of_arenaMade hmade)⟩
      · exact .inl ha
    · exact .inl (hpages ▸ hp)
  | pageMade hsafe hmakes hstore harenas hpages =>
    refine ⟨[none], h.add ht hs _ hstore (fun ha => .inl (harenas ▸ ha)) fun {k p} hp => ?_⟩
    rw [hpages, Registers.content?_push] at hp
    split at hp
    · cases hp
      exact .inr ⟨rfl, rfl⟩
    · exact .inl hp
  | pushed hsafe hmakes hp room hstore harenas hpages =>
    refine ⟨[], h.keep ht hs _ (hstore ▸ Store.Frame.setPage _ _ _) ?_ ?_
      (fun ha => harenas ▸ ha) fun hq => hpages ▸ hq⟩
    · simp [hstore, Store.setPage]
    · simp [h.page hp]
  | served hcall ha hr hfault hstore harenas hpages =>
    exact h.served ht hs ha (hr ▸ (h.steady ha).effect h.table _) hstore harenas hpages
  | @arenaDropped i _ hcall hstore harenas hpages =>
    refine ⟨[], h.keep ht hs w.store.pages.size ?_ (by rw [hstore]) ?_ ?_
      fun hq => hpages ▸ hq⟩
    · rw [hstore]
      exact .refl _ _
    · simp [← h.size]
    · intro j a ha
      rw [harenas] at ha
      exact Registers.content?_of_clear ha

/-- **A call that concerns other arenas leaves an arena alone**, with its page. -/
theorem frame (h : Tenure w owners) (call : Call) (memory : Memory) {i : Nat}
    (hm : ∀ mode n, call ≠ .mint i mode n) (hd : call ≠ .dropArena i)
    (hi : call.makesArena = true → i ≠ w.arenas.size) :
    (call.after memory w).arenas.content? i = w.arenas.content? i ∧
      ∀ a, w.arenas.content? i = some a →
        (call.after memory w).store.page a.current = w.store.page a.current := by
  have hacts := call.acts memory h.store h.table
  generalize faultOf (call.perform memory w) = fault at hacts
  generalize call.after memory w = w' at *
  cases hacts with
  | still hfault hmade hstore harenas hpages =>
    refine ⟨?_, fun a _ => by rw [hstore]⟩
    rw [harenas]
    split
    · exact Registers.content?_push_none _ _
    · rfl
  | arenaMade hmade hstore harenas hpages =>
    refine ⟨?_, fun a ha => ?_⟩
    · rw [harenas, Registers.content?_push, if_neg (hi (Call.makesArena_of_arenaMade hmade))]
    · rw [hstore]
      exact Store.page_push_of_lt (h.steady ha).made _
  | pageMade hsafe hmakes hstore harenas hpages =>
    refine ⟨by rw [harenas], fun a ha => ?_⟩
    rw [hstore]
    exact Store.page_push_of_lt (h.steady ha).made _
  | pushed hsafe hmakes hp room hstore harenas hpages =>
    refine ⟨by rw [harenas], fun a ha => ?_⟩
    rw [hstore]
    -- a page in a register is nobody's, so it is not the page of the arena
    refine Store.page_setPage_ne _ (fun heq => ?_) _
    have howner := h.arena ha
    rw [heq, h.page hp] at howner
    cases howner
  | @served j b mode n r _ _ hcall hb hr hfault hstore harenas hpages =>
    have hne : i ≠ j := fun hij => hm mode n (by rw [hij, hcall])
    refine ⟨by rw [harenas, Registers.content?_setIfInBounds hb, if_neg hne], fun a ha => ?_⟩
    rw [hstore, ← hr]
    refine ((h.steady hb).effect h.table _).frame.page (h.steady ha).made fun heq => hne ?_
    have howner := h.arena ha
    rw [heq, h.arena hb] at howner
    cases howner
    rfl
  | @arenaDropped j _ hcall hstore harenas hpages =>
    have hne : i ≠ j := fun hij => hd (by rw [hij, hcall])
    exact ⟨by rw [harenas, Registers.content?_clear, if_neg hne], fun a _ => by rw [hstore]⟩

theorem size_arenas (h : Tenure w owners) (call : Call) (memory : Memory) :
    (call.after memory w).arenas.size = w.arenas.size + if call.makesArena then 1 else 0 := by
  have hacts := call.acts memory h.store h.table
  generalize faultOf (call.perform memory w) = fault at hacts
  generalize call.after memory w = w' at *
  cases hacts with
  | still hfault hmade hstore harenas hpages =>
    rw [harenas]
    split <;> simp
  | arenaMade hmade hstore harenas hpages =>
    simp [harenas, Call.makesArena_of_arenaMade hmade]
  | pageMade hsafe hmakes hstore harenas hpages => simp [harenas, hmakes]
  | pushed hsafe hmakes hp room hstore harenas hpages => simp [harenas, hmakes]
  | served hcall hb hr hfault hstore harenas hpages => simp [harenas, hcall, Call.makesArena]
  | arenaDropped hcall hstore harenas hpages =>
    simp [harenas, hcall, Call.makesArena, Registers.clear]

/-- **Every program keeps the owners**, by induction on its calls. -/
theorem run (h : Tenure w owners) (calls : List (Call × Memory)) :
    ∃ more, Tenure (afterAll calls w) (owners ++ more) := by
  induction calls generalizing w owners with
  | nil => exact ⟨[], by rwa [List.append_nil]⟩
  | cons head rest ih =>
    obtain ⟨first, hfirst⟩ := h.step head.1 head.2
    obtain ⟨more, hmore⟩ := ih hfirst
    exact ⟨first ++ more, by rwa [← List.append_assoc]⟩

theorem start {s : Store} {t : PreloadTable} (hs : s.WellFormed) (ht : t.Filled s) :
    Tenure ⟨s, t, #[], #[], #[], #[]⟩ (List.replicate s.pages.size none) := by
  have hmade (half : Half) : half.page.id < s.pages.size := by
    cases half with
    | nonNegative => exact Store.lt_of_get (ht.get (k := 0) (by decide) (by decide))
    | negative =>
      have hread := ht.get (k := -1) (by decide) (by decide)
      have hhalf : Half.ofInt (-1) = .negative := by decide
      rw [NumberRef.get, Half.ref, hhalf] at hread
      exact Store.lt_of_get hread
  have hnone {α : Type} {i : Nat} {a : α} : Registers.content? #[] i ≠ some a := by
    simp [Registers.content?]
  refine ⟨hs, ht, List.length_replicate, fun half => ?_, fun ha => absurd ha hnone,
    fun ha => absurd ha hnone, fun hp => absurd hp hnone⟩
  rw [List.getElem?_replicate, if_pos (hmade half)]

end Tenure

theorem start_eq : ∃ s t, start = .ok ⟨s, t, #[], #[], #[], #[]⟩ ∧ s.WellFormed ∧ t.Filled s := by
  obtain ⟨t, s, hbuild, hs, ht⟩ := PreloadTable.build_eq
  exact ⟨s, t, by rw [start, hbuild, ofBuilt], hs, ht⟩

theorem reachable_afterAll {w₀ : World} (h : start = .ok w₀) (calls : List (Call × Memory)) :
    Reachable (afterAll calls w₀) := by
  obtain ⟨outcomes, hrun⟩ := run_eq calls w₀
  exact ⟨calls, w₀, outcomes, h, hrun⟩

theorem exists_reachable : ∃ w, Reachable w := by
  obtain ⟨s, t, hstart, -, -⟩ := start_eq
  exact ⟨_, reachable_afterAll hstart []⟩

theorem Reachable.exists_calls {w : World} (h : w.Reachable) :
    ∃ calls w₀, start = .ok w₀ ∧ w = afterAll calls w₀ := by
  obtain ⟨calls, w₀, outcomes, hstart, hrun⟩ := h
  obtain ⟨outcomes', hrun'⟩ := run_eq calls w₀
  rw [hrun'] at hrun
  cases hrun
  exact ⟨calls, w₀, hstart, rfl⟩

theorem Reachable.after {w : World} (hw : w.Reachable) (call : Call) (memory : Memory) :
    Reachable (call.after memory w) := by
  obtain ⟨calls, w₀, hstart, rfl⟩ := hw.exists_calls
  have hafter : afterAll (calls ++ [(call, memory)]) w₀ =
      call.after memory (afterAll calls w₀) := by
    rw [afterAll, List.foldl_append]
    rfl
  exact hafter ▸ reachable_afterAll hstart _

/-- **In a world that a program reaches, the pages have owners.** -/
theorem Reachable.tenure {w : World} (h : w.Reachable) : ∃ owners, Tenure w owners := by
  obtain ⟨calls, w₀, hstart, rfl⟩ := h.exists_calls
  obtain ⟨s, t, hstart', hs, ht⟩ := start_eq
  rw [hstart'] at hstart
  cases hstart
  obtain ⟨more, hmore⟩ := (Tenure.start hs ht).run calls
  exact ⟨_, hmore⟩

theorem Reachable.filled {w : World} (h : w.Reachable) : w.table.Filled w.store := by
  obtain ⟨owners, htenure⟩ := h.tenure
  exact htenure.table

/-! ## Programs with one arena -/

/-- The only arena is in register `0`, with pages of `c` slots. It gave `m` slots, all of its first
page. -/
structure Opened (c m : Nat) (w : World) (a : Arena) : Prop where
  reachable : w.Reachable
  arenas : w.arenas = #[some a]
  config : a.config = ⟨c⟩
  pages : a.pagesAllocated = 1
  slots : a.slotsAllocated = m
  len : a.currentPageLen w.store = m

/-- A program that makes an arena reaches a world in which it stands on an empty page. -/
theorem exists_opened {c : Nat} (valid : ArenaConfig.validate ⟨c⟩ = .ok ()) :
    ∃ w a, Opened c 0 w a := by
  obtain ⟨s, t, hstart, -, -⟩ := start_eq
  have hw := reachable_afterAll hstart [(.newArena c, .exhausted)]
  have hkeep := Shelf.keep_of_ok .arenas (onStore_of_ok (w := ⟨s, t, #[], #[], #[], #[]⟩)
    (Arena.new_of_valid valid s))
  have hafter : afterAll [(.newArena c, .exhausted)] ⟨s, t, #[], #[], #[], #[]⟩ =
      ⟨⟨s.pages.push (Page.new (UInt32.ofNat c))⟩, t, #[some ⟨⟨c⟩, s.pages.size, 1, 0⟩], #[], #[],
        #[]⟩ := by
    rw [afterAll, List.foldl_cons, List.foldl_nil, Call.after, Call.perform, map_of_ok hkeep]
    rfl
  rw [hafter] at hw
  exact ⟨_, ⟨⟨c⟩, s.pages.size, 1, 0⟩, hw, rfl, rfl, rfl, rfl, Arena.currentPageLen_of_added rfl⟩

namespace Opened

variable {c m : Nat} {w : World} {a : Arena} (h : Opened c m w a)
include h

theorem content : w.arenas.content? 0 = some a := by
  rw [h.arenas]
  rfl

/-- No other register has an arena. -/
theorem eq_of_content {i : Nat} {b : Arena} (hb : w.arenas.content? i = some b) : b = a := by
  have hi := Registers.lt_of_content hb
  rw [h.arenas] at hb hi
  obtain rfl : i = 0 := Nat.lt_one_iff.1 hi
  cases hb
  rfl

theorem pageCapacity : a.pageCapacity = c := by rw [Arena.pageCapacity, h.config]

theorem ready : a.Ready w.store := by
  obtain ⟨owners, htenure⟩ := h.reachable.tenure
  exact (htenure.steady h.content).toReady

/-- The counters are far from the end of a word. -/
theorem room (hm : m ≤ c) :
    a.slotsAllocated + 1 < UInt64.size ∧ a.pagesAllocated + 1 < UInt64.size := by
  have hvalid := h.ready.valid
  rw [h.pageCapacity] at hvalid
  have hc := (ArenaConfig.validate_eq_ok_iff.1 hvalid).2
  change c < UInt32.size at hc
  rw [h.slots, h.pages]
  unfold UInt32.size at hc
  unfold UInt64.size
  omega

theorem mint (hm : m < c) (n : Binary64) : ∃ w' a', Opened c (m + 1) w' a' := by
  have hready := h.ready
  have room : a.currentPageLen w.store < a.pageCapacity := by
    rw [h.len, h.pageCapacity]
    exact hm
  have hserve : a.serve w.table ⟨.allocate, n, .exhausted⟩ w.store = _ :=
    hready.allocate_of_room room (h.room (Nat.le_of_lt hm)).1 .exhausted n
  obtain ⟨-, hstore, harenas, -⟩ := Call.after_mint (mint_eq h.content .exhausted .allocate n)
  rw [Arena.respond_of_ok hserve, stateAfter_ended] at hstore harenas
  refine ⟨_, a.counted, h.reachable.after (.mint 0 .allocate n) .exhausted, ?_, h.config, h.pages,
    congrArg (· + 1) h.slots, ?_⟩
  · rw [harenas, settled, h.arenas]
    rfl
  · rw [hstore, settled, hready.currentPageLen_counted, h.len]

end Opened

/-- A program that makes an arena and fills its first page, by induction on the slots. -/
theorem exists_filled {c : Nat} (valid : ArenaConfig.validate ⟨c⟩ = .ok ()) :
    ∃ w a, Opened c c w a := by
  have hfill (m : Nat) (hm : m ≤ c) : ∃ w a, Opened c m w a := by
    induction m with
    | zero => exact exists_opened valid
    | succ m ih =>
      obtain ⟨w, a, h⟩ := ih (Nat.le_of_succ_le hm)
      exact h.mint hm .nan
  exact hfill c (Nat.le_refl c)

end World

end Boxing
