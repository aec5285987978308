import Boxing.Proofs.World.Apart

/-!
# The two ways to make an arena

`Arena.new` and `Arena.withConfig` check a capacity alike and refuse it with the same words. What
they make are twins, wherever they are made, and twins tell the same of every history of requests
(`Twin.entries`). So the two constructors differ in one point: the second one can be refused its
first page, and says so (`constructors_agree`).
-/

set_option autoImplicit false

namespace Boxing

namespace Arena

/-! ## What twins tell -/

/-- The entry of a request for `n` that has ended so. -/
def Response.entry (n : Binary64) (r : Response) : Entry :=
  ⟨n, r.result, r.result.bind fun ref => (ref.state r.store).mapError .fault,
    some (r.arena.stats r.store)⟩

/-- What came of the requests of the holder of an arena, in order. -/
def entries (table : PreloadTable) : List Request → Arena → Store → List Entry
  | [], _, _ => []
  | q :: rest, a, s =>
    let r := a.respond table q s
    r.entry q.number :: entries table rest r.arena r.store

/-- The world in which the arena is the only one. -/
def around (a : Arena) (table : PreloadTable) (s : Store) : World :=
  ⟨s, table, #[some a], #[], #[], #[]⟩

theorem content?_around (a : Arena) (table : PreloadTable) (s : Store) (r : Response) :
    ((around a table s).settled 0 r).arenas.content? 0 = some r.arena :=
  World.content?_settled (a := a) rfl r

/-- It is the entry of a request to the arena in the only register. -/
theorem Response.entry_eq (n : Binary64) (r : Response) (a : Arena) (table : PreloadTable)
    (s : Store) :
    World.entry 0 n (World.ended r.result ((around a table s).settled 0 r)) = r.entry n := by
  rw [World.entry_ended, content?_around]
  rfl

/-- **Twins tell the same of every history**, by induction on its requests. -/
theorem Twin.entries {M : PageId → PageId → Prop} {a b : Arena} {s t : Store}
    {table : PreloadTable} (requests : List Request) (h : Twin M a s b t) (hp : Pairs M s t)
    (ha : Steady a s) (hb : Steady b t) (hs : table.Filled s) (ht : table.Filled t)
    (hhalf : ∀ half : Half, M half.page.id half.page.id) :
    ∃ M' s' t', (∀ {p q}, M p q → M' p q) ∧ Pairs M' s' t' ∧
      List.Forall₂ (Entry.Alike M') (a.entries table requests s) (b.entries table requests t) := by
  induction requests generalizing M a b s t with
  | nil => exact ⟨M, s, t, id, hp, .nil⟩
  | cons q rest ih =>
    obtain ⟨M₁, hM₁, hp₁, halike, h₁⟩ := h.respond hp ha.toReady hb.toReady hs ht hhalf q
    have hentry := World.entry_alike (content?_around a table s _) (content?_around b table t _)
      h₁.stats halike (fun hr => (ha.respond_ok hs (Response.answer_of_result hr)).1)
      fun hr => (hb.respond_ok ht (Response.answer_of_result hr)).1
    rw [Response.entry_eq, Response.entry_eq] at hentry
    obtain ⟨M₂, s', t', hM₂, hp₂, hrest⟩ := ih h₁ hp₁ (ha.effect hs q).steady
      (hb.effect ht q).steady (hs.of_grows (respond_leads table q a s ha.store).2)
      (ht.of_grows (respond_leads table q b t hb.store).2) fun half => hM₁ (hhalf half)
    exact ⟨M₂, s', t', fun hpq => hM₂ (hM₁ hpq), hp₂, .cons (hentry.mono hM₂) hrest⟩

theorem withConfig_of_refused {c : Nat} (valid : ArenaConfig.validate ⟨c⟩ = .ok ())
    {memory : Memory} (refused : Page.tryNew memory (UInt32.ofNat c) = none) (s : Store) :
    withConfig memory ⟨c⟩ s = .ok (.error (.resourceExhausted (c * 8))) s := by
  simp only [withConfig, valid, refused]
  exact bind_of_ok (lift_ok (ArenaConfig.pageBytes_of_valid valid) s)

end Arena

/-- A capacity that is not valid is refused for a reason. -/
theorem ArenaConfig.validate_of_invalid {c : Nat} (h : c = 0 ∨ maxPageCapacity < c) :
    ∃ reason, ArenaConfig.validate ⟨c⟩ = .error (.invalidConfig reason) := by
  unfold ArenaConfig.validate
  by_cases zero : c = 0
  · exact ⟨_, if_pos zero⟩
  · exact ⟨_, (if_neg zero).trans (if_pos (h.resolve_left zero))⟩

namespace World

/-- The table is the same in all worlds that a program reaches. -/
theorem Reachable.table_eq {w v : World} (hw : w.Reachable) (hv : v.Reachable) :
    v.table = w.table := by
  obtain ⟨calls, w₀, hstart, rfl⟩ := hw.exists_calls
  obtain ⟨calls', w₀', hstart', rfl⟩ := hv.exists_calls
  obtain ⟨w₁, hstart₁, hsound⟩ := Sound.start
  cases hstart.symm.trans hstart₁
  cases hstart'.symm.trans hstart₁
  rw [hsound.table_afterAll, hsound.table_afterAll]

theorem Tenure.half_lt {w : World} {owners : List (Option Nat)} (h : Tenure w owners)
    (half : Half) : half.page.id < w.store.pages.size := by
  rw [← h.size]
  exact (List.getElem?_eq_some_iff.1 (h.half half)).1

/-- New arenas of one capacity in two worlds are twins: they have nothing in common but the pages of
the table. -/
theorem entries_of_new {w v : World} (hw : w.Reachable) (hv : v.Reachable) {c : Nat}
    (valid : ArenaConfig.validate ⟨c⟩ = .ok ()) {a b : Arena} {s t : Store}
    (ha : Arena.new c w.store = .ok a s) (hb : Arena.new c v.store = .ok b t) :
    b.stats t = a.stats s ∧ ∀ requests,
      (b.entries v.table requests t).map Entry.seen =
        (a.entries w.table requests s).map Entry.seen ∧
      Entry.sharing (b.entries v.table requests t) =
        Entry.sharing (a.entries w.table requests s) := by
  obtain ⟨owners, htw⟩ := hw.tenure
  obtain ⟨owners', htv⟩ := hv.tenure
  cases ha.symm.trans (Arena.new_of_valid valid w.store)
  cases hb.symm.trans (Arena.new_of_valid valid v.store)
  have hpairs : Pairs (fun p q => p = q ∧ ∃ half : Half, p = half.page.id) w.store v.store := by
    refine ⟨?_, ?_⟩
    · rintro p q ⟨rfl, half, rfl⟩
      exact ⟨htw.half_lt half, htv.half_lt half⟩
    · rintro p q p' q' ⟨rfl, -⟩ ⟨rfl, -⟩
      exact Iff.rfl
  have htwin := Arena.Twin.of_made (fun p q => p = q ∧ ∃ half : Half, p = half.page.id) c
    (Page.new (UInt32.ofNat c)) w.store v.store
  have hfill := htv.table
  rw [hw.table_eq hv] at hfill ⊢
  refine ⟨htwin.stats, fun requests => ?_⟩
  obtain ⟨M, s', t', -, hpairs', hall⟩ := htwin.entries requests
    (hpairs.next (by simp) (by simp)) (.of_made htw.store valid) (.of_made htv.store valid)
    (htw.table.of_grows (Store.grows_add _ _)) (hfill.of_grows (Store.grows_add _ _))
    fun half => .inl ⟨rfl, half, rfl⟩
  exact ⟨(map_eq_of_forall₂ hall fun he => he.seen).symm,
    (map_eq_of_forall₂ hall fun he =>
      map_eq_of_forall₂ hall fun hf => samePage_of_alike hpairs' he hf).symm⟩

/-- **The two constructors agree.** Take any capacity, and any two worlds that programs reach. If
the capacity is `0` or too great, both constructors refuse it and make no page, whatever the memory:
the one answers the error of the check, the other ends in a fault with the words of this error. If
it is valid, it fits in 32 bits as it is, and the bytes of its pages in a word. Then `Arena.new`
makes an arena, and `Arena.withConfig` makes one unless its first page is refused, which it answers
with these bytes and without a page. The two arenas have the same counters, and whatever is
requested of them under the same memories, both tell the same: the numbers, slots, kinds, errors and
counters, and which references share a page. -/
theorem constructors_agree {w v : World} (hw : w.Reachable) (hv : v.Reachable) (c : Nat) :
    (c = 0 ∨ ArenaConfig.maxPageCapacity < c → ∃ reason fault,
      ArenaConfig.validate ⟨c⟩ = .error (.invalidConfig reason) ∧
      (∀ memory, Arena.withConfig memory ⟨c⟩ v.store =
        .ok (.error (.invalidConfig reason)) v.store) ∧
      Arena.new c w.store = .error fault w.store ∧
      fault.message = (ArenaError.invalidConfig reason).message) ∧
    (1 ≤ c ∧ c ≤ ArenaConfig.maxPageCapacity →
      ArenaConfig.validate ⟨c⟩ = .ok () ∧ (UInt32.ofNat c).toNat = c ∧
      8 * c < UInt64.size ∧ ArenaConfig.pageBytes ⟨c⟩ = .ok (8 * c) ∧
      ∃ a s, Arena.new c w.store = .ok a s ∧ ∀ memory,
        (Page.tryNew memory (UInt32.ofNat c) = none ∧ Arena.withConfig memory ⟨c⟩ v.store =
          .ok (.error (.resourceExhausted (8 * c))) v.store) ∨
        ((Page.tryNew memory (UInt32.ofNat c)).isSome = true ∧ ∃ b t,
          Arena.withConfig memory ⟨c⟩ v.store = .ok (.ok b) t ∧ b.stats t = a.stats s ∧
          ∀ requests,
            (b.entries v.table requests t).map Entry.seen =
              (a.entries w.table requests s).map Entry.seen ∧
            Entry.sharing (b.entries v.table requests t) =
              Entry.sharing (a.entries w.table requests s))) := by
  refine ⟨fun invalid => ?_, fun hc => ?_⟩
  · obtain ⟨reason, hreason⟩ := ArenaConfig.validate_of_invalid invalid
    refine ⟨reason, .arena (.invalidConfig reason), hreason, fun memory => ?_, ?_, rfl⟩
    · simp only [Arena.withConfig, hreason]
      rfl
    · simp only [Arena.new, hreason]
      rfl
  · have valid : ArenaConfig.validate ⟨c⟩ = .ok () :=
      ArenaConfig.validate_eq_ok_iff.2 ⟨hc.1, Nat.lt_succ_of_le hc.2⟩
    have hbytes := ArenaConfig.pageBytes_of_valid valid
    have hnew := Arena.new_of_valid valid w.store
    rw [Nat.mul_comm] at hbytes
    refine ⟨valid, Arena.toNat_of_valid valid, ?_, hbytes, _, _, hnew, fun memory => ?_⟩
    · have := hc.2
      unfold ArenaConfig.maxPageCapacity at this
      unfold UInt64.size
      omega
    · cases granted : memory (8 * c) with
      | false =>
        have refused : Page.tryNew memory (UInt32.ofNat c) = none := by
          rw [Arena.tryNew_of_valid valid, granted]
          rfl
        rw [Nat.mul_comm]
        exact .inl ⟨refused, Arena.withConfig_of_refused valid refused v.store⟩
      | true =>
        have hmade := Arena.withConfig_of_granted valid granted v.store
        obtain ⟨hstats, htell⟩ := entries_of_new hw hv valid hnew
          (Arena.new_of_valid valid v.store)
        refine .inr ⟨?_, _, _, hmade, hstats, htell⟩
        rw [Arena.tryNew_of_valid valid, granted]
        rfl

/-- A program that has made nothing and one that has an arena refuse pages of `2 ^ 32 + 1` slots,
which 32 bits would make pages of one slot, and pages of two slots if there are 15 bytes. -/
theorem constructors_agree_beside_an_arena : ∃ w v : World, w.Reachable ∧ v.Reachable ∧
    (∃ reason fault,
      Arena.withConfig (.upTo 8) ⟨4294967297⟩ v.store =
        .ok (.error (.invalidConfig reason)) v.store ∧
      Arena.new 4294967297 w.store = .error fault w.store ∧
      fault.message = (ArenaError.invalidConfig reason).message) ∧
    Arena.withConfig (.upTo 15) ⟨2⟩ v.store = .ok (.error (.resourceExhausted 16)) v.store ∧
    ∃ a s b t, Arena.new 2 w.store = .ok a s ∧
      Arena.withConfig (.upTo 16) ⟨2⟩ v.store = .ok (.ok b) t ∧ b.stats t = a.stats s := by
  obtain ⟨s₀, t₀, hstart, -, -⟩ := start_eq
  have hw := reachable_afterAll hstart []
  obtain ⟨v, b₀, hopened⟩ := exists_opened (c := 3) (by decide)
  have hv := hopened.reachable
  obtain ⟨reason, fault, -, hconfig, hnew, hwords⟩ :=
    (constructors_agree hw hv 4294967297).1 (.inr (by decide))
  obtain ⟨-, -, -, -, a, s, hmade, hmemory⟩ := (constructors_agree hw hv 2).2 (by decide)
  refine ⟨_, v, hw, hv, ⟨reason, fault, hconfig _, hnew, hwords⟩, ?_, ?_⟩
  · rcases hmemory (.upTo 15) with ⟨-, refused⟩ | ⟨granted, -⟩
    · exact refused
    · cases granted
  · rcases hmemory (.upTo 16) with ⟨refused, -⟩ | ⟨-, b, t, hgranted, hstats, -⟩
    · cases refused
    · exact ⟨a, s, b, t, hmade, hgranted, hstats⟩

end World

end Boxing
