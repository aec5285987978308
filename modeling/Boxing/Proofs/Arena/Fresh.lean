import Boxing.Arena.History
import Boxing.Proofs.Preload.Fill

/-!
# Arenas and the store

Whatever an arena does makes the store grow and nothing else (`keeps_serve` and its parts), whether
it ends well, is refused a page or breaks off. A reference that an arena answers is fresh, unless it
is the preloaded entry of its number (`serve_ok`). `Arena.respond` is the same request for a holder
that goes on after a fault (`respond_of_ok`, `respond_of_error`).
-/

set_option autoImplicit false

namespace Boxing

/-- The request takes a slot if it is granted: a preloaded number that is boxed does not. -/
def Request.WantsSlot (q : Request) : Prop := q.mode = .box → ¬ Preloaded q.number

instance (q : Request) : Decidable q.WantsSlot :=
  inferInstanceAs (Decidable (q.mode = .box → ¬ Preloaded q.number))

namespace Arena

open NumberRef (Fresh)

/-! ## Making an arena -/

theorem wellFormed_of_tryNew {memory : Memory} {c : UInt32} {p : Page}
    (h : Page.tryNew memory c = some p) : p.WellFormed := by
  unfold Page.tryNew at h
  split at h
  · cases h
    exact Page.wellFormed_new c
  · cases h

theorem keeps_ofFirstPage (config : ArenaConfig) {first : Page} (h : first.WellFormed) :
    Keeps Store.Leads (ofFirstPage config first) :=
  keeps_bind (Store.keeps_add h) fun _ => keeps_pure _

theorem keeps_new (c : Nat) : Keeps Store.Leads (new c) := by
  unfold new
  dsimp only
  split
  · exact keeps_throw _
  · exact keeps_ofFirstPage _ (Page.wellFormed_new _)

theorem keeps_withConfig (memory : Memory) (config : ArenaConfig) :
    Keeps Store.Leads (withConfig memory config) := by
  unfold withConfig
  split
  · exact keeps_pure _
  · split
    · exact keeps_bind (keeps_lift _) fun _ => keeps_pure _
    · rename_i first hp
      exact keeps_bind (keeps_ofFirstPage _ (wellFormed_of_tryNew hp)) fun _ => keeps_pure _

/-! ## Requests -/

theorem within_of_ok {α : Type} {a : Arena} {act : StoreM α} {s s' : Store} {x : α}
    (h : act s = .ok x s') : a.within act s = .ok x s' := by
  simp only [within, h]

theorem within_of_error {α : Type} {a : Arena} {act : StoreM α} {s s' : Store} {f : Fault}
    (h : act s = .error f s') : a.within act s = .error ⟨f, a⟩ s' := by
  simp only [within, h]

theorem keeps_within {α : Type} {a : Arena} {act : StoreM α} {R : Store → Store → Prop}
    (h : Keeps R act) : Keeps R (a.within act) := by
  intro s
  cases hact : act s with
  | ok x s' =>
    rw [within_of_ok hact]
    exact h.of_ok hact
  | error f s' =>
    rw [within_of_error hact]
    exact h.of_error hact

/-- A request that is answered is answered to every caller. -/
theorem lift_of_ok {α : Type} {act : ArenaM α} {s s' : Store} {x : α} (h : act s = .ok x s') :
    (liftM act : StoreM α) s = .ok x s' := by
  simp only [liftM, monadLift, MonadLift.monadLift, h]

theorem lift_of_error {α : Type} {act : ArenaM α} {s s' : Store} {b : Broken}
    (h : act s = .error b s') : (liftM act : StoreM α) s = .error b.fault s' := by
  simp only [liftM, monadLift, MonadLift.monadLift, h]

/-! ## Taking a slot -/

theorem keeps_attempt (n : Binary64) (a : Arena) : Keeps Store.Leads (a.attempt n) := by
  refine keeps_bind (keeps_within (NumberRef.keeps_alloc _ n)) fun found => ?_
  cases found with
  | none => exact keeps_pure _
  | some r => exact keeps_bind (keeps_within (keeps_lift _)) fun _ => keeps_pure _

theorem keeps_rollover (memory : Memory) (a : Arena) : Keeps Store.Leads (a.rollover memory) := by
  refine keeps_bind keeps_get fun s => ?_
  dsimp only
  split
  · exact keeps_bind (keeps_within (keeps_lift _)) fun _ => keeps_pure _
  · rename_i page hp
    refine keeps_bind (keeps_within (Store.keeps_add (wellFormed_of_tryNew hp))) fun _ => ?_
    exact keeps_bind (keeps_within (keeps_lift _)) fun _ => keeps_pure _

theorem keeps_allocateWithin (memory : Memory) (n : Binary64) (k : Nat) (a : Arena) :
    Keeps Store.Leads (allocateWithin memory n k a) := by
  induction k generalizing a with
  | zero => exact keeps_throw _
  | succ k ih =>
    refine keeps_bind (keeps_attempt n a) fun found => ?_
    rcases found with _ | ⟨r, a⟩
    · refine keeps_bind (keeps_rollover memory a) fun rolled => ?_
      cases rolled with
      | error e => exact keeps_pure _
      | ok a => exact ih a
    · exact keeps_pure _

theorem keeps_serve (table : PreloadTable) (r : Request) (a : Arena) :
    Keeps Store.Leads (a.serve table r) := by
  unfold serve
  split
  · exact keeps_allocateWithin _ _ _ _
  · refine keeps_bind (keeps_within (keeps_lift _)) fun entry => ?_
    cases entry with
    | some e => exact keeps_pure _
    | none => exact keeps_allocateWithin _ _ _ _

/-! ## What is answered -/

theorem attempt_ok {n : Binary64} {a a' : Arena} {r : NumberRef} {s s' : Store}
    (hs : s.WellFormed) (h : a.attempt n s = .ok (some (r, a')) s') : Fresh s s' r n := by
  rcases NumberRef.alloc_cases hs ⟨a.current, .counted⟩ n with
    ⟨-, -, ha⟩ | ⟨-, ha⟩ | ⟨-, -, ha, hf⟩
  · rw [attempt, bind_of_ok (within_of_ok ha)] at h
    cases h
  · rw [attempt, bind_of_error (within_of_error ha)] at h
    cases h
  · rw [attempt, bind_of_ok (within_of_ok ha)] at h
    obtain ⟨slots, s₁, hadd, h⟩ := bind_ok h
    cases hc : Checked.add UInt64.size a.slotsAllocated 1 with
    | error f =>
      rw [within_of_error (lift_error hc _)] at hadd
      cases hadd
    | ok m =>
      rw [within_of_ok (lift_ok hc _)] at hadd
      cases hadd
      cases h
      exact hf

/-- **A slot that an arena gives is fresh**, however often it had to roll over. -/
theorem allocateWithin_ok {memory : Memory} {n : Binary64} {k : Nat} {a a' : Arena}
    {r : NumberRef} {s s' : Store} (hs : s.WellFormed)
    (h : allocateWithin memory n k a s = .ok (.ok r, a') s') : Fresh s s' r n := by
  induction k generalizing a s with
  | zero => cases h
  | succ k ih =>
    obtain ⟨found, s₁, ha, h⟩ := bind_ok h
    obtain ⟨hs₁, hg₁⟩ := (keeps_attempt n a).of_ok ha hs
    rcases found with _ | ⟨r₁, a₁⟩
    · obtain ⟨rolled, s₂, hr, h⟩ := bind_ok h
      obtain ⟨hs₂, hg₂⟩ := (keeps_rollover memory a).of_ok hr hs₁
      cases rolled with
      | error e => cases h
      | ok a₂ => exact (ih hs₂ h).of_grows (hg₁.trans hg₂)
    · cases h
      exact attempt_ok hs ha

section
variable {table : PreloadTable} {q : Request} {a : Arena} {s : Store}

/-- A request that wants a slot is an allocation. -/
theorem serve_of_wantsSlot (table : PreloadTable) (hw : q.WantsSlot) :
    a.serve table q s = a.allocate q.memory q.number s := by
  cases hmode : q.mode with
  | allocate => simp only [serve, hmode]
  | box =>
    have hget := table.get?_of_not_preloaded (hw hmode)
    simp only [serve, hmode]
    rw [box, bind_of_ok (within_of_ok (lift_ok hget s))]

/-- **A request that shares an entry leaves the arena and the store alone.** -/
theorem serve_of_shared (ht : table.Filled s) (hw : ¬ q.WantsSlot) :
    ∃ r, table.get? q.number = .ok (some r) ∧ a.serve table q s = .ok (.ok r, a) s := by
  obtain ⟨hmode, hp⟩ : q.mode = .box ∧ Preloaded q.number := by
    simpa [Request.WantsSlot] using hw
  obtain ⟨r, hget⟩ := ht.exists_entry hp
  refine ⟨r, hget, ?_⟩
  simp only [serve, hmode]
  rw [box, bind_of_ok (within_of_ok (lift_ok hget s))]
  rfl

/-- **A reference that is answered is fresh, or it is the entry of a preloaded number.** -/
theorem serve_ok {a' : Arena} {r : NumberRef} {s' : Store} (hs : s.WellFormed)
    (ht : table.Filled s) (h : a.serve table q s = .ok (.ok r, a') s') :
    (q.WantsSlot ∧ Fresh s s' r q.number) ∨
      (¬ q.WantsSlot ∧ table.get? q.number = .ok (some r)) := by
  by_cases hw : q.WantsSlot
  · rw [serve_of_wantsSlot table hw] at h
    exact .inl ⟨hw, allocateWithin_ok hs h⟩
  · obtain ⟨e, hget, hserve⟩ := serve_of_shared (a := a) ht hw
    rw [hserve] at h
    cases h
    exact .inr ⟨hw, hget⟩

/-! ## A holder that goes on -/

theorem respond_of_ok {answer : Except ArenaError NumberRef} {a' : Arena} {s' : Store}
    (h : a.serve table q s = .ok (answer, a') s') :
    a.respond table q s = ⟨.ok answer, a', s'⟩ := by
  simp only [respond, h]

theorem respond_of_error {b : Broken} {s' : Store} (h : a.serve table q s = .error b s') :
    a.respond table q s = ⟨.error b.fault, b.arena, s'⟩ := by
  simp only [respond, h]

theorem respond_of_shared (ht : table.Filled s) (hw : ¬ q.WantsSlot) :
    ∃ r, table.get? q.number = .ok (some r) ∧ a.respond table q s = ⟨.ok (.ok r), a, s⟩ := by
  obtain ⟨r, hget, hserve⟩ := serve_of_shared (a := a) ht hw
  exact ⟨r, hget, respond_of_ok hserve⟩

theorem serve_of_answer {answer : Except ArenaError NumberRef}
    (h : (a.respond table q s).answer = .ok answer) : a.serve table q s =
      .ok (answer, (a.respond table q s).arena) (a.respond table q s).store := by
  cases hserve : a.serve table q s with
  | ok x s' =>
    rw [respond_of_ok hserve] at h ⊢
    cases h
    rfl
  | error b s' =>
    rw [respond_of_error hserve] at h
    cases h

/-- The store that a request leaves, to whomever. -/
theorem respond_store (table : PreloadTable) (q : Request) (a : Arena) (s : Store) :
    (a.respond table q s).store = stateAfter (a.serve table q s) := by
  cases h : a.serve table q s with
  | ok x s' => rw [respond_of_ok h]; rfl
  | error b s' => rw [respond_of_error h]; rfl

theorem respond_leads (table : PreloadTable) (q : Request) (a : Arena) (s : Store) :
    Store.Leads s (a.respond table q s).store := by
  rw [respond_store]
  exact keeps_serve table q a s

end

end Arena

end Boxing
