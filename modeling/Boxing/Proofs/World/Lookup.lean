import Boxing.Proofs.World.Provenance

/-!
# Looking small integers up

`Binary64.Encodes n k`: the pattern `n` stands for the integer `k`. After any program, a lookup
finds the patterns of the integers from `-128` to `255` and no others, always at the same place
(`lookup_iff_encodes`). `World.Hit` says what is found and `World.Misses` that nothing is.
-/

set_option autoImplicit false

namespace Boxing

/-- `n` is finite, its value is `k`, and it has a sign exactly if `k` has one, so that zero is
`+0.0` only. -/
structure Binary64.Encodes (n : Binary64) (k : Int) : Prop where
  finite : n.isFinite = true
  units : n.units = k * (Binary64.one : Int)
  sign : n.negative = decide (k < 0)

namespace Binary64

theorem natAbs_units (x : Binary64) : x.units.natAbs = x.magnitude := by
  unfold units
  split
  · exact (Int.natAbs_neg _).trans (Int.natAbs_natCast _)
  · exact Int.natAbs_natCast _

/-- A small integer has one pattern. -/
theorem encodes_iff {n : Binary64} {k : Int} (hk : k.natAbs < 2 ^ 53) :
    n.Encodes k ↔ n = ofInt k := by
  constructor
  · intro h
    have hmag : n.magnitude = k.natAbs * one := by
      rw [← natAbs_units, h.units, Int.natAbs_mul, Int.natAbs_natCast]
    exact eq_ofInt h.finite h.sign hmag
  · rintro rfl
    exact ⟨(ofInt_whole hk).1, units_ofInt hk, (ofInt_whole hk).2.1⟩

/-- The preloaded numbers are the patterns of the integers in range. -/
theorem preloaded_iff_encodes {n : Binary64} :
    Preloaded n ↔ ∃ k, -128 ≤ k ∧ k ≤ 255 ∧ n.Encodes k := by
  constructor
  · rintro ⟨k, h1, h2, rfl⟩
    exact ⟨k, h1, h2, (encodes_iff (by omega)).2 rfl⟩
  · rintro ⟨k, h1, h2, h⟩
    exact ⟨k, h1, h2, (encodes_iff (by omega)).1 h⟩

end Binary64

namespace World

/-- A lookup of `n` in the world `w` finds the reference `r`, the entry of the integer `k`. -/
structure Hit (w : World) (n : Binary64) (k : Int) (r : NumberRef) : Prop where
  get : w.table.get? n = .ok (some r)
  lookup : w.table.lookup n = .ok (some (.number r))
  call : World.lookup n w = .ok (.number r) w
  canonical : r.isCanonical = true
  slot : r.slot = Half.index k
  reads : r.get w.store = .ok n
  entry : (w.table.half (Half.ofInt k))[Half.index k]? = some r
  /-- It names the slot of this entry and of no other one, in neither half. -/
  aliases : ∀ h i e, (w.table.half h)[i]? = some e →
    (r.aliases e = true ↔ h = Half.ofInt k ∧ i = Half.index k)

/-- A lookup of `n` in the world `w` finds nothing. -/
structure Misses (w : World) (n : Binary64) : Prop where
  get : w.table.get? n = .ok none
  lookup : w.table.lookup n = .ok none
  call : World.lookup n w = .error .noEntry w

variable {w : World} {n : Binary64}

/-- A lookup answers what the table has and leaves the world alone. -/
theorem lookup_of_get {found : Option NumberRef} (h : w.table.get? n = .ok found) :
    w.table.lookup n = .ok (found.map .number) ∧
      World.lookup n w = match found with
        | some r => .ok (.number r) w
        | none => .error .noEntry w := by
  have hl : w.table.lookup n = .ok (found.map .number) := by
    rw [PreloadTable.lookup, h]
    rfl
  have ho : observe (fun _ => w.table.lookup n) w = .ok (found.map .number) w := by
    simp only [observe, hl]
  refine ⟨hl, ?_⟩
  rw [World.lookup, bind_get, bind_of_ok ho]
  cases found with
  | some r => rfl
  | none => rfl

/-- The pages of the halves are different. -/
theorem page_half_inj {h h' : Half} (he : h.page.id = h'.page.id) : h = h' := by
  cases h <;> cases h'
  · rfl
  · exact absurd he Nat.zero_ne_one
  · exact absurd he Nat.one_ne_zero
  · rfl

theorem hit_of_filled (ht : w.table.Filled w.store) {k : Int} (h1 : -128 ≤ k) (h2 : k ≤ 255) :
    Hit w (.ofInt k) k (Half.ref k) := by
  have hget := ht.get?_ofInt h1 h2
  obtain ⟨hlookup, hcall⟩ := lookup_of_get hget
  refine ⟨hget, hlookup, hcall, ?_, rfl, ht.get h1 h2, ?_, fun h i e he => ?_⟩
  · show ((Half.ofInt k).page.lifetime == Lifetime.permanent) = true
    cases Half.ofInt k <;> rfl
  · rw [ht.getElem?, if_pos (Half.index_lt h1 h2)]
    rfl
  · rw [ht.getElem?] at he
    split at he
    · cases he
      rw [NumberRef.aliases_iff]
      constructor
      · intro ⟨hp, hs⟩
        exact ⟨(page_half_inj hp).symm, hs.symm⟩
      · rintro ⟨rfl, rfl⟩
        exact ⟨rfl, rfl⟩
    · cases he

theorem misses_of_not_preloaded (w : World) (h : ¬ Preloaded n) : Misses w n := by
  have hget := w.table.get?_of_not_preloaded h
  obtain ⟨hlookup, hcall⟩ := lookup_of_get hget
  exact ⟨hget, hlookup, hcall⟩

/-- **A lookup finds exactly the integers from `-128` to `255`.** After any calls and for every
pattern, a value is found if and only if the pattern encodes such an integer. What is found is the
permanent entry of this integer, and any other pattern misses. Nothing that was done before makes a
difference. -/
theorem lookup_iff_encodes (calls : List (Call × Memory)) (n : Binary64) :
    ∃ w₀ outcomes w, start = .ok w₀ ∧ run calls w₀ = .ok outcomes w ∧
      ((∃ v, w.table.lookup n = .ok (some v)) ↔ ∃ k, -128 ≤ k ∧ k ≤ 255 ∧ n.Encodes k) ∧
      (∀ k, -128 ≤ k → k ≤ 255 → n.Encodes k → ∃ r, Hit w n k r ∧ Hit w₀ n k r) ∧
      ((¬ ∃ k, -128 ≤ k ∧ k ≤ 255 ∧ n.Encodes k) → Misses w n) ∧
      w.table.get? n = w₀.table.get? n ∧ w.table.lookup n = w₀.table.lookup n := by
  obtain ⟨w₀, hstart, hsound⟩ := Sound.start
  obtain ⟨outcomes, hrun⟩ := run_eq calls w₀
  have ht := (hsound.run calls).table
  have htable := hsound.table_afterAll calls
  have hhit (k : Int) (h1 : -128 ≤ k) (h2 : k ≤ 255) (he : n.Encodes k) :
      Hit (afterAll calls w₀) n k (Half.ref k) ∧ Hit w₀ n k (Half.ref k) := by
    rw [(Binary64.encodes_iff (by omega)).1 he]
    exact ⟨hit_of_filled ht h1 h2, hit_of_filled hsound.table h1 h2⟩
  have hmiss (h : ¬ ∃ k, -128 ≤ k ∧ k ≤ 255 ∧ n.Encodes k) : Misses (afterAll calls w₀) n :=
    misses_of_not_preloaded _ (fun hp => h (Binary64.preloaded_iff_encodes.1 hp))
  refine ⟨w₀, outcomes, afterAll calls w₀, hstart, hrun, ⟨fun ⟨v, hv⟩ => ?_, ?_⟩,
    fun k h1 h2 he => ⟨_, hhit k h1 h2 he⟩, hmiss, by rw [htable], by rw [htable]⟩
  · apply Classical.byContradiction
    intro hno
    rw [(hmiss hno).lookup] at hv
    cases hv
  · rintro ⟨k, h1, h2, he⟩
    exact ⟨_, (hhit k h1 h2 he).1.lookup⟩

end World

end Boxing
