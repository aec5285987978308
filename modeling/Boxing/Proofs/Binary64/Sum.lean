import Boxing.Proofs.Binary64.Integral

/-!
# Exact sums and products

Sums and products that are numbers themselves are computed without a rounding error:

* `add_ofInt`: integers of at most 53 digits add up as integers, and to `+0.0` if they cancel.
* `mul_ofNat`: so do the products of natural numbers.
* `halfStep_add_half`: a natural number below `2 ^ 52` and one half add up to a *half step*, a
  number that lies between two integers (`HalfStep.ne_ofInt`).
-/

set_option autoImplicit false

namespace Boxing

/-- The number is finite and its value is `k + 1 / 2`. -/
structure Binary64.HalfStep (n : Binary64) (k : Nat) : Prop where
  finite : n.isFinite = true
  units : 2 * n.units = (2 * k + 1) * (Binary64.one : Int)

namespace Binary64

theorem ofNat_eq_ofInt (n : Nat) : ofNat n = ofInt n := by
  rw [ofNat, ofInt, decide_eq_false (by omega), Int.natAbs_natCast]

/-! ## Sums -/

/-- The sum of finite numbers is the rounding of the sum of their values. -/
theorem add_of_isFinite {x y : Binary64} (hx : x.isFinite = true) (hy : y.isFinite = true) :
    x.add y = if x.units + y.units = 0 then ofParts (x.negative && y.negative) 0
      else round (decide (x.units + y.units < 0)) (x.units + y.units).natAbs 1 := by
  simp only [add, isNaN_of_isFinite hx, isNaN_of_isFinite hy, isInfinite_of_isFinite hx,
    isInfinite_of_isFinite hy, Bool.or_self, Bool.false_eq_true, ↓reduceIte]

theorem ofInt_zero : ofInt 0 = ofParts false 0 := by
  rw [ofInt, Int.natAbs_zero, Nat.zero_mul]
  rfl

/-- **Small integers add up exactly.** -/
theorem add_ofInt {i j : Int} (hi : i.natAbs < 2 ^ 53) (hj : j.natAbs < 2 ^ 53) :
    (ofInt i).add (ofInt j) = ofInt (i + j) := by
  obtain ⟨hfin, hneg, -⟩ := ofInt_whole hi
  obtain ⟨hfin', hneg', -⟩ := ofInt_whole hj
  have hone : (0 : Int) < one := by exact_mod_cast one_pos
  rw [add_of_isFinite hfin hfin', units_ofInt hi, units_ofInt hj, ← add_mul]
  by_cases h0 : i + j = 0
  · -- one of the two is without a sign
    have hsign : (decide (i < 0) && decide (j < 0)) = false := by
      rw [Bool.and_eq_false_iff, decide_eq_false_iff_not, decide_eq_false_iff_not]
      omega
    rw [if_pos (by rw [h0, zero_mul]), hneg, hneg', hsign, h0, ofInt_zero]
  · have hsign := Int.mul_lt_mul_right (b := i + j) (c := 0) hone
    rw [zero_mul] at hsign
    rw [if_neg (mul_ne_zero h0 (Int.ne_of_gt hone)), Int.natAbs_mul, Int.natAbs_natCast, ofInt,
      decide_eq_decide.2 hsign]

theorem add_ofNat {a b : Nat} (ha : a < 2 ^ 53) (hb : b < 2 ^ 53) :
    (ofNat a).add (ofNat b) = ofNat (a + b) := by
  rw [ofNat_eq_ofInt, ofNat_eq_ofInt, ofNat_eq_ofInt, add_ofInt (by omega) (by omega), Nat.cast_add]

/-! ## Products -/

/-- Rounding depends on the value of the quotient alone. -/
theorem roundRest_mul_right {d : Nat} (hd : 0 < d) (n k : Nat) :
    roundRest (n * d) (k * d) = roundRest n k := by
  have hdiv (m : Nat) : n * d / (m * d) = n / m := Nat.mul_div_mul_right n m hd
  have hmod (m : Nat) : n * d % (m * d) = n % m * d := Nat.mul_mod_mul_right d n m
  have hshift (shift : Nat) : (k * d) <<< shift = (k <<< shift) * d := by
    rw [Nat.shiftLeft_eq, Nat.shiftLeft_eq, Nat.mul_right_comm]
  have hlt (a b : Nat) : a * d < b * d ↔ a < b := Nat.mul_lt_mul_right hd
  simp only [roundRest, divNearest, hshift, hdiv, hmod, ← Nat.mul_assoc, hlt]

/-- **Small natural numbers multiply exactly**, if the product is small too. -/
theorem mul_ofNat {a b : Nat} (ha : a < 2 ^ 53) (hb : b < 2 ^ 53) :
    (ofNat a).mul (ofNat b) = ofNat (a * b) := by
  obtain ⟨hfin, hneg, hmag⟩ := ofNat_whole ha
  obtain ⟨hfin', hneg', hmag'⟩ := ofNat_whole hb
  have hround : roundRest (a * one * (b * one)) one = roundRest (a * b * one) 1 := by
    have := roundRest_mul_right one_pos (a * b * one) 1
    rw [Nat.one_mul] at this
    rw [← this, Nat.mul_mul_mul_comm, Nat.mul_assoc (a * b)]
  simp only [mul, isNaN_of_isFinite hfin, isNaN_of_isFinite hfin', isInfinite_of_isFinite hfin,
    isInfinite_of_isFinite hfin', hneg, hneg', hmag, hmag', Bool.or_self, Bool.false_and,
    Bool.and_false, bne_self_eq_false, Bool.false_eq_true, ↓reduceIte]
  rw [round, hround, ofNat, round]

/-! ## Half steps -/

/-- One half is a half step. -/
theorem units_half : half.isFinite = true ∧ 2 * half.units = (one : Int) := by
  obtain ⟨e, he⟩ : ∃ e, e = 1021 := ⟨_, rfl⟩
  have hone : one = 2 ^ 52 * 2 ^ e * 2 := by
    rw [one_eq (k := 52 + e + 1) (by omega), Nat.pow_succ, Nat.pow_add]
  obtain ⟨hfin, hneg, hmag⟩ := magnitude_round false (m := 2 ^ 52) (k := e)
    ⟨by decide, .inr (Nat.le_refl _), by omega⟩
  have hhalf : half = round false (2 ^ 52 * 2 ^ e) 1 := by
    have := roundRest_mul_right Nat.two_pos (2 ^ 52 * 2 ^ e) 1
    rw [← hone, Nat.one_mul] at this
    rw [half, round, this, round]
  rw [hhalf]
  refine ⟨hfin, ?_⟩
  rw [units_of_nonneg hneg, hmag, hone]
  push_cast
  ring

/-- **A half step is a number.** -/
theorem halfStep_add_half {k : Nat} (hk : k < 2 ^ 52) : ((ofNat k).add half).HalfStep k := by
  obtain ⟨hfin, hneg, hmag⟩ := ofNat_whole (n := k) (by omega)
  obtain ⟨hfin', hhalf⟩ := units_half
  obtain ⟨e, he⟩ : ∃ e, e = 1073 := ⟨_, rfl⟩
  have hone : one = 2 ^ e * 2 := by rw [one_eq (k := e + 1) (by omega), Nat.pow_succ]
  obtain ⟨m, shift, hnormal, hcount⟩ :=
    exists_normal_mul_pow (n := 2 * k + 1) (e := e) (by omega) (by omega) (by omega)
  have hunits : (ofNat k).units + half.units = ((m * 2 ^ shift : Nat) : Int) := by
    rw [units_of_nonneg hneg, hmag, ← hcount]
    rw [hone] at hhalf ⊢
    push_cast at hhalf ⊢
    have hdouble : 2 * half.units = 2 * (2 : Int) ^ e := by rw [hhalf]; ring
    have := mul_left_cancel₀ two_ne_zero hdouble
    rw [this]
    ring
  have hpos : 0 < m * 2 ^ shift := by
    rw [← hcount]
    exact Nat.mul_pos (Nat.succ_pos _) (Nat.two_pow_pos e)
  obtain ⟨hsum, hsign, hvalue⟩ := magnitude_round false hnormal
  have hadd : (ofNat k).add half = round false (m * 2 ^ shift) 1 := by
    rw [add_of_isFinite hfin hfin', hunits, if_neg (by omega), decide_eq_false (by omega),
      Int.natAbs_natCast]
  rw [hadd]
  refine ⟨hsum, ?_⟩
  rw [units_of_nonneg hsign, hvalue, ← hcount, hone]
  push_cast
  ring

/-- A half step is not an integer. -/
theorem HalfStep.ne_ofInt {n : Binary64} {k : Nat} (h : n.HalfStep k) {i : Int}
    (hi : i.natAbs < 2 ^ 53) : n ≠ ofInt i := by
  rintro rfl
  have hunits := h.units
  rw [units_ofInt hi, ← mul_assoc] at hunits
  have hone : (one : Int) ≠ 0 := by
    have := one_pos
    omega
  have := Int.eq_of_mul_eq_mul_right hone hunits
  omega

end Binary64

end Boxing
