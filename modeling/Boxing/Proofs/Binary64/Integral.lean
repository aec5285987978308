import Boxing.Proofs.Binary64.Exact

/-!
# Integral numbers

How the tests on numbers see a finite number of `m` whole ones: the integral part keeps the sign and
the multiple of one below the magnitude (`magnitude_trunc`), so the fractional part is zero exactly
for the finite integral numbers (`fract_eq_zero_iff`); an infinity and a NaN leave a NaN.
-/

set_option autoImplicit false

namespace Boxing

namespace Binary64

/-! ## What depends on the bits below the sign alone -/

theorem exponentField_eq (x : Binary64) : x.exponentField = x.rest / 2 ^ 52 := by
  have hf := x.fraction_lt
  unfold rest
  omega

theorem fraction_eq (x : Binary64) : x.fraction = x.rest % 2 ^ 52 := by
  have hf := x.fraction_lt
  unfold rest
  omega

section
variable {x y : Binary64} (h : x.rest = y.rest)
include h

theorem isNaN_congr : x.isNaN = y.isNaN := by
  simp only [isNaN, exponentField_eq, fraction_eq, h]

theorem isInfinite_congr : x.isInfinite = y.isInfinite := by
  simp only [isInfinite, exponentField_eq, fraction_eq, h]

theorem isFinite_congr : x.isFinite = y.isFinite := by
  simp only [isFinite, exponentField_eq, h]

theorem magnitude_congr : x.magnitude = y.magnitude := by
  simp only [magnitude, significand, shift, exponentField_eq, fraction_eq, h]

end

@[simp] theorem rest_neg (x : Binary64) : x.neg.rest = x.rest := rest_ofParts _ x.rest_lt

@[simp] theorem negative_neg (x : Binary64) : x.neg.negative = !x.negative :=
  negative_ofParts _ x.rest_lt

@[simp] theorem units_neg (x : Binary64) : x.neg.units = -x.units := by
  unfold units
  rw [negative_neg, magnitude_congr (rest_neg x)]
  cases x.negative
  · rfl
  · simp

theorem magnitude_eq_zero_iff {x : Binary64} : x.magnitude = 0 ↔ x.rest = 0 := by
  rw [magnitude_eq, rest_eq, Nat.mul_eq_zero, or_iff_left (Nat.ne_of_gt (Nat.two_pow_pos _))]
  unfold significand shift
  split <;> omega

theorem units_eq_zero_iff {x : Binary64} : x.units = 0 ↔ x.rest = 0 := by
  rw [← magnitude_eq_zero_iff, units]
  split <;> omega

/-- The numbers equal to zero are the two zeros. -/
theorem eq_zero_iff {x : Binary64} : x.eq zero = true ↔ x.rest = 0 := by
  have hz : zero.rest = 0 := rest_ofParts false (by decide)
  have hzu : zero.units = 0 := units_eq_zero_iff.2 hz
  have hzn : zero.isNaN = false := by decide
  simp only [eq, hzn, hzu, Bool.not_false, Bool.and_true, Bool.and_eq_true, Bool.not_eq_true',
    beq_iff_eq, units_eq_zero_iff, and_iff_right_iff_imp]
  intro h
  rw [isNaN_congr (h.trans hz.symm), hzn]

/-! ## Order of finite numbers -/

theorem lt_of_isFinite {x y : Binary64} (hx : x.isFinite = true) (hy : y.isFinite = true) :
    x.lt y = decide (x.units < y.units) := by
  simp [lt, isNaN_of_isFinite hx, isNaN_of_isFinite hy]

theorem le_of_isFinite {x y : Binary64} (hx : x.isFinite = true) (hy : y.isFinite = true) :
    x.le y = decide (x.units ≤ y.units) := by
  simp [le, isNaN_of_isFinite hx, isNaN_of_isFinite hy]

theorem units_of_nonneg {x : Binary64} (h : x.negative = false) : x.units = x.magnitude := by
  rw [units, h, if_neg Bool.false_ne_true]

theorem units_of_negative {x : Binary64} (h : x.negative = true) :
    x.units = -(x.magnitude : Int) := by
  rw [units, h, if_pos rfl]

/-- Multiples of one compare as their factors do. -/
theorem mul_one_lt {a b : Nat} : ((a * one : Nat) : Int) < (b * one : Nat) ↔ a < b := by
  have h := one_pos
  generalize one = u at h ⊢
  rw [Int.ofNat_lt]
  exact Nat.mul_lt_mul_right h

theorem mul_one_le {a b : Nat} : ((a * one : Nat) : Int) ≤ (b * one : Nat) ↔ a ≤ b := by
  rw [← Int.not_lt, mul_one_lt, Nat.not_lt]

/-- The word of a whole number is that number as far as words go. -/
theorem toWord_whole {x : Binary64} {m : Nat} (hx : x.isFinite = true) (hs : x.negative = false)
    (hm : x.magnitude = m * one) : x.toWord = min m (UInt64.size - 1) := by
  simp [toWord, isNaN_of_isFinite hx, hs, hm, Nat.mul_div_cancel _ one_pos]

/-! ## Integral parts -/

/-- Below `1.0` there is no integral part. -/
theorem magnitude_lt_one {x : Binary64} (hx : x.isFinite = true) (h : x.exponentField < 1023) :
    x.magnitude < one := by
  have hk : x.shift ≤ 1021 := by
    unfold shift
    omega
  have hsig : x.significand < 2 ^ (53 + (1021 - x.shift)) :=
    Nat.lt_of_lt_of_le (normal_of_isFinite hx).lt (Nat.pow_le_pow_right (by decide) (by omega))
  rw [magnitude_eq, one_eq (k := 53 + (1021 - x.shift) + x.shift) (by omega),
    Nat.pow_add _ _ x.shift]
  exact Nat.mul_lt_mul_of_pos_right hsig (Nat.two_pow_pos _)

/-- From `2 ^ 52` on every number is integral. -/
theorem one_dvd_magnitude {x : Binary64} (h : 1075 ≤ x.exponentField) : one ∣ x.magnitude := by
  obtain ⟨k, hk⟩ : ∃ k, k = 1074 := ⟨_, rfl⟩
  rw [magnitude_eq, one_eq hk]
  exact Dvd.dvd.mul_left (Nat.pow_dvd_pow 2 (by unfold shift; omega)) _

section
variable {x : Binary64} {d : Nat} (h1 : 1023 ≤ x.exponentField) (h2 : x.exponentField < 1075)
  (hd : d = 1075 - x.exponentField)
include h1 h2 hd

/-- Between them the integral part clears the `d` low bits of the fraction. -/
theorem fields_trunc : x.trunc.exponentField = x.exponentField ∧ x.trunc.negative = x.negative ∧
    x.trunc.fraction = x.fraction - x.fraction % 2 ^ d := by
  have hf := x.fraction_lt
  have hcut : x.rest % 2 ^ d = x.fraction % 2 ^ d := by
    obtain ⟨c, hc⟩ : 2 ^ d ∣ 2 ^ 52 := Nat.pow_dvd_pow 2 (by omega)
    rw [rest, show (0x10000000000000 : Nat) = 2 ^ d * c from hc, Nat.mul_left_comm,
      Nat.mul_add_mod]
  have hle : x.fraction % 2 ^ d ≤ x.fraction := Nat.mod_le _ _
  have hr : x.rest - x.rest % 2 ^ d < 2 ^ 63 := Nat.lt_of_le_of_lt (Nat.sub_le _ _) x.rest_lt
  have hrest : x.rest - x.rest % 2 ^ d =
      x.exponentField * 2 ^ 52 + (x.fraction - x.fraction % 2 ^ d) := by
    rw [hcut, rest]
    omega
  have htrunc : x.trunc = ofParts x.negative (x.rest - x.rest % 2 ^ d) := by
    rw [trunc, if_neg (by omega), if_pos h2, Nat.one_shiftLeft, hd]
  refine ⟨?_, by rw [htrunc, negative_ofParts _ hr], ?_⟩
  · rw [htrunc, exponentField_ofParts _ hr, hrest]
    omega
  · rw [htrunc, fraction_ofParts _ hr, hrest]
    omega

/-- The bits that are cleared are those below the ones. -/
theorem magnitude_trunc_of_lt : x.trunc.magnitude = x.magnitude / one * one := by
  obtain ⟨hexp, -, hfrac⟩ := fields_trunc h1 h2 hd
  have hsig : x.significand = 2 ^ 52 + x.fraction := if_neg (by omega)
  have hmod : x.significand % 2 ^ d = x.fraction % 2 ^ d := by
    obtain ⟨c, hc⟩ : 2 ^ d ∣ 2 ^ 52 := Nat.pow_dvd_pow 2 (by omega)
    rw [hsig, hc, Nat.mul_add_mod]
  have hcut : x.trunc.significand = x.significand / 2 ^ d * 2 ^ d := by
    have hle : x.fraction % 2 ^ d ≤ x.fraction := Nat.mod_le _ _
    have hdm := Nat.div_add_mod x.significand (2 ^ d)
    rw [Nat.mul_comm] at hdm
    rw [significand, hexp, if_neg (by omega), hfrac]
    omega
  have hone : one = 2 ^ d * 2 ^ x.shift := by
    rw [← Nat.pow_add]
    exact one_eq (by unfold shift; omega)
  have hshift : x.trunc.shift = x.shift := by rw [shift, shift, hexp]
  rw [magnitude_eq, hcut, hshift, magnitude_eq, hone,
    Nat.mul_div_mul_right _ _ (Nat.two_pow_pos _), Nat.mul_assoc]

end

/-- **The integral part of a finite number** keeps its sign and the whole ones of its magnitude. -/
theorem magnitude_trunc {x : Binary64} (hx : x.isFinite = true) :
    x.trunc.isFinite = true ∧ x.trunc.negative = x.negative ∧
      x.trunc.magnitude = x.magnitude / one * one := by
  by_cases h1 : x.exponentField < 1023
  · have ht : x.trunc = ofParts x.negative 0 := if_pos h1
    have hr : x.trunc.rest = 0 := by rw [ht, rest_ofParts _ (by decide)]
    refine ⟨isFinite_iff.2 (by rw [hr]; decide), by rw [ht, negative_ofParts _ (by decide)], ?_⟩
    rw [magnitude_eq_zero_iff.2 hr, Nat.div_eq_of_lt (magnitude_lt_one hx h1), Nat.zero_mul]
  · by_cases h2 : x.exponentField < 1075
    · obtain ⟨hexp, hneg, -⟩ := fields_trunc (by omega) h2 rfl
      refine ⟨?_, hneg, magnitude_trunc_of_lt (by omega) h2 rfl⟩
      rw [isFinite, hexp]
      exact hx
    · have ht : x.trunc = x := by rw [trunc, if_neg h1, if_neg h2]
      rw [ht, Nat.div_mul_cancel (one_dvd_magnitude (by omega))]
      exact ⟨hx, rfl, rfl⟩

/-- What is left of a finite number without its integral part, in units. -/
theorem units_sub_trunc {x : Binary64} (hx : x.isFinite = true) :
    x.units + x.trunc.neg.units = 0 ↔ x.magnitude % one = 0 := by
  obtain ⟨-, hneg, hmag⟩ := magnitude_trunc hx
  have hdm := Nat.div_add_mod x.magnitude one
  rw [Nat.mul_comm, ← hmag] at hdm
  rw [units_neg, units, units, hneg]
  split <;> omega

/-- **The fractional part is zero for the finite integral numbers and for no others.** -/
theorem fract_eq_zero_iff {x : Binary64} :
    x.fract.eq zero = true ↔ x.isFinite = true ∧ x.magnitude % one = 0 := by
  have hnan : nan.eq zero = false := by decide
  by_cases hx : x.isFinite = true
  · obtain ⟨hfin, -, -⟩ := magnitude_trunc hx
    have hfin' : x.trunc.neg.isFinite = true := by rw [isFinite_congr (rest_neg _), hfin]
    rw [← units_sub_trunc hx, fract, sub, add]
    simp only [isNaN_of_isFinite hx, isNaN_of_isFinite hfin', isInfinite_of_isFinite hx,
      isInfinite_of_isFinite hfin', Bool.or_self, Bool.false_eq_true, ↓reduceIte, hx, true_and]
    by_cases h0 : x.units + x.trunc.neg.units = 0
    · rw [if_pos h0, eq_zero_iff, rest_ofParts _ (by decide)]
      exact ⟨fun _ => h0, fun _ => rfl⟩
    · rw [if_neg h0, eq_zero_iff, round, rest_ofParts _ (roundRest_lt _ _)]
      have hpos : 0 < (x.units + x.trunc.neg.units).natAbs := by omega
      have := roundRest_pos hpos
      exact ⟨fun h => absurd h (by omega), fun h => absurd h h0⟩
  · have hx' : x.isFinite = false := by simpa using hx
    have hfract : x.fract = nan := by
      have hexp : x.exponentField = 2047 := by simpa [isFinite] using hx'
      have ht : x.trunc = x := by rw [trunc, if_neg (by omega), if_neg (by omega)]
      rw [fract, ht, sub, add, isNaN_congr (rest_neg x), isInfinite_congr (rest_neg x),
        isInfinite_eq_not_isNaN hx', negative_neg]
      cases x.isNaN <;> simp
    rw [hfract, hnan]
    simp [hx']

end Binary64

end Boxing
