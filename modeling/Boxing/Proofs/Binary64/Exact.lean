import Boxing.Binary64.Order
import Mathlib.Tactic.Ring

/-!
# Counts that are numbers

A finite number counts `m * 2 ^ k` units, where `m` has at most 53 digits, and all 53 of them unless
`k` is zero (`Normal`, `normal_of_isFinite`). Rounding such a count gives the number back:

* `round_magnitude`: a finite number is the rounding of its own magnitude, so that its sign and its
  magnitude determine it.
* `magnitude_round`: the rounding of a count `m * 2 ^ k` has just this magnitude.
* `ofInt_whole`: every integer of at most 53 digits is a number, and `eq_ofInt` finds the integer of
  a number from its sign and magnitude.
-/

set_option autoImplicit false

namespace Boxing

namespace Binary64

/-! ## Fields of a pattern -/

theorem rest_lt (x : Binary64) : x.rest < 2 ^ 63 := by
  have he := x.exponentField_lt
  have hf := x.fraction_lt
  unfold rest
  omega

theorem ofParts_rest (x : Binary64) : ofParts x.negative x.rest = x := ofParts_negative x

section
variable (s : Bool) {r : Nat} (h : r < 2 ^ 63)
include h

theorem toNat_bits_ofParts : (ofParts s r).bits.toNat = (if s then 2 ^ 63 else 0) + r := by
  unfold ofParts
  rw [UInt64.toNat_ofNat']
  rw [Nat.mod_eq_of_lt (by split <;> omega)]
  rfl

theorem negative_ofParts : (ofParts s r).negative = s := by
  unfold negative
  rw [toNat_bits_ofParts s h]
  cases s
  · simp; omega
  · simp

theorem exponentField_ofParts : (ofParts s r).exponentField = r / 2 ^ 52 := by
  unfold exponentField
  rw [toNat_bits_ofParts s h]
  split <;> omega

theorem fraction_ofParts : (ofParts s r).fraction = r % 2 ^ 52 := by
  unfold fraction
  rw [toNat_bits_ofParts s h]
  split <;> omega

theorem rest_ofParts : (ofParts s r).rest = r := by
  unfold rest
  rw [exponentField_ofParts s h, fraction_ofParts s h]
  omega

end

theorem isFinite_iff {x : Binary64} : x.isFinite = true ↔ x.rest < infinityRest := by
  have he := x.exponentField_lt
  have hf := x.fraction_lt
  simp only [isFinite, bne_iff_ne, ne_eq, rest, infinityRest]
  omega

theorem isNaN_of_isFinite {x : Binary64} (h : x.isFinite = true) : x.isNaN = false := by
  simp only [isFinite, bne_iff_ne, ne_eq] at h
  simp [isNaN, h]

theorem isInfinite_of_isFinite {x : Binary64} (h : x.isFinite = true) : x.isInfinite = false := by
  simp only [isFinite, bne_iff_ne, ne_eq] at h
  simp [isInfinite, h]

/-- What is not finite is an infinity or a NaN. -/
theorem isInfinite_eq_not_isNaN {x : Binary64} (h : x.isFinite = false) :
    x.isInfinite = !x.isNaN := by
  simp only [isFinite, bne_eq_false_iff_eq] at h
  simp [isInfinite, isNaN, h, bne]

theorem one_eq {k : Nat} (h : k = 1074) : one = 2 ^ k := by rw [← Nat.one_shiftLeft, h, one]

theorem one_pos : 0 < one := by
  obtain ⟨k, hk⟩ : ∃ k, k = 1074 := ⟨_, rfl⟩
  rw [one_eq hk]
  exact Nat.two_pow_pos k

theorem magnitude_eq (x : Binary64) : x.magnitude = x.significand * 2 ^ x.shift :=
  Nat.shiftLeft_eq _ _

/-! ## Significands and shifts -/

/-- The significand `m` and the shift `k` of a finite number. -/
structure Normal (m k : Nat) : Prop where
  lt : m < 2 ^ 53
  lead : k = 0 ∨ 2 ^ 52 ≤ m
  le : k ≤ 2045

theorem normal_of_isFinite {x : Binary64} (h : x.isFinite = true) :
    Normal x.significand x.shift := by
  have he := x.exponentField_lt
  have hf := x.fraction_lt
  simp only [isFinite, bne_iff_ne, ne_eq] at h
  unfold significand shift
  split <;> constructor <;> omega

/-- The 63 bits below the sign count the grid points in order. -/
theorem rest_eq (x : Binary64) : x.rest = x.shift * 2 ^ 52 + x.significand := by
  unfold rest shift significand
  split <;> omega

/-- Every significand and shift belong to a number of either sign. -/
theorem exists_of_normal (s : Bool) {m k : Nat} (h : Normal m k) :
    ∃ x : Binary64, x.isFinite = true ∧ x.negative = s ∧ x.magnitude = m * 2 ^ k := by
  have hlt := h.lt
  have hle := h.le
  have hr : k * 2 ^ 52 + m < 2 ^ 63 := by omega
  have he := exponentField_ofParts s hr
  have hf := fraction_ofParts s hr
  refine ⟨ofParts s (k * 2 ^ 52 + m), ?_, negative_ofParts s hr, ?_⟩
  · rw [isFinite_iff, rest_ofParts s hr, infinityRest]
    omega
  · rw [magnitude_eq]
    have hparts : (ofParts s (k * 2 ^ 52 + m)).significand = m ∧
        (ofParts s (k * 2 ^ 52 + m)).shift = k := by
      have := h.lead
      unfold significand shift
      rw [he, hf]
      split <;> omega
    rw [hparts.1, hparts.2]

/-! ## Rounding what needs no rounding -/

theorem divNearest_mul (q : Nat) {d : Nat} (h : 0 < d) : divNearest (q * d) d = q := by
  unfold divNearest
  simp only [Nat.mul_div_cancel _ h, Nat.mul_mod_left]
  rw [if_pos (by omega)]

/-- The grid of a count is found from its length. -/
theorem log2_sub_of_normal {m k : Nat} (h : Normal m k) : (m * 2 ^ k).log2 - 52 = k := by
  rcases h.lead with rfl | hm
  · rw [Nat.pow_zero, Nat.mul_one]
    by_cases h0 : m = 0
    · subst h0; rfl
    · have := (Nat.log2_lt h0).2 h.lt
      omega
  · have hk := Nat.two_pow_pos k
    have h0 : m * 2 ^ k ≠ 0 := Nat.mul_ne_zero (by omega) (by omega)
    have hlow : 52 + k ≤ (m * 2 ^ k).log2 := by
      rw [Nat.le_log2 h0, Nat.pow_add]
      exact Nat.mul_le_mul_right _ hm
    have hhigh : (m * 2 ^ k).log2 < 53 + k := by
      rw [Nat.log2_lt h0, Nat.pow_add]
      exact Nat.mul_lt_mul_of_pos_right h.lt hk
    omega

theorem roundRest_of_normal {m k : Nat} (h : Normal m k) :
    roundRest (m * 2 ^ k) 1 = k * 2 ^ 52 + m := by
  have hlt := h.lt
  have hle := h.le
  simp only [roundRest, Nat.div_one, log2_sub_of_normal h, Nat.one_shiftLeft,
    divNearest_mul m (Nat.two_pow_pos k)]
  rw [infinityRest]
  omega

/-- **A finite number is the rounding of its own magnitude.** -/
theorem round_magnitude {x : Binary64} (h : x.isFinite = true) :
    round x.negative x.magnitude 1 = x := by
  rw [round, magnitude_eq, roundRest_of_normal (normal_of_isFinite h), ← rest_eq, ofParts_rest]

/-- **A count on the grid of its length is rounded to itself.** -/
theorem magnitude_round (s : Bool) {m k : Nat} (h : Normal m k) :
    (round s (m * 2 ^ k) 1).isFinite = true ∧ (round s (m * 2 ^ k) 1).negative = s ∧
      (round s (m * 2 ^ k) 1).magnitude = m * 2 ^ k := by
  obtain ⟨x, hfin, hneg, hmag⟩ := exists_of_normal s h
  have hx : round s (m * 2 ^ k) 1 = x := by rw [← hneg, ← hmag, round_magnitude hfin]
  rw [hx]
  exact ⟨hfin, hneg, hmag⟩

/-- Nothing but zero is rounded to zero. -/
theorem roundRest_pos {num : Nat} (h : 0 < num) : 0 < roundRest num 1 := by
  simp only [roundRest, Nat.div_one, Nat.one_shiftLeft]
  rw [infinityRest, Nat.lt_min]
  refine ⟨?_, by decide⟩
  rcases Nat.eq_zero_or_pos (num.log2 - 52) with h0 | h0
  · rw [h0, Nat.pow_zero]
    have := divNearest_mul num Nat.one_pos
    rw [Nat.mul_one] at this
    omega
  · omega

theorem roundRest_lt (num den : Nat) : roundRest num den < 2 ^ 63 :=
  Nat.lt_of_le_of_lt (Nat.min_le_right _ _) (by decide)

/-! ## Integers -/

/-- Every natural number of at most 53 digits has a significand and a shift, on any grid that is not
too fine or too coarse for it. -/
theorem exists_normal_mul_pow {n e : Nat} (h : n < 2 ^ 53) (he : 52 ≤ e) (he' : e ≤ 2045) :
    ∃ m k, Normal m k ∧ n * 2 ^ e = m * 2 ^ k := by
  rcases Nat.eq_zero_or_pos n with rfl | hn
  · exact ⟨0, 0, ⟨by decide, .inl rfl, by decide⟩, by rw [Nat.zero_mul, Nat.zero_mul]⟩
  · have hn0 : n ≠ 0 := by omega
    have hlog : n.log2 ≤ 52 := by
      have := (Nat.log2_lt hn0).2 h
      omega
    have hlow := Nat.log2_self_le hn0
    have hhigh := Nat.lt_log2_self (n := n)
    have hscale := Nat.two_pow_pos (52 - n.log2)
    have hsum : n.log2 + (52 - n.log2) = 52 := by omega
    have hsum' : n.log2 + 1 + (52 - n.log2) = 53 := by omega
    have hexp : 52 - n.log2 + (n.log2 + (e - 52)) = e := by omega
    refine ⟨n * 2 ^ (52 - n.log2), n.log2 + (e - 52), ⟨?_, .inr ?_, by omega⟩, ?_⟩
    · calc n * 2 ^ (52 - n.log2) < 2 ^ (n.log2 + 1) * 2 ^ (52 - n.log2) :=
            Nat.mul_lt_mul_of_pos_right hhigh hscale
        _ = 2 ^ 53 := by rw [← Nat.pow_add, hsum']
    · calc 2 ^ 52 = 2 ^ n.log2 * 2 ^ (52 - n.log2) := by rw [← Nat.pow_add, hsum]
        _ ≤ n * 2 ^ (52 - n.log2) := Nat.mul_le_mul_right _ hlow
    · rw [Nat.mul_assoc, ← Nat.pow_add, hexp]

theorem exists_normal_of_lt {n : Nat} (h : n < 2 ^ 53) :
    ∃ m k, Normal m k ∧ n * one = m * 2 ^ k := by
  obtain ⟨e, he⟩ : ∃ e, e = 1074 := ⟨_, rfl⟩
  rw [one_eq he]
  exact exists_normal_mul_pow h (by omega) (by omega)

/-- The rounding of a small integer of either sign is exact. -/
theorem round_whole (s : Bool) {n : Nat} (h : n < 2 ^ 53) :
    (round s (n * one) 1).isFinite = true ∧ (round s (n * one) 1).negative = s ∧
      (round s (n * one) 1).magnitude = n * one := by
  obtain ⟨m, k, hmk, hn⟩ := exists_normal_of_lt h
  rw [hn]
  exact magnitude_round s hmk

theorem ofNat_whole {n : Nat} (h : n < 2 ^ 53) :
    (ofNat n).isFinite = true ∧ (ofNat n).negative = false ∧ (ofNat n).magnitude = n * one :=
  round_whole false h

/-- **Every integer of at most 53 digits is a number**, and zero is the one without a sign. -/
theorem ofInt_whole {i : Int} (h : i.natAbs < 2 ^ 53) :
    (ofInt i).isFinite = true ∧ (ofInt i).negative = decide (i < 0) ∧
      (ofInt i).magnitude = i.natAbs * one :=
  round_whole _ h

/-- The value of a small integer is that integer. -/
theorem units_ofInt {i : Int} (h : i.natAbs < 2 ^ 53) : (ofInt i).units = i * (one : Int) := by
  obtain ⟨-, hneg, hmag⟩ := ofInt_whole h
  unfold units
  rw [hneg, hmag]
  by_cases hi : i < 0
  · rw [decide_eq_true hi, if_pos rfl]
    rw [Nat.cast_mul, show (i.natAbs : Int) = -i by omega, neg_mul, neg_neg]
  · rw [decide_eq_false hi, if_neg Bool.false_ne_true]
    rw [Nat.cast_mul, show (i.natAbs : Int) = i by omega]

/-- A finite number is the integer that its sign and its magnitude tell. -/
theorem eq_ofInt {x : Binary64} {i : Int} (hx : x.isFinite = true)
    (hs : x.negative = decide (i < 0)) (hm : x.magnitude = i.natAbs * one) : x = ofInt i := by
  rw [ofInt, ← hs, ← hm, round_magnitude hx]

end Binary64

end Boxing
