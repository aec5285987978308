import Boxing.Value.Preload
import Boxing.Proofs.Binary64.Integral

/-!
# Which numbers have an entry

`PreloadTable.get?` finds an entry for the integers from `-128` to `255` (`get?_ofInt`) and for no
other number (`get?_of_not_preloaded`), whatever the table holds. A finite number of `m` whole ones
goes to the non-negative half if its sign bit is clear and `m` is below 256 (`get?_nonNegative`) and
to the negative half if its sign bit is set and `m` is between 1 and 128 (`get?_negative`).
-/

set_option autoImplicit false

namespace Boxing

/-- The number stands for an integer with a permanent value. Zero is `+0.0` only. -/
def Preloaded (n : Binary64) : Prop := ∃ k : Int, -128 ≤ k ∧ k ≤ 255 ∧ n = .ofInt k

namespace Half

/-- The half in which an integer is found. -/
def ofInt (k : Int) : Half := if k < 0 then .negative else .nonNegative

/-- The position at which an integer is found in its half. -/
def index (k : Int) : Nat := if k < 0 then (-k - 1).toNat else k.toNat

theorem index_lt {k : Int} (h1 : -128 ≤ k) (h2 : k ≤ 255) :
    index k < (Half.ofInt k).limit.toNat := by
  unfold index Half.ofInt
  split
  · show _ < 128
    omega
  · show _ < 256
    omega

/-- An integer is what stands at its position. -/
theorem entry_index (k : Int) : (Half.ofInt k).entry (index k) = k := by
  unfold index Half.ofInt
  split <;> simp only [entry] <;> omega

/-- Each position of a half belongs to an integer. -/
theorem exists_index {h : Half} {i : Nat} (hi : i < h.limit.toNat) :
    ∃ k : Int, -128 ≤ k ∧ k ≤ 255 ∧ Half.ofInt k = h ∧ index k = i ∧ h.entry i = k := by
  cases h with
  | nonNegative =>
    have hi : i < 256 := hi
    exact ⟨i, by omega, by omega, if_neg (by omega), by rw [index, if_neg (by omega)]; omega, rfl⟩
  | negative =>
    have hi : i < 128 := hi
    refine ⟨-(i + 1 : Int), by omega, by omega, if_pos (by omega), ?_, rfl⟩
    rw [index, if_pos (by omega)]
    omega

end Half

theorem preloaded_iff {n : Binary64} :
    Preloaded n ↔ n ∈ Half.nonNegative.numbers ∨ n ∈ Half.negative.numbers := by
  have hmem {h : Half} : n ∈ h.numbers ↔ ∃ i < h.limit.toNat, .ofInt (h.entry i) = n := by
    simp [Half.numbers]
  rw [hmem, hmem]
  constructor
  · rintro ⟨k, h1, h2, rfl⟩
    have hi := Half.index_lt h1 h2
    have he := Half.entry_index k
    generalize Half.ofInt k = h at hi he
    cases h with
    | nonNegative => exact .inl ⟨_, hi, by rw [he]⟩
    | negative => exact .inr ⟨_, hi, by rw [he]⟩
  · rintro (⟨i, hi, rfl⟩ | ⟨i, hi, rfl⟩) <;> obtain ⟨k, h1, h2, -, -, he⟩ := Half.exists_index hi
    · exact ⟨k, h1, h2, by rw [he]⟩
    · exact ⟨k, h1, h2, by rw [he]⟩

instance : DecidablePred Preloaded := fun _ => decidable_of_iff' _ preloaded_iff

namespace PreloadTable

open Binary64

variable (t : PreloadTable) {n : Binary64} {m : Nat}

/-! ## The tests on an integral number -/

/-- The number is finite and has `m` whole ones below its sign. -/
def Whole (n : Binary64) (m : Nat) : Prop := n.isFinite = true ∧ n.magnitude = m * one

theorem fract_of_whole (h : Whole n m) : n.fract.eq zero = true :=
  fract_eq_zero_iff.2 ⟨h.1, by rw [h.2, Nat.mul_mod_left]⟩

theorem exists_whole (h : n.fract.eq zero = true) : ∃ m, Whole n m := by
  obtain ⟨hfin, hmod⟩ := fract_eq_zero_iff.1 h
  exact ⟨n.magnitude / one, hfin, (Nat.div_mul_cancel (Nat.dvd_of_mod_eq_zero hmod)).symm⟩

theorem whole_neg (h : Whole n m) : Whole n.neg m := by
  refine ⟨?_, ?_⟩
  · rw [isFinite_congr (rest_neg n), h.1]
  · rw [magnitude_congr (rest_neg n), h.2]

theorem whole_ofNat (h : m < 2 ^ 53) : Whole (.ofNat m) m :=
  ⟨(ofNat_whole h).1, (ofNat_whole h).2.2⟩

theorem whole_ofInt {k : Int} (h : k.natAbs < 2 ^ 53) : Whole (.ofInt k) k.natAbs :=
  ⟨(ofInt_whole h).1, (ofInt_whole h).2.2⟩

/-- Whole numbers without sign compare as their counts of ones do. -/
theorem lt_of_whole {x y : Binary64} {a b : Nat} (hx : Whole x a) (hy : Whole y b)
    (hxs : x.negative = false) (hys : y.negative = false) : x.lt y = decide (a < b) := by
  rw [lt_of_isFinite hx.1 hy.1, units_of_nonneg hxs, units_of_nonneg hys, hx.2, hy.2,
    decide_eq_decide, mul_one_lt]

theorem le_of_whole {x y : Binary64} {a b : Nat} (hx : Whole x a) (hy : Whole y b)
    (hxs : x.negative = false) (hys : y.negative = false) : x.le y = decide (a ≤ b) := by
  rw [le_of_isFinite hx.1 hy.1, units_of_nonneg hxs, units_of_nonneg hys, hx.2, hy.2,
    decide_eq_decide, mul_one_le]

/-- A number with a sign is not as great as one. -/
theorem le_of_negative {x y : Binary64} {a b : Nat} (hx : Whole x (a + 1)) (hy : Whole y b)
    (hxs : x.negative = false) (hys : y.negative = true) : x.le y = false := by
  have hpos : (0 : Int) < x.units := by
    rw [units_of_nonneg hxs, hx.2]
    exact_mod_cast Nat.mul_pos (Nat.succ_pos a) Binary64.one_pos
  have hneg : y.units ≤ 0 := by
    rw [units_of_negative hys]
    omega
  rw [le_of_isFinite hx.1 hy.1]
  exact decide_eq_false (by omega)

/-! ## The decision -/

theorem get?_fraction (h : n.fract.eq zero = false) : t.get? n = .ok none := by
  rw [get?, h]
  rfl

/-- With a clear sign bit the ones below 256 count. -/
theorem get?_nonNegative (h : Whole n m) (hs : n.negative = false) :
    t.get? n = .ok (if m < 256 then t.nonNegative[m]? else none) := by
  have h256 : Whole (.ofNat Half.nonNegative.limit.toNat) 256 := whole_ofNat (by decide)
  have hlt := lt_of_whole h h256 hs (ofNat_whole (by decide)).2.1
  have hle : (Binary64.ofNat 1).le n.neg = false :=
    le_of_negative (whole_ofNat (by decide)) (whole_neg h) (ofNat_whole (by decide)).2.1
      (by rw [negative_neg, hs]; rfl)
  simp only [get?, fract_of_whole h, hs, hlt, hle, Bool.not_true, Bool.not_false, Bool.true_and,
    Bool.false_and, Bool.false_eq_true, ↓reduceIte, decide_eq_true_eq]
  split
  · rw [toWord_whole h.1 hs h.2, Nat.min_eq_left (by unfold UInt64.size; omega)]
    rfl
  · rfl

/-- With a set sign bit the ones from 1 to 128 count. -/
theorem get?_negative (h : Whole n m) (hs : n.negative = true) :
    t.get? n = .ok (if 1 ≤ m ∧ m ≤ 128 then t.negative[m - 1]? else none) := by
  have h128 : Whole (.ofNat Half.negative.limit.toNat) 128 := whole_ofNat (by decide)
  have hs' : n.neg.negative = false := by rw [negative_neg, hs]; rfl
  have hlow := le_of_whole (whole_ofNat (by decide)) (whole_neg h)
    (ofNat_whole (n := 1) (by decide)).2.1 hs'
  have hhigh := le_of_whole (whole_neg h) h128 hs' (ofNat_whole (by decide)).2.1
  simp only [get?, fract_of_whole h, hs, hlow, hhigh, Bool.not_true, Bool.false_and,
    Bool.false_eq_true, ↓reduceIte, Bool.and_eq_true, decide_eq_true_eq]
  split
  · rename_i hm
    rw [toWord_whole (whole_neg h).1 hs' (whole_neg h).2,
      Nat.min_eq_left (by unfold UInt64.size; omega), Checked.sub_eq_ok hm.1]
    rfl
  · rfl

/-- **A small integer is looked up at its own position.** -/
theorem get?_ofInt {k : Int} (h1 : -128 ≤ k) (h2 : k ≤ 255) :
    t.get? (.ofInt k) = .ok (t.half (Half.ofInt k))[Half.index k]? := by
  have hk : k.natAbs < 2 ^ 53 := by omega
  have hneg := (ofInt_whole hk).2.1
  by_cases h0 : k < 0
  · rw [get?_negative t (whole_ofInt hk) (by rw [hneg, decide_eq_true h0]), if_pos (by omega),
      Half.ofInt, if_pos h0, Half.index, if_pos h0, show (-k - 1).toNat = k.natAbs - 1 by omega]
    rfl
  · rw [get?_nonNegative t (whole_ofInt hk) (by rw [hneg, decide_eq_false h0]), if_pos (by omega),
      Half.ofInt, if_neg h0, Half.index, if_neg h0, show k.toNat = k.natAbs by omega]
    rfl

/-- **Any other number has no entry**: fractions, NaNs, infinities, integers out of range and
`-0.0`. -/
theorem get?_of_not_preloaded (h : ¬ Preloaded n) : t.get? n = .ok none := by
  by_cases hf : n.fract.eq zero = true
  · obtain ⟨m, hm⟩ := exists_whole hf
    cases hs : n.negative with
    | false =>
      rw [get?_nonNegative t hm hs]
      refine congrArg _ (if_neg fun hlt => h ⟨m, by omega, by omega, ?_⟩)
      exact eq_ofInt hm.1 (by rw [hs, decide_eq_false (by omega)]) (by rw [hm.2]; rfl)
    | true =>
      rw [get?_negative t hm hs]
      refine congrArg _ (if_neg fun hlt => h ⟨-m, by omega, by omega, ?_⟩)
      exact eq_ofInt hm.1 (by rw [hs, decide_eq_true (by omega)])
        (by rw [hm.2, Int.natAbs_neg]; rfl)
  · exact get?_fraction t (by simpa using hf)

/-- A lookup answers the entry. -/
theorem get?_of_lookup {t : PreloadTable} {r : NumberRef}
    (h : t.lookup n = .ok (some (.number r))) : t.get? n = .ok (some r) := by
  cases hg : t.get? n with
  | error f =>
    rw [lookup, hg] at h
    cases h
  | ok entry =>
    rw [lookup, hg] at h
    cases entry with
    | none => cases h
    | some e =>
      cases h
      rfl

end PreloadTable

end Boxing
