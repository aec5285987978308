/-!
# Numbers of 64 bits

`Binary64` is a binary floating-point number held as its 64 bits: one sign bit, eleven bits of
exponent and 52 bits of fraction. Numbers are equal when all bits are, so the two zeros differ
and every NaN is a number of its own.

A finite number is a whole multiple of `2 ^ -1074`, the *unit*. `Binary64.magnitude` counts the
units without the sign, `Binary64.units` with it, and `Binary64.one` is the count of `1.0`; exact
statements about numbers are statements about these counts. `Binary64.ofParts` puts a pattern
together.

The sign bit weighs `0x8000000000000000`, that is `2 ^ 63`, and the exponent counts in steps of
`0x10000000000000`, that is `2 ^ 52`.
-/

set_option autoImplicit false

namespace Boxing

/-- A binary floating-point number of 64 bits, told apart from others by its bits alone. -/
structure Binary64 where
  bits : UInt64
  deriving DecidableEq, Repr

namespace Binary64

/-! ## Fields -/

/-- The sign bit: set for `-0.0` and for some NaNs too. -/
def negative (x : Binary64) : Bool := decide (0x8000000000000000 ≤ x.bits.toNat)

/-- The biased exponent: `0` for zeros and subnormals, `2047` for infinities and NaNs. -/
def exponentField (x : Binary64) : Nat := x.bits.toNat / 0x10000000000000 % 0x800

def fraction (x : Binary64) : Nat := x.bits.toNat % 0x10000000000000

def isFinite (x : Binary64) : Bool := x.exponentField != 2047

def isInfinite (x : Binary64) : Bool := x.exponentField == 2047 && x.fraction == 0

def isNaN (x : Binary64) : Bool := x.exponentField == 2047 && x.fraction != 0

def isZero (x : Binary64) : Bool := x.exponentField == 0 && x.fraction == 0

/-! ## Exact values -/

/-- The fraction with its leading bit, which is present unless the exponent field is zero. -/
def significand (x : Binary64) : Nat :=
  if x.exponentField = 0 then x.fraction else 0x10000000000000 + x.fraction

/-- How far the significand is shifted: zeros, subnormals and the least normal numbers lie on the
grid of one unit, and each further exponent doubles the grid. -/
def shift (x : Binary64) : Nat := x.exponentField - 1

/-- The number of units in a finite number, the sign left aside. -/
def magnitude (x : Binary64) : Nat := x.significand <<< x.shift

/-- The number of units in `1.0`. -/
def one : Nat := 1 <<< 1074

/-- A finite number in units. -/
def units (x : Binary64) : Int := if x.negative then -(x.magnitude : Int) else x.magnitude

/-! ## Patterns -/

/-- The pattern with the given sign bit and the given 63 bits below it. -/
def ofParts (negative : Bool) (rest : Nat) : Binary64 :=
  ⟨UInt64.ofNat ((if negative then 0x8000000000000000 else 0) + rest)⟩

/-- The 63 bits of an infinity below its sign. -/
def infinityRest : Nat := 2047 * 0x10000000000000

def zero : Binary64 := ofParts false 0

def infinity (negative : Bool) : Binary64 := ofParts negative infinityRest

/-- The quiet NaN without payload, which stands for every undefined result. -/
def nan : Binary64 := ofParts false (infinityRest + 0x8000000000000)

instance : Inhabited Binary64 := ⟨zero⟩

theorem ext_bits {x y : Binary64} (h : x.bits = y.bits) : x = y := by
  cases x; cases y; simp_all

theorem fraction_lt (x : Binary64) : x.fraction < 0x10000000000000 := Nat.mod_lt _ (by decide)

theorem exponentField_lt (x : Binary64) : x.exponentField < 0x800 := Nat.mod_lt _ (by decide)

/-- The bits are their three fields side by side. -/
theorem toNat_bits (x : Binary64) :
    x.bits.toNat =
      (if x.negative then 0x8000000000000000 else 0) +
        (x.exponentField * 0x10000000000000 + x.fraction) := by
  have h := x.bits.toNat_lt
  simp only [negative, exponentField, fraction, decide_eq_true_eq]
  split <;> omega

/-- The sign and the bits below it make up the number. -/
theorem ofParts_negative (x : Binary64) :
    ofParts x.negative (x.exponentField * 0x10000000000000 + x.fraction) = x := by
  apply ext_bits
  rw [ofParts, ← toNat_bits x, UInt64.ofNat_toNat]

end Binary64

end Boxing
