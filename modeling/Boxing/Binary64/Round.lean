import Boxing.Binary64.Basic

/-!
# Rounding and exact arithmetic

Every operation computes its exact result as a quotient of naturals, in units of `2 ^ -1074`, and
rounds once: `Binary64.round` gives the number nearest to the quotient, a tie going to the even
pattern. `Binary64.ofNat` and `Binary64.ofInt` convert integers, `Binary64.add` adds,
`Binary64.mul` multiplies and `Binary64.div` divides.
-/

set_option autoImplicit false

namespace Boxing

/-- The natural number nearest to `num / den`; of two equally near, the even one. -/
def divNearest (num den : Nat) : Nat :=
  let q := num / den
  let r := num % den
  if 2 * r < den then q else if den < 2 * r then q + 1 else q + q % 2

namespace Binary64

/-- The 63 low bits of the number nearest to `num / den` units.

The grid near a value below `2 ^ 53` units is one unit wide, and it doubles with every further
binary digit. Patterns count the grid points in order, so a carry into the next power of two needs
no case of its own; past the last finite pattern comes infinity. -/
def roundRest (num den : Nat) : Nat :=
  let shift := (num / den).log2 - 52
  min (shift * 0x10000000000000 + divNearest num (den <<< shift)) infinityRest

/-- The number of the given sign nearest to `num / den` units, a tie going to the even pattern. -/
def round (negative : Bool) (num den : Nat) : Binary64 := ofParts negative (roundRest num den)

/-! ## Conversions -/

/-- The number nearest to a natural number. -/
def ofNat (n : Nat) : Binary64 := round false (n * one) 1

/-- The number nearest to an integer; zero is `+0.0`. -/
def ofInt (i : Int) : Binary64 := round (decide (i < 0)) (i.natAbs * one) 1

/-- `0.5`. -/
def half : Binary64 := round false one 2

/-! ## Arithmetic -/

/-- The sum. Opposite infinities have none; an exact zero is `+0.0` unless both terms are
negative. -/
def add (x y : Binary64) : Binary64 :=
  if x.isNaN || y.isNaN then nan
  else if x.isInfinite then (if y.isInfinite && x.negative != y.negative then nan else x)
  else if y.isInfinite then y
  else
    let s := x.units + y.units
    if s = 0 then ofParts (x.negative && y.negative) 0 else round (decide (s < 0)) s.natAbs 1

/-- The product. An infinity times a zero is undefined. -/
def mul (x y : Binary64) : Binary64 :=
  let negative := x.negative != y.negative
  if x.isNaN || y.isNaN || (x.isInfinite && y.isZero) || (x.isZero && y.isInfinite) then nan
  else if x.isInfinite || y.isInfinite then infinity negative
  else round negative (x.magnitude * y.magnitude) one

/-- The quotient. Nothing divided by itself is defined for zeros and infinities; any other number
divided by a zero is infinite. -/
def div (x y : Binary64) : Binary64 :=
  let negative := x.negative != y.negative
  if x.isNaN || y.isNaN || (x.isInfinite && y.isInfinite) || (x.isZero && y.isZero) then nan
  else if x.isInfinite || y.isZero then infinity negative
  else if y.isInfinite then ofParts negative 0
  else round negative (x.magnitude * one) y.magnitude

end Binary64

end Boxing
