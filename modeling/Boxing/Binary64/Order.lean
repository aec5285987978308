import Boxing.Binary64.Round

/-!
# Order and integral parts

Numbers compare by their exact values: the two zeros are equal, an infinity lies beyond every finite
number, and a NaN compares with nothing (`Binary64.eq`, `Binary64.lt`, `Binary64.le`).
`Binary64.trunc` drops the bits of a number that stand for less than one, `Binary64.fract` is what
remains, and `Binary64.toWord` gives the integral part as a word of 64 bits.
-/

set_option autoImplicit false

namespace Boxing

namespace Binary64

/-- The 63 bits below the sign. -/
def rest (x : Binary64) : Nat := x.exponentField * 0x10000000000000 + x.fraction

/-! ## Order -/

/-- Neither is a NaN and both have one value. -/
def eq (x y : Binary64) : Bool := !x.isNaN && !y.isNaN && x.units == y.units

/-- Neither is a NaN and the first has the lesser value. -/
def lt (x y : Binary64) : Bool := !x.isNaN && !y.isNaN && decide (x.units < y.units)

/-- Neither is a NaN and the first has the lesser value or the same. -/
def le (x y : Binary64) : Bool := !x.isNaN && !y.isNaN && decide (x.units ≤ y.units)

/-! ## Signs and differences -/

/-- The number with the other sign bit. -/
def neg (x : Binary64) : Binary64 := ofParts (!x.negative) x.rest

/-- The difference. -/
def sub (x y : Binary64) : Binary64 := x.add y.neg

/-! ## Integral parts -/

/-- The integral part, towards zero. From the exponent `1023` of `1.0` on, each exponent leaves one
bit of the fraction less to numbers below one, and none from `1075` on. -/
def trunc (x : Binary64) : Binary64 :=
  if x.exponentField < 1023 then ofParts x.negative 0
  else if x.exponentField < 1075 then
    ofParts x.negative (x.rest - x.rest % (1 <<< (1075 - x.exponentField)))
  else x

/-- What the integral part leaves; an infinity leaves a NaN. -/
def fract (x : Binary64) : Binary64 := x.sub x.trunc

/-- The integral part as a word of 64 bits: nothing for negative numbers and for NaNs, and the
greatest word for all that lies beyond it. -/
def toWord (x : Binary64) : Nat :=
  if x.isNaN || x.negative then 0 else min (x.magnitude / one) (UInt64.size - 1)

end Binary64

end Boxing
