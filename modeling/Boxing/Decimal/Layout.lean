import Boxing.Decimal.Shortest

/-!
# Decimals as text

`DecimalLayout` records the decisions of a number format: which exponents are written
positionally and how integers and exponents are marked. `Binary64.text` writes a number with the
fewest digits that identify it.
-/

set_option autoImplicit false

namespace Boxing

/-- The decisions of a number format. -/
structure DecimalLayout where
  /-- The least exponent of the leading digit that is written positionally. -/
  leastPositional : Int
  /-- Exponents of the leading digit from here on are written out as an exponent. -/
  positionalBelow : Int
  /-- What follows an integer that is written positionally. -/
  wholeMark : String
  exponentMark : String

/-- Numbers of at least `0.0001` and below `10 ^ 16` are written positionally, an integer with
`.0`; all others have one digit before the point and an exponent after an `e`. -/
def numberLayout : DecimalLayout := ⟨-4, 16, ".0", "e"⟩

namespace DecimalLayout

/-- The digits of a positional decimal with `point` of them before the decimal point. -/
def positional (l : DecimalLayout) (digits : List Char) (point : Int) : String :=
  if point ≤ 0 then
    "0." ++ String.ofList (List.replicate (-point).toNat '0' ++ digits)
  else if digits.length ≤ point.toNat then
    String.ofList (digits ++ List.replicate (point.toNat - digits.length) '0') ++ l.wholeMark
  else
    String.ofList (digits.take point.toNat) ++ "." ++ String.ofList (digits.drop point.toNat)

/-- One digit before the point, the rest after it, and the exponent of the leading digit. -/
def scientific (l : DecimalLayout) (digits : List Char) (exponent : Int) : String :=
  let rest := digits.drop 1
  String.ofList (digits.take 1) ++ (if rest.isEmpty then "" else "." ++ String.ofList rest) ++
    l.exponentMark ++ toString exponent

def render (l : DecimalLayout) (d : Decimal) : String :=
  let digits := Nat.toDigits 10 d.significand
  let point := (digits.length : Int) + d.exponent
  let leading := point - 1
  if d.significand = 0 ∨ (l.leastPositional ≤ leading ∧ leading < l.positionalBelow) then
    l.positional digits point
  else l.scientific digits leading

end DecimalLayout

/-- The text of a number: a sign, and the fewest digits that identify it. -/
def Binary64.text (x : Binary64) : String :=
  if x.isNaN then "NaN"
  else
    (if x.negative then "-" else "") ++
      if x.isInfinite then "inf" else numberLayout.render x.shortest

end Boxing
