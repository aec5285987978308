import Boxing.Binary64.Basic

/-!
# The shortest decimal of a number

A number stands for every real that rounds to it: an interval around its exact value, reaching
halfway to each neighbour, with its ends when the significand is even. `Binary64.shortest` is the
decimal with the fewest digits in that interval; of two with that many digits it is the nearer
to the exact value, and of two equally near the larger.

The search is exact. For `1, 2, …` digits the two neighbours of the value on the grid of
decimals with that many digits are tried (`Span.candidate?`), and the first hit is taken: a grid
with any point in the interval has one of the value's own neighbours in it.
-/

set_option autoImplicit false

namespace Boxing

/-- The decimal `significand * 10 ^ exponent`. -/
structure Decimal where
  significand : Nat
  exponent : Int
  deriving DecidableEq, Repr

/-- The number of decimal digits of a natural number; zero has none. -/
def digitCount (n : Nat) : Nat := if h : n = 0 then 0 else digitCount (n / 10) + 1
  termination_by n
  decreasing_by omega

/-- The power of ten with the given exponent. -/
def tenTo (k : Nat) : Nat := Nat.pow 10 k

namespace Decimal

/-- Drops up to `fuel` zeros from the end of the significand. -/
def stripZeros : Nat → Decimal → Decimal
  | 0, d => d
  | fuel + 1, d =>
    if d.significand ≠ 0 ∧ d.significand % 10 = 0 then
      stripZeros fuel ⟨d.significand / 10, d.exponent + 1⟩
    else d

/-- The same decimal without zeros at the end of its significand. -/
def normalize (d : Decimal) : Decimal := stripZeros (digitCount d.significand) d

end Decimal

/-- A positive value between the two ends of an interval, all three over one denominator. -/
structure Span where
  low : Nat
  value : Nat
  high : Nat
  den : Nat
  /-- The ends belong to the interval. -/
  closed : Bool

namespace Span

/-- The point `n` of the grid of width `unit` lies in the interval from `low` to `high`. -/
def holds (s : Span) (n unit : Nat) : Bool :=
  if s.closed then decide (s.low ≤ n * unit ∧ n * unit ≤ s.high)
  else decide (s.low < n * unit ∧ n * unit < s.high)

/-- The same interval with all four naturals multiplied so that the grid of width
`10 ^ exponent` is a grid of naturals, and that grid's width. -/
def onGrid (s : Span) (exponent : Int) : Span × Nat :=
  let up := tenTo (-exponent).toNat
  (⟨s.low * up, s.value * up, s.high * up, s.den, s.closed⟩, s.den * tenTo exponent.toNat)

/-- The multiple of `10 ^ exponent` in the interval that is next to the value: the nearer one if
both neighbours are in it, the larger if they are equally near. -/
def candidate? (s : Span) (exponent : Int) : Option Decimal :=
  let (t, unit) := s.onGrid exponent
  let below := t.value / unit
  let above := below + 1
  match t.holds below unit, t.holds above unit with
  | true, true => some ⟨if 2 * t.value < (below + above) * unit then below else above, exponent⟩
  | true, false => some ⟨below, exponent⟩
  | false, true => some ⟨above, exponent⟩
  | false, false => none

/-- The number of digits before the decimal point: the least `k` with the value below
`10 ^ k`. It is negative for values that start with zeros after the point; values are at least
`10 ^ -330`. -/
def pointAt (s : Span) : Int := (digitCount (s.value * tenTo 330 / s.den) : Int) - 330

end Span

namespace Binary64

/-- The reals that round to the magnitude of a finite nonzero number, in quarters of a unit: the
gap below a power of two is half the gap above it. -/
def span (x : Binary64) : Span :=
  let gap := 1 <<< x.shift
  let below := if x.fraction = 0 ∧ 1 < x.exponentField then gap else 2 * gap
  let value := 4 * x.magnitude
  ⟨value - below, value, value + 2 * gap, 4 * one, x.significand % 2 == 0⟩

/-- The shortest decimal of the magnitude of a finite number. Seventeen digits always suffice;
past them the value itself is given, all of whose digits end within 1074 places. -/
def shortest (x : Binary64) : Decimal :=
  if x.isZero then ⟨0, 0⟩
  else
    let s := x.span
    let found := (List.range 17).findSome? fun i => s.candidate? (s.pointAt - (i + 1 : Nat))
    (found.getD ⟨x.magnitude * tenTo 1074 / one, -1074⟩).normalize

end Binary64

end Boxing
