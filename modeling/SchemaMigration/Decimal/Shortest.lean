import SchemaMigration.Decimal.Binary64

/-!
# Shortest decimals

`shortest m e` is the decimal with the fewest digits among those that round to the binary value
`m * 2 ^ e`, and of those the one nearest to it.  The search asks, for one digit after the other,
whether one of the two neighbours of the value on that decimal grid lies in the interval of reals
that round to the value.
-/

namespace SchemaMigration

/-- A positive decimal `digits * 10 ^ exponent`. -/
structure Decimal where
  digits : Nat
  exponent : Int
  deriving DecidableEq, Repr

namespace Decimal

/-- The reals that round to `m * 2 ^ e`, in units of a quarter of the last place: the value is
`4 * m`, and the bounds belong to the interval when `closed` is set. -/
structure Interval where
  low : Nat
  value : Nat
  high : Nat
  closed : Bool

/-- The interval around a significand.  Below a power of two the neighbours lie closer. -/
def Interval.around (m : Nat) (e : Int) : Interval where
  low := if m = Nat.pow 2 52 ∧ Binary64.leastExponent < e then 4 * m - 1 else 4 * m - 2
  value := 4 * m
  high := 4 * m + 2
  closed := m % 2 == 0

/-- The largest power of ten that does not exceed the positive fraction `n / d`. -/
def log10 (n d : Nat) : Int :=
  if d ≤ n then (Numeral.digits (n / d)).length - 1
  else
    Int.negOfNat (Numeral.digits ((n + d - 1) / n - 1)).length

/-- The distance of two numbers. -/
def distance (a b : Nat) : Nat := (a - b) + (b - a)

/-- The neighbours of the value on the grid of multiples of `10 ^ k` that lie in the interval, the
preferred one first: the nearer one, or the even one when both are equally near. -/
def neighbour? (i : Interval) (e k : Int) : Option Nat :=
  -- all lengths in units of `1 / d`, where a quarter of the last place is `u` such units
  let (u, d) := Binary64.scale 2 1 1 (e - 2)
  let (g, c) := Binary64.scale 10 d 1 k
  -- a grid step is `g`, the value is `i.value * u * c`
  let v := i.value * u * c
  let inside (x : Nat) : Bool :=
    if i.closed then decide (i.low * u * c ≤ x * g) && decide (x * g ≤ i.high * u * c)
    else decide (i.low * u * c < x * g) && decide (x * g < i.high * u * c)
  let f := v / g
  let near := distance (f * g) v
  let far := distance ((f + 1) * g) v
  let floorFirst := decide (near < far) || (near == far && f % 2 == 0)
  let (x, y) := if floorFirst then (f, f + 1) else (f + 1, f)
  if inside x then some x else if inside y then some y else none

/-- The decimal without trailing zeros in its digits; `fuel` bounds their number. -/
def stripZeros : (fuel : Nat) → Decimal → Decimal
  | 0, x => x
  | fuel + 1, x =>
    if x.digits ≠ 0 ∧ x.digits % 10 = 0 then stripZeros fuel ⟨x.digits / 10, x.exponent + 1⟩
    else x

/-- Tries grids from `10 ^ k` downwards until one has a point in the interval. -/
def search (i : Interval) (e : Int) : (fuel : Nat) → (k : Int) → Decimal
  | 0, k => ⟨0, k⟩
  | fuel + 1, k =>
    match neighbour? i e k with
    | some x => stripZeros 20 ⟨x, k⟩
    | none => search i e fuel (k - 1)

/-- The shortest decimal that rounds to `m * 2 ^ e`, for a positive `m`. -/
def shortest (m : Nat) (e : Int) : Decimal :=
  let (n, d) := Binary64.scale 2 m 1 e
  search (Interval.around m e) e 18 (log10 n d)

end Decimal
end SchemaMigration
