import SchemaMigration.Text.Numeral

/-!
# Binary floating point with 64 bits

`Binary64` holds the values of the 64-bit binary format exactly: a sign, a significand below
`2 ^ 53` and a power of two.  `ofDecimal` rounds a decimal to the nearest such value, ties going
to the even significand, and `read?` reads the text of a decimal.
-/

namespace SchemaMigration

/-- A value of the 64-bit binary format; `finite s m e` is `m * 2 ^ e`, negated when `s` is set. -/
inductive Binary64 where
  | finite (negative : Bool) (significand : Nat) (exponent : Int)
  | infinity (negative : Bool)
  | nan
  deriving DecidableEq, Repr, Inhabited

namespace Binary64

/-! ### The format -/

/-- The least power of two that a finite value is a multiple of. -/
def leastExponent : Int := -1074

/-- The power of two of the largest finite values. -/
def greatestExponent : Int := 971

/-- Zero with a sign. -/
def zero (negative : Bool) : Binary64 := .finite negative 0 leastExponent

/-- Whether the value is neither infinite nor undefined. -/
def isFinite : Binary64 → Bool
  | .finite .. => true
  | _ => false

/-- Equality of values: the two zeros are one value, and so is the undefined value. -/
def sameValue : Binary64 → Binary64 → Bool
  | .finite s m e, .finite t n f => m == n && (m == 0 || (s == t && e == f))
  | .infinity s, .infinity t => s == t
  | .nan, .nan => true
  | _, _ => false

/-! ### Rounding -/

/-- The integer nearest to `n / d`, a tie going to the even one. -/
def roundDiv (n d : Nat) : Nat :=
  let q := n / d
  let r := n % d
  if 2 * r > d ∨ (2 * r = d ∧ q % 2 = 1) then q + 1 else q

/-- The fraction `(n * b ^ e) / d` as numerator and denominator, for an exponent of either sign. -/
def scale (b n d : Nat) (e : Int) : Nat × Nat :=
  if 0 ≤ e then (n * b.pow e.toNat, d) else (n, d * b.pow e.natAbs)

/-- The nearest value to the positive fraction `n / d`. -/
def ofRatio (negative : Bool) (n d : Nat) : Binary64 :=
  let guess : Int := (n.log2 : Int) - d.log2 - 53
  let (a, b) := scale 2 n d (-guess)
  let fitted := if a / b < Nat.pow 2 53 then guess else guess + 1
  let e := max fitted leastExponent
  let (a, b) := scale 2 n d (-e)
  let m := roundDiv a b
  let (m, e) := if m = Nat.pow 2 53 then (Nat.pow 2 52, e + 1) else (m, e)
  if m = 0 then zero negative
  else if greatestExponent < e then .infinity negative
  else .finite negative m e

/-- The value nearest to `m * 10 ^ e`, negated when `negative` is set.  Decimals that lie far
outside the format are decided by their number of digits alone. -/
def ofDecimal (negative : Bool) (m : Nat) (e : Int) : Binary64 :=
  let size : Int := (Numeral.digits m).length + e
  if m = 0 ∨ size < -400 then zero negative
  else if 400 < size then .infinity negative
  else
    let (n, d) := scale 10 m 1 e
    ofRatio negative n d

/-! ### Powers of ten -/

/-- The greatest power of ten in the format. -/
def greatestPower : Nat := 308

/-- The value nearest to `n / d * 2 ^ e`. -/
def ofScaled (negative : Bool) (n d : Nat) (e : Int) : Binary64 :=
  let (n, d) := scale 2 n d e
  ofRatio negative n d

/-- The value nearest to `x` times the power of ten of the format that is nearest to `10 ^ e`, or,
if `e` is negative, to `x` over the one that is nearest to `10 ^ (-e)`. -/
def timesPower (x : Binary64) (e : Int) : Binary64 :=
  match x, ofDecimal false 1 e.natAbs with
  | .finite s m p, .finite _ n q =>
    if 0 ≤ e then ofScaled s (m * n) 1 (p + q) else ofScaled s m n (p - q)
  | x, _ => x

/-- A decimal in steps that each round: its digits `m` first, then their product with the power of
ten.  The result need not be the nearest value to `m * 10 ^ e`. -/
def ofDecimalInSteps (negative : Bool) (m : Nat) (e : Int) : Binary64 :=
  let x := ofDecimal negative m 0
  if m = 0 ∨ e < -2 * (greatestPower : Int) then zero negative
  else if (greatestPower : Int) < e then .infinity negative
  else if e < -(greatestPower : Int) then
    (x.timesPower (-greatestPower)).timesPower (e + greatestPower)
  else x.timesPower e

/-! ### Reading -/

/-- A text split after its leading decimal digits. -/
def spanDigits (s : List Char) : List Char × List Char :=
  (s.takeWhile Numeral.isDigit, s.dropWhile Numeral.isDigit)

/-- The exponent part of a decimal: nothing, or `e` with an optional sign and digits. -/
def readExponent? : List Char → Option Int
  | [] => some 0
  | c :: cs => if c = 'e' ∨ c = 'E' then Numeral.readSigned? cs else none

/-- Reads an unsigned decimal: digits with at most one point among or around them, and an optional
exponent. -/
def readUnsigned? (negative : Bool) (s : List Char) : Option Binary64 :=
  let (whole, rest) := spanDigits s
  let (places, rest) := match rest with
    | '.' :: cs => spanDigits cs
    | _ => ([], rest)
  do
    let m ← Numeral.read? (whole ++ places)
    let e ← readExponent? rest
    pure (ofDecimal negative m (e - places.length))

/-- Reads a decimal with an optional sign. -/
def read? : List Char → Option Binary64
  | '-' :: cs => readUnsigned? true cs
  | '+' :: cs => readUnsigned? false cs
  | cs => readUnsigned? false cs

end Binary64
end SchemaMigration
