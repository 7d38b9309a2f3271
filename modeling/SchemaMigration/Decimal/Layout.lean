import SchemaMigration.Decimal.Shortest

/-!
# Layout of floating-point text

The shortest digits of a value are fixed; where the point stands, when an exponent is written and
how the special values are spelled is a `Layout`.
-/

namespace SchemaMigration

/-- How the digits of a floating-point value are laid out.  The position of a value is the number
of digits before its point, negative when zeros follow the point. -/
structure Layout where
  /-- values at or below this position are written with an exponent -/
  below : Option Int
  /-- values above this position are written with an exponent -/
  above : Option Int
  infinity : String
  nan : String

namespace Layout

/-- Numbers in documents and in generated SQL: an exponent from `10 ^ 16` on and below
`10 ^ -5`. -/
def document : Layout := ⟨some (-5), some 16, ".inf", ".nan"⟩

/-- Numbers in complaints: never an exponent. -/
def complaint : Layout := ⟨none, none, "inf", "NaN"⟩

/-- Whether a value at this position is written without an exponent. -/
def isPositional (l : Layout) (position : Int) : Bool :=
  (l.below.all fun b => decide (b < position)) && (l.above.all fun a => decide (position ≤ a))

/-- A list of `n` zeros. -/
def zeros (n : Nat) : List Char := List.replicate n '0'

/-- The digits of a positive decimal with a point, and with an exponent where the layout wants
one. -/
def writeDecimal (l : Layout) (x : Decimal) : List Char :=
  let ds := Numeral.digits x.digits
  let position : Int := ds.length + x.exponent
  if l.isPositional position then
    if 0 ≤ x.exponent then ds ++ zeros x.exponent.toNat ++ ['.', '0']
    else if 0 < position then ds.take position.toNat ++ '.' :: ds.drop position.toNat
    else '0' :: '.' :: zeros position.natAbs ++ ds
  else
    let mantissa := match ds with
      | d :: e :: rest => d :: '.' :: e :: rest
      | ds => ds
    mantissa ++ 'e' :: (Numeral.ofInt (position - 1)).toList

/-- The text of a floating-point value. -/
def write (l : Layout) : Binary64 → String
  | .nan => l.nan
  | .infinity negative => (if negative then "-" else "") ++ l.infinity
  | .finite negative m e =>
    let body := if m = 0 then ['0', '.', '0'] else l.writeDecimal (Decimal.shortest m e)
    String.ofList (if negative then '-' :: body else body)

end Layout
end SchemaMigration
