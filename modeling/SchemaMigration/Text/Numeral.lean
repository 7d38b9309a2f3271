/-!
# Decimal numerals

Writing natural numbers and integers in decimal, with and without leading zeros, and reading the
digits back.
-/

namespace SchemaMigration.Numeral

/-! ### Digits -/

/-- The character of a digit below ten. -/
def digitChar (d : Nat) : Char :=
  Char.ofNat (48 + d % 10)

/-- The value of a decimal digit. -/
def digitValue? (c : Char) : Option Nat :=
  if '0' ≤ c ∧ c ≤ '9' then some (c.toNat - 48) else none

/-- Whether the character is one of the ten ASCII digits. -/
def isDigit (c : Char) : Bool :=
  decide ('0' ≤ c ∧ c ≤ '9')

/-! ### Writing -/

/-- The decimal digits of `n`, put in front of `rest`; `fuel` bounds their number. -/
def writeDigits : (fuel n : Nat) → (rest : List Char) → List Char
  | 0, _, rest => rest
  | fuel + 1, n, rest =>
    if n < 10 then digitChar n :: rest
    else writeDigits fuel (n / 10) (digitChar n :: rest)

/-- The decimal digits of `n`, without leading zeros. -/
def digits (n : Nat) : List Char :=
  writeDigits (n + 1) n []

/-- A natural number in decimal. -/
def ofNat (n : Nat) : String :=
  String.ofList (digits n)

/-- An integer in decimal, with a minus sign when it is negative. -/
def ofInt (n : Int) : String :=
  if n < 0 then "-" ++ ofNat n.natAbs else ofNat n.natAbs

/-- The last `width` decimal digits of `n`, with leading zeros. -/
def lastDigits : (width n : Nat) → List Char
  | 0, _ => []
  | width + 1, n => lastDigits width (n / 10) ++ [digitChar n]

/-- `n` in decimal with at least `width` digits. -/
def padded (width n : Nat) : String :=
  String.ofList (if n < Nat.pow 10 width then lastDigits width n else digits n)

/-! ### Reading -/

/-- Continues a number `n` with the digits that follow; anything else than digits is refused. -/
def readFrom (n : Nat) : List Char → Option Nat
  | [] => some n
  | c :: cs => (digitValue? c).bind fun d => readFrom (10 * n + d) cs

/-- The value of a non-empty list of decimal digits. -/
def read? (s : List Char) : Option Nat :=
  if s.isEmpty then none else readFrom 0 s

/-- The value of decimal digits after an optional sign. -/
def readSigned? : List Char → Option Int
  | '-' :: cs => (read? cs).map fun n => -(n : Int)
  | '+' :: cs => (read? cs).map fun n => (n : Int)
  | cs => (read? cs).map fun n => (n : Int)

end SchemaMigration.Numeral
