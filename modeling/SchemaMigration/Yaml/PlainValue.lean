import SchemaMigration.Fault
import SchemaMigration.Yaml.QuotedText
import SchemaMigration.Yaml.Token

/-!
# Values of plain scalars

A plain scalar is a null, a boolean, a number or else a string, by its spelling.  Integers may have
a sign and a base; a decimal with a leading zero is a string, and so is a number that is too large
for the floating-point format.
-/

namespace SchemaMigration.Yaml.PlainValue

/-! ### Words -/

/-- Whether a text spells the null value. -/
def isNullWord (s : String) : Bool := ["~", "null", "Null", "NULL"].contains s

/-- The boolean that a text spells. -/
def bool? (s : String) : Option Bool :=
  if ["true", "True", "TRUE"].contains s then some true
  else if ["false", "False", "FALSE"].contains s then some false
  else none

/-! ### Integers -/

/-- The base that two characters after the sign declare. -/
def base? (c : Char) : Option Nat :=
  if c == 'x' then some 16 else if c == 'o' then some 8 else if c == 'b' then some 2 else none

/-- The value of digits in a base, after those that gave `value`. -/
def readFrom? (base value : Nat) : List Char → Option Nat
  | [] => some value
  | c :: rest =>
    (QuotedText.hexValue? c).bind fun d =>
      if d < base then readFrom? base (base * value + d) rest else none

/-- The value of a non-empty list of digits in a base. -/
def digits? (base : Nat) (s : List Char) : Option Nat :=
  if s.isEmpty then none else readFrom? base 0 s

/-- Whether the text is a decimal with a leading zero and further digits. -/
def hasLeadingZero : List Char → Bool
  | '0' :: c :: rest => (c :: rest).all Numeral.isDigit
  | _ => false

/-- The value of an unsigned integer in any base. -/
def natural? (s : List Char) : Option Nat :=
  match s with
  | '0' :: c :: rest =>
    match base? c with
    | some base => digits? base rest
    | none => if hasLeadingZero s then none else digits? 10 s
  | _ => digits? 10 s

/-- The value of an integer with an optional sign. -/
def integer? : List Char → Option Int
  | '-' :: s => (natural? s).map fun n => -(n : Int)
  | '+' :: s => (natural? s).map fun n => (n : Int)
  | s => (natural? s).map fun n => (n : Int)

/-- What an integer is found to be, by its size; beyond 128 bits it is no integer. -/
def sized? (n : Int) : Option Found :=
  if -0x8000000000000000 ≤ n ∧ n < 0x10000000000000000 then some (.int n)
  else if -0x80000000000000000000000000000000 ≤ n ∧ n < 0x100000000000000000000000000000000 then
    some (.wideInt n)
  else none

/-! ### Floating-point numbers -/

/-- The floating-point number that a text spells. -/
def float? (s : String) : Option Binary64 :=
  if [".inf", ".Inf", ".INF", "+.inf", "+.Inf", "+.INF"].contains s then some (.infinity false)
  else if ["-.inf", "-.Inf", "-.INF"].contains s then some (.infinity true)
  else if [".nan", ".NaN", ".NAN"].contains s then some .nan
  else (Binary64.read? s.toList).filter Binary64.isFinite

/-- Whether the text is a decimal with a leading zero after an optional sign. -/
def isPadded : List Char → Bool
  | '-' :: s => hasLeadingZero s
  | '+' :: s => hasLeadingZero s
  | s => hasLeadingZero s

/-! ### All spellings -/

/-- The value that a plain scalar spells. -/
def read (s : String) : Found :=
  if s.isEmpty || isNullWord s then .unit
  else match bool? s with
    | some b => .bool b
    | none =>
      match (integer? s.toList).bind sized? with
      | some n => n
      | none =>
        match if isPadded s.toList then none else float? s with
        | some x => .float x
        | none => .string s

/-! ### Standard tags -/

/-- The value that a scalar under a standard tag spells, or what it should have spelled.  Under any
other tag it is a string. -/
def readTagged (tag : Tag) (s : String) : Except String Found :=
  let orWanted (value : Option Found) (wanted : String) : Except String Found :=
    match value with
    | some found => .ok found
    | none => .error wanted
  if tag == Tag.ofText "tag:yaml.org,2002:bool" then orWanted ((bool? s).map .bool) "a boolean"
  else if tag == Tag.ofText "tag:yaml.org,2002:int" then
    orWanted ((integer? s.toList).bind sized?) "an integer"
  else if tag == Tag.ofText "tag:yaml.org,2002:float" then
    orWanted ((float? s).map .float) "a float"
  else if tag == Tag.ofText "tag:yaml.org,2002:null" then
    orWanted (if isNullWord s then some .unit else none) "null"
  else .ok (.string s)

end SchemaMigration.Yaml.PlainValue
