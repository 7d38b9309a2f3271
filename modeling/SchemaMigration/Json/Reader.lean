import SchemaMigration.Json

/-!
# Reading JSON

`Json.ofText?` reads a JSON text.  Integers of up to 64 bits are kept exact, larger ones become
floating-point numbers, and so does a negative zero; a number beyond the format is a fault.  Of two
members of an object with one name the later counts.
-/

namespace SchemaMigration.Json

/-! ### Blanks and words -/

/-- A character between the parts of a JSON text. -/
def isBlank (c : Char) : Bool := c == ' ' || c == '\n' || c == '\t' || c == '\r'

/-- A text without its leading blanks. -/
def skipBlanks (s : List Char) : List Char := s.dropWhile isBlank

/-- The text after a fixed word. -/
def afterWord? (word : String) (s : List Char) : Option (List Char) :=
  if word.toList.isPrefixOf s then some (s.drop word.length) else none

/-! ### Strings -/

/-- The value of a digit in base sixteen. -/
def hexValue? (c : Char) : Option Nat :=
  if '0' ≤ c ∧ c ≤ '9' then some (c.toNat - 48)
  else if 'a' ≤ c ∧ c ≤ 'f' then some (c.toNat - 87)
  else if 'A' ≤ c ∧ c ≤ 'F' then some (c.toNat - 55)
  else none

/-- The value of four digits in base sixteen at the front of a text. -/
def hexUnit? : List Char → Option (Nat × List Char)
  | a :: b :: c :: d :: rest => do
    let a ← hexValue? a
    let b ← hexValue? b
    let c ← hexValue? c
    let d ← hexValue? d
    pure (((a * 16 + b) * 16 + c) * 16 + d, rest)
  | _ => none

/-- Reads a character by number, as one unit or as a pair of surrogates. -/
def numbered? (s : List Char) : Option (Char × List Char) := do
  let (n, rest) ← hexUnit? s
  if n < 0xD800 ∨ 0xE000 ≤ n then pure (Char.ofNat n, rest)
  else if n < 0xDC00 then
    match rest with
    | '\\' :: 'u' :: rest => do
      let (m, rest) ← hexUnit? rest
      if 0xDC00 ≤ m ∧ m < 0xE000 then
        pure (Char.ofNat (0x10000 + (n - 0xD800) * 0x400 + (m - 0xDC00)), rest)
      else none
    | _ => none
  else none

/-- The characters that a backslash and one letter stand for. -/
def shortEscapes : List (Char × Char) :=
  [('"', '"'), ('\\', '\\'), ('/', '/'), ('b', '\x08'), ('f', '\x0c'), ('n', '\n'), ('r', '\r'),
    ('t', '\t')]

/-- Reads the inside of a string up to its closing quote. -/
def readString? : (fuel : Nat) → (text : List Char) → List Char → Option (String × List Char)
  | 0, _, _ => none
  | _ + 1, _, [] => none
  | fuel + 1, text, c :: rest =>
    if c == '"' then some (String.ofList text.reverse, rest)
    else if c == '\\' then
      match rest with
      | 'u' :: rest => do
        let (c, rest) ← numbered? rest
        readString? fuel (c :: text) rest
      | letter :: rest => do
        let c ← shortEscapes.lookup letter
        readString? fuel (c :: text) rest
      | [] => none
    else if c.toNat < 32 then none
    else readString? fuel (c :: text) rest

/-! ### Numbers -/

/-- Adds decimal digits to a number as long as it has at most 64 bits.  The second part holds the
digits that are left. -/
def addDigits (m : Nat) : List Char → Nat × List Char
  | [] => (m, [])
  | c :: rest =>
    let n := 10 * m + (Numeral.digitValue? c).getD 0
    if n < 0x10000000000000000 then addDigits n rest else (m, c :: rest)

/-- The number of a decimal of at most 64 bits without point and exponent. -/
def integer (negative : Bool) (m : Nat) : Number :=
  if !negative then .int m
  else if m = 0 ∨ 0x8000000000000000 < m then .float (Binary64.ofDecimal true m 0)
  else .int (-m)

/-- Reads the exponent of a number, which is zero when it is missing. -/
def readExponent? : List Char → Option (Int × List Char)
  | c :: rest =>
    if c == 'e' || c == 'E' then
      let (negative, rest) := match rest with
        | '-' :: rest => (true, rest)
        | '+' :: rest => (false, rest)
        | rest => (false, rest)
      let (digits, rest) := Binary64.spanDigits rest
      (Numeral.read? digits).map fun n => (if negative then -(n : Int) else n, rest)
    else some (0, c :: rest)
  | [] => some (0, [])

/-- Reads an unsigned number. -/
def readNumber? (negative : Bool) (s : List Char) : Option (Number × List Char) := do
  let (whole, rest) := Binary64.spanDigits s
  if whole.isEmpty ∨ (1 < whole.length ∧ whole.head? = some '0') then none
  else
    let (places, rest, plain) ← match rest with
      | '.' :: after =>
        let (places, rest) := Binary64.spanDigits after
        if places.isEmpty then none else some (places, rest, false)
      | c :: _ => some ([], rest, c != 'e' && c != 'E')
      | [] => some ([], [], true)
    let (e, rest) ← readExponent? rest
    let (m, left) := addDigits 0 whole
    let (n, ignored) := addDigits m places
    let number :=
      if plain && left.isEmpty then integer negative m
      else
        let e := e + left.length + ignored.length - places.length
        .float (Binary64.ofDecimalInSteps negative n e)
    match number with
    | .float (.infinity _) => none
    | number => pure (number, rest)

/-! ### Values -/

/-- Adds a member to an object.  A member of the same name keeps its place and takes the value. -/
def addMember (name : String) (v : Json) (members : List (String × Json)) : List (String × Json) :=
  if members.any fun m => m.1 == name then
    members.map fun m => if m.1 == name then (name, v) else m
  else (name, v) :: members

/-- Reads the items of an array up to its end. -/
def readItems? (item : List Char → Option (Json × List Char)) :
    (fuel : Nat) → (items : List Json) → List Char → Option (Json × List Char)
  | 0, _, _ => none
  | fuel + 1, items, s => do
    let (v, rest) ← item s
    match skipBlanks rest with
    | ']' :: rest => pure (.array (v :: items).reverse, rest)
    | ',' :: rest => readItems? item fuel (v :: items) rest
    | _ => none

/-- Reads the members of an object up to its end. -/
def readMembers? (value : List Char → Option (Json × List Char)) :
    (fuel : Nat) → (members : List (String × Json)) → List Char → Option (Json × List Char)
  | 0, _, _ => none
  | fuel + 1, members, s =>
    match skipBlanks s with
    | '"' :: rest => do
      let (name, rest) ← readString? (rest.length + 1) [] rest
      match skipBlanks rest with
      | ':' :: rest => do
        let (v, rest) ← value rest
        match skipBlanks rest with
        | '\x7d' :: rest => pure (.object (addMember name v members).reverse, rest)
        | ',' :: rest => readMembers? value fuel (addMember name v members) rest
        | _ => none
      | _ => none
    | _ => none

/-- Reads a value in which `depth` collections may be nested. -/
def readValue? (depth : Nat) (s : List Char) : Option (Json × List Char) :=
  match skipBlanks s with
  | '"' :: rest => (readString? (rest.length + 1) [] rest).map fun (t, rest) => (.string t, rest)
  | '[' :: rest =>
    match depth with
    | 0 => none
    | depth + 1 =>
      match skipBlanks rest with
      | ']' :: rest => some (.array [], rest)
      | _ => readItems? (readValue? depth) (rest.length + 1) [] rest
  | '\x7b' :: rest =>
    match depth with
    | 0 => none
    | depth + 1 =>
      match skipBlanks rest with
      | '\x7d' :: rest => some (.object [], rest)
      | _ => readMembers? (readValue? depth) (rest.length + 1) [] rest
  | 't' :: rest => (afterWord? "rue" rest).map fun rest => (.bool true, rest)
  | 'f' :: rest => (afterWord? "alse" rest).map fun rest => (.bool false, rest)
  | 'n' :: rest => (afterWord? "ull" rest).map fun rest => (.null, rest)
  | '-' :: rest => (readNumber? true rest).map fun (n, rest) => (.number n, rest)
  | c :: rest => (readNumber? false (c :: rest)).map fun (n, rest) => (.number n, rest)
  | [] => none

/-- The greatest number of collections that may be nested. -/
def greatestDepth : Nat := 127

/-- Reads a JSON text. -/
def ofText? (text : String) : Option Json :=
  match readValue? greatestDepth text.toList with
  | some (v, rest) => if (skipBlanks rest).isEmpty then some v else none
  | none => none

end SchemaMigration.Json
