import SchemaMigration.Text.Numeral
import SchemaMigration.Yaml.QuotedText
import SchemaMigration.Yaml.Token

/-!
# Node properties and directives

Anchors, aliases and tags, which stand before a node, and the directives before a document.
-/

namespace SchemaMigration.Yaml.Property

/-! ### Names -/

/-- Reads the word characters at a cursor. -/
def word (c : Cursor) : List Char × Cursor :=
  let name := c.rest.takeWhile isWord
  (name, c.advance name.length)

/-- The characters that may follow the name of an anchor besides a gap. -/
def nameEnds : List Char := ['?', ':', ',', ']', '\x7d', '%', '@', '\x60']

/-- Reads the name of an anchor or alias after its indicator. -/
def name? (c : Cursor) : Option (String × Cursor) :=
  let (name, next) := word (c.advance 1)
  if !name.isEmpty && (atGap next.rest || startsWithAny next.rest nameEnds) then
    some (String.ofList name, next)
  else none

/-! ### Tags -/

/-- A character of a tag; `verbatim` allows those that would end a tag inside brackets. -/
def isTagCharacter (verbatim : Bool) (c : Char) : Bool :=
  isWord c ||
    [';', '/', '?', ':', '@', '&', '=', '+', '$', '.', '%', '!', '~', '*', '\'', '(', ')'].contains
      c ||
    (verbatim && [',', '[', ']'].contains c)

/-- Reads one byte that is written as a percent sign and two digits. -/
def escapedByte? : List Char → Option Nat
  | '%' :: a :: b :: _ => QuotedText.hexNumber? 2 0 [a, b]
  | _ => none

/-- The number of bytes of a character, by its first byte. -/
def encodedLength? (b : Nat) : Option Nat :=
  if b < 0x80 then some 1
  else if 0xC0 ≤ b ∧ b < 0xE0 then some 2
  else if 0xE0 ≤ b ∧ b < 0xF0 then some 3
  else if 0xF0 ≤ b ∧ b < 0xF8 then some 4
  else none

/-- Reads `n` further bytes of an escaped character after those in `bytes`. -/
def trailingBytes? : (n : Nat) → (bytes : Tag) → List Char → Option Tag
  | 0, bytes, _ => some bytes
  | n + 1, bytes, s => do
    let b ← escapedByte? s
    if b / 64 = 2 then trailingBytes? n (bytes ++ [UInt8.ofNat b]) (s.drop 3) else none

/-- Reads the bytes of an escaped character. -/
def escaped? (s : List Char) : Option Tag := do
  let first ← escapedByte? s
  let n ← encodedLength? first
  trailingBytes? (n - 1) [UInt8.ofNat first] (s.drop 3)

/-- Reads the characters of a tag after those in `bytes`. -/
def tagBytes? (verbatim : Bool) : (fuel : Nat) → (bytes : Tag) → Cursor → Option (Tag × Cursor)
  | 0, bytes, c => some (bytes, c)
  | fuel + 1, bytes, c =>
    match c.rest with
    | [] => some (bytes, c)
    | x :: _ =>
      if x == '%' then
        (escaped? c.rest).bind fun more =>
          tagBytes? verbatim fuel (bytes ++ more) (c.advance (3 * more.length))
      else if isTagCharacter verbatim x then
        tagBytes? verbatim fuel (bytes ++ String.utf8EncodeChar x) (c.advance 1)
      else some (bytes, c)

/-- Reads the rest of a tag after `bytes`; it must not be empty, unless `mayBeEmpty` is set.  A tag
ends before the first zero byte in it. -/
def suffix? (verbatim mayBeEmpty : Bool) (bytes : Tag) (c : Cursor) : Option (Tag × Cursor) := do
  let (bytes, next) ← tagBytes? verbatim (c.rest.length + 1) bytes c
  if bytes.isEmpty && !mayBeEmpty then none else pure (bytes.takeWhile (· != 0), next)

/-- Reads the handle of a tag: an exclamation mark, word characters, and a second exclamation mark,
which may be missing. -/
def handle? (c : Cursor) : Option (List Char × Cursor) :=
  match c.rest with
  | '!' :: _ =>
    let (name, next) := word (c.advance 1)
    if next.rest.head? == some '!' then some ('!' :: name ++ ['!'], next.advance 1)
    else some ('!' :: name, next)
  | _ => none

/-- Reads a tag without looking at what follows it. -/
def unendedTag? (c : Cursor) : Option (Token × Cursor) :=
  if c.rest.tail.head? == some '<' then do
    let (suffix, next) ← suffix? true false [] (c.advance 2)
    if next.rest.head? == some '>' then pure (.tag "" suffix, next.advance 1) else none
  else do
    let (handle, next) ← handle? c
    if 2 ≤ handle.length ∧ handle.getLast? = some '!' then
      let (suffix, next) ← suffix? false false [] next
      pure (.tag (String.ofList handle) suffix, next)
    else
      let (suffix, next) ← suffix? false true (Tag.ofText (String.ofList handle.tail)) next
      if suffix.isEmpty then pure (.tag "" (Tag.ofText "!"), next) else pure (.tag "!" suffix, next)

/-- Reads a tag, which ends at a gap, or at a comma inside brackets or braces. -/
def tag? (inFlow : Bool) (c : Cursor) : Option (Token × Cursor) := do
  let (token, next) ← unendedTag? c
  if atGap next.rest || (inFlow && next.rest.head? == some ',') then pure (token, next) else none

/-! ### Directives -/

/-- Reads a number of at most nine digits. -/
def number? (c : Cursor) : Option (Nat × Cursor) :=
  let digits := c.rest.takeWhile Numeral.isDigit
  if digits.length ≤ 9 then (Numeral.read? digits).map fun n => (n, c.advance digits.length)
  else none

/-- Reads the version that a directive declares. -/
def version? (c : Cursor) : Option (Token × Cursor) := do
  let (major, c) ← number? (c.skipWhile isSpace)
  if c.rest.head? == some '.' then
    let (minor, c) ← number? (c.advance 1)
    pure (.versionDirective major minor, c)
  else none

/-- Reads the tag handle that a directive declares, and what it stands for. -/
def tagHandle? (c : Cursor) : Option (Token × Cursor) := do
  let (handle, c) ← handle? (c.skipWhile isSpace)
  if handle ≠ ['!'] ∧ handle.getLast? ≠ some '!' then none
  else if !c.rest.head?.any isSpace then none
  else
    let (expansion, c) ← suffix? true false [] (c.skipWhile isSpace)
    if atGap c.rest then pure (.tagDirective (String.ofList handle) expansion, c) else none

/-- Reads a directive at its percent sign, up to the end of its line. -/
def directive? (c : Cursor) : Option (Token × Cursor) := do
  let (name, c) := word (c.advance 1)
  if !atGap c.rest then none
  else
    let (token, c) ←
      if name == ['Y', 'A', 'M', 'L'] then version? c
      else if name == ['T', 'A', 'G'] then tagHandle? c
      else none
    let c ← c.skipLine?
    pure (token, c)

end SchemaMigration.Yaml.Property
