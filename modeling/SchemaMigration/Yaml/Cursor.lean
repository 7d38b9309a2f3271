/-!
# Positions in a YAML text

The classes of characters that YAML tells apart, and `Cursor`, a position in a text with the
characters that follow it.  A cursor counts bytes, lines and columns, since the reach of a mapping
key is measured in bytes and indentation in columns.
-/

namespace SchemaMigration.Yaml

/-! ### Classes of characters -/

/-- A character that may stand in a YAML text. -/
def isAllowed (c : Char) : Bool :=
  let n := c.toNat
  n == 0x09 || n == 0x0A || n == 0x0D || (0x20 ≤ n && n ≤ 0x7E) || n == 0x85 ||
    (0xA0 ≤ n && n ≤ 0xD7FF) || (0xE000 ≤ n && n ≤ 0xFFFD) || 0x10000 ≤ n

/-- A character that ends a line. -/
def isBreak (c : Char) : Bool :=
  c == '\n' || c == '\r' || c == '\u0085' || c == '\u2028' || c == '\u2029'

/-- A space or a tab. -/
def isSpace (c : Char) : Bool := c == ' ' || c == '\t'

/-- A character between words: a space, a tab or a line end. -/
def isGap (c : Char) : Bool := isSpace c || isBreak c

/-- A character of the names of anchors, directives and tag handles. -/
def isWord (c : Char) : Bool := c.isAlphanum || c == '_' || c == '-'

/-- Whether a text is empty or starts with a gap. -/
def atGap (s : List Char) : Bool := s.head?.all isGap

/-- Whether a text is empty or starts with a line end. -/
def atLineEnd (s : List Char) : Bool := s.head?.all isBreak

/-- Whether a text starts with a character of the list. -/
def startsWithAny (s chars : List Char) : Bool := s.head?.any fun c => chars.contains c

/-! ### Cursors -/

/-- A position in a text. -/
structure Cursor where
  /-- the characters from the position on -/
  rest : List Char
  /-- the number of bytes before the position -/
  index : Nat := 0
  line : Nat := 0
  column : Nat := 0
  deriving Repr

namespace Cursor

/-- The number of bytes of a list of characters. -/
def byteCount (s : List Char) : Nat := s.foldl (fun n c => n + c.utf8Size) 0

/-- The position `n` characters further on the same line. -/
def advance (c : Cursor) (n : Nat) : Cursor :=
  { c with
    rest := c.rest.drop n
    index := c.index + byteCount (c.rest.take n)
    column := c.column + n }

/-- The position after the characters on this line that satisfy `p`. -/
def skipWhile (p : Char → Bool) (c : Cursor) : Cursor :=
  c.advance (c.rest.takeWhile p).length

/-- The start of the next line, `n` characters ahead. -/
def newLine (c : Cursor) (n : Nat) : Cursor :=
  { rest := c.rest.drop n
    index := c.index + byteCount (c.rest.take n)
    line := c.line + 1
    column := 0 }

/-- Reads one line end, if the cursor stands at one.  Its text is a line feed, except that the two
Unicode separators stand for themselves. -/
def readBreak (c : Cursor) : List Char × Cursor :=
  match c.rest with
  | '\r' :: '\n' :: _ => (['\n'], c.newLine 2)
  | x :: _ =>
    if x == '\u2028' || x == '\u2029' then ([x], c.newLine 1)
    else if isBreak x then (['\n'], c.newLine 1)
    else ([], c)
  | [] => ([], c)

/-- The position after the rest of the line up to its end, not counting the line end. -/
def skipToLineEnd (c : Cursor) : Cursor := c.skipWhile fun x => !isBreak x

/-- The position after a comment, if the cursor stands at one. -/
def skipComment (c : Cursor) : Cursor :=
  if c.rest.head? == some '#' then c.skipToLineEnd else c

/-- Skips spaces and a comment and then a line end; anything else on the line is a fault. -/
def skipLine? (c : Cursor) : Option Cursor :=
  let c := (c.skipWhile isSpace).skipComment
  if atLineEnd c.rest then some c.readBreak.2 else none

/-- Whether three equal characters of a document marker stand alone at the start of a line. -/
def atMarker (mark : Char) (c : Cursor) : Bool :=
  c.column == 0 && (List.replicate 3 mark).isPrefixOf c.rest && atGap (c.rest.drop 3)

/-- Whether a document marker stands at the cursor. -/
def atDocumentMarker (c : Cursor) : Bool := c.atMarker '-' || c.atMarker '.'

end Cursor
end SchemaMigration.Yaml
