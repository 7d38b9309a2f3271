import SchemaMigration.Yaml.Gap

/-!
# Plain scalars

A scalar without quotes runs over words and gaps up to a comment, a document marker, the indicator
of a value, or a line that is indented no more than its block.
-/

namespace SchemaMigration.Yaml.PlainText

/-- The characters that end a plain scalar inside brackets or braces. -/
def flowEnds : List Char := [',', '[', ']', '\x7b', '\x7d']

/-- The word at the front of a text.  Inside brackets or braces a colon right before an indicator
is a fault. -/
def word? (inFlow : Bool) : List Char → Option (List Char)
  | [] => some []
  | x :: rest =>
    if isGap x then some []
    else if inFlow && x == ':' && startsWithAny rest ('?' :: flowEnds) then none
    else if (x == ':' && atGap rest) || (inFlow && flowEnds.contains x) then some []
    else (word? inFlow rest).map (x :: ·)

/-- A plain scalar that has been read: its text, where it ends, and whether line ends stand between
it and that place. -/
structure Reading where
  text : List Char
  next : Cursor
  onNewLine : Bool

/-- A reading with more text in front of it. -/
def Reading.after (text : List Char) (r : Reading) : Reading := { r with text := text ++ r.text }

/-- Continues a plain scalar after the gap `g`; lines of a block have to start at column `indent` at
least. -/
def readFrom? (inFlow : Bool) (indent : Nat) : (fuel : Nat) → Gap → Cursor → Option Reading
  | 0, g, c => some ⟨[], c, g.folded⟩
  | fuel + 1, g, c =>
    if c.atDocumentMarker || c.rest.head? == some '#' then some ⟨[], c, g.folded⟩
    else do
      let word ← word? inFlow c.rest
      let (text, g) := if word.isEmpty then ([], g) else (g.text ++ word, {})
      let c := c.advance word.length
      if c.rest.isEmpty || !atGap c.rest then pure ⟨text, c, g.folded⟩
      else
        let (g, c) ← g.read? indent (fuel + 1) c
        if !inFlow && decide (c.column < indent) then pure ⟨text, c, g.folded⟩
        else (readFrom? inFlow indent fuel g c).map (Reading.after text)

/-- Reads a plain scalar. -/
def read? (inFlow : Bool) (indent : Nat) (c : Cursor) : Option Reading :=
  readFrom? inFlow indent (c.rest.length + 1) {} c

end SchemaMigration.Yaml.PlainText
