import SchemaMigration.Yaml.Cursor

/-!
# Gaps between words

The words of a plain or quoted scalar are separated by gaps.  Spaces within a line stand for
themselves; a gap with line ends is folded, so that a single line end reads as a space and every
further one as a line end.
-/

namespace SchemaMigration.Yaml

/-- What stands between two words of a scalar. -/
structure Gap where
  /-- the spaces and tabs of a gap within a line -/
  spaces : List Char := []
  /-- whether the gap goes over a line end -/
  folded : Bool := false
  /-- the first line end; empty when it is escaped -/
  first : List Char := []
  /-- the line ends after the first -/
  others : List Char := []
  deriving Repr

namespace Gap

/-- The text that a gap stands for. -/
def text (g : Gap) : List Char :=
  if !g.folded then g.spaces
  else if g.first == ['\n'] then (if g.others.isEmpty then [' '] else g.others)
  else g.first ++ g.others

/-- A gap with one more line end. -/
def addBreak (g : Gap) (text : List Char) : Gap :=
  if g.folded then { g with others := g.others ++ text }
  else { spaces := [], folded := true, first := text, others := [] }

/-- A gap with one more space or tab, which counts only within a line. -/
def addSpace (g : Gap) (c : Char) : Gap :=
  if g.folded then g else { g with spaces := g.spaces ++ [c] }

/-- Continues a gap up to the next word.  A tab among the first `indent` columns of a line is a
fault. -/
def read? (indent : Nat) : (fuel : Nat) → Gap → Cursor → Option (Gap × Cursor)
  | 0, g, c => some (g, c)
  | fuel + 1, g, c =>
    match c.rest with
    | [] => some (g, c)
    | x :: _ =>
      if isSpace x then
        if g.folded && decide (c.column < indent) && x == '\t' then none
        else read? indent fuel (g.addSpace x) (c.advance 1)
      else if isBreak x then
        let (text, next) := c.readBreak
        read? indent fuel (g.addBreak text) next
      else some (g, c)

end Gap
end SchemaMigration.Yaml
