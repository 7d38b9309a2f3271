import SchemaMigration.Text.Numeral
import SchemaMigration.Yaml.Cursor

/-!
# Block scalars

A literal or folded scalar: a header line, then the lines that are indented at least as much as its
first line.  The header says what becomes of the line ends at its end and may fix the indentation.
-/

namespace SchemaMigration.Yaml.BlockText

/-! ### The header -/

/-- What becomes of the line ends at the end of a block scalar. -/
inductive Chomping where
  | strip
  | clip
  | keep
  deriving DecidableEq, Repr

/-- The header of a block scalar. -/
structure Header where
  chomping : Chomping := .clip
  /-- the indentation relative to the surrounding block, if it is fixed -/
  indent : Option Nat := none

/-- Reads the sign of a header. -/
def chomping? (c : Cursor) : Option (Chomping × Cursor) :=
  match c.rest with
  | '+' :: _ => some (.keep, c.advance 1)
  | '-' :: _ => some (.strip, c.advance 1)
  | _ => none

/-- Reads the digit of a header, if there is one; a zero is a fault. -/
def indent? (c : Cursor) : Option (Option Nat × Cursor) :=
  match c.rest.head?.bind Numeral.digitValue? with
  | some 0 => none
  | some d => some (some d, c.advance 1)
  | none => some (none, c)

/-- Reads a header: a sign and a digit in either order, both of which may be missing. -/
def header? (c : Cursor) : Option (Header × Cursor) :=
  match chomping? c with
  | some (chomping, c) => (indent? c).map fun (indent, c) => (⟨chomping, indent⟩, c)
  | none => (indent? c).map fun (indent, next) =>
    match indent, chomping? next with
    | some _, some (chomping, next) => (⟨chomping, indent⟩, next)
    | _, _ => (⟨.clip, indent⟩, next)

/-! ### Lines -/

/-- The indentation and the empty lines before a line. -/
structure Margin where
  breaks : List Char
  /-- the largest indentation met -/
  deepest : Nat
  next : Cursor

/-- Skips indentation and empty lines; `indent` is the indentation of the scalar, if it is known by
now.  A tab in the indentation is a fault. -/
def margin? (indent : Option Nat) :
    (fuel : Nat) → (breaks : List Char) → (deepest : Nat) → Cursor → Option Margin
  | 0, breaks, deepest, c => some ⟨breaks, deepest, c⟩
  | fuel + 1, breaks, deepest, c =>
    let spaces := (c.rest.takeWhile (· == ' ')).length
    let c := c.advance (match indent with | some n => min spaces (n - c.column) | none => spaces)
    let deepest := max deepest c.column
    if c.rest.head? == some '\t' && indent.all (fun n => decide (c.column < n)) then none
    else if c.rest.head?.any isBreak then
      let (text, next) := c.readBreak
      margin? indent fuel (breaks ++ text) deepest next
    else some ⟨breaks, deepest, c⟩

/-- How the lines of a block scalar so far have ended. -/
structure Ending where
  /-- the line end after the last line -/
  lineEnd : List Char := []
  /-- the empty lines after it -/
  breaks : List Char := []
  /-- whether the last line starts with a space or a tab -/
  indented : Bool := false

/-- What stands between the lines so far and one more line.  In a folded scalar the line end between
two lines that are not indented further is a space. -/
def Ending.join (folding : Bool) (e : Ending) (line : List Char) : List Char :=
  let indented := line.head?.any isSpace
  let glue :=
    if folding && e.lineEnd == ['\n'] && !e.indented && !indented then
      (if e.breaks.isEmpty then [' '] else [])
    else e.lineEnd
  glue ++ e.breaks

/-- The line ends at the end of the scalar that the header keeps. -/
def Ending.kept (e : Ending) : Chomping → List Char
  | .strip => []
  | .clip => e.lineEnd
  | .keep => e.lineEnd ++ e.breaks

/-- Reads the lines that start at column `indent`, and tells how they end. -/
def lines? (folding : Bool) (indent : Nat) :
    (fuel : Nat) → Ending → Cursor → Option (List Char × Ending × Cursor)
  | 0, e, c => some ([], e, c)
  | fuel + 1, e, c =>
    if c.column != indent || c.rest.isEmpty then some ([], e, c)
    else do
      let line := c.rest.takeWhile fun x => !isBreak x
      let (lineEnd, next) := (c.advance line.length).readBreak
      let margin ← margin? (some indent) (fuel + 1) [] 0 next
      let ending : Ending :=
        { lineEnd, breaks := margin.breaks, indented := line.head?.any isSpace }
      let (text, last, c) ← lines? folding indent fuel ending margin.next
      pure (e.join folding line ++ line ++ text, last, c)

/-- Reads a block scalar at its indicator; `margin` is the least indentation it may have when the
header fixes none, and fixed indentation counts from the surrounding block at `base`. -/
def read? (folding : Bool) (base margin : Nat) (c : Cursor) : Option (List Char × Cursor) := do
  let (header, c) ← header? (c.advance 1)
  let c ← c.skipLine?
  let fixed := header.indent.map (base + ·)
  let start ← margin? fixed (c.rest.length + 1) [] 0 c
  let indent := fixed.getD (max start.deepest (max margin 1))
  let (text, ending, c) ←
    lines? folding indent (start.next.rest.length + 1) { breaks := start.breaks } start.next
  pure (text ++ ending.kept header.chomping, c)

end SchemaMigration.Yaml.BlockText
