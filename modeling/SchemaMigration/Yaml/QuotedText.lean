import SchemaMigration.Yaml.Gap

/-!
# Quoted scalars

Between single quotes only the quote itself is escaped, by writing it twice; between double quotes
a backslash starts an escape.  Line ends are folded in both.
-/

namespace SchemaMigration.Yaml.QuotedText

/-! ### Escapes -/

/-- The characters that a backslash and one letter stand for. -/
def shortEscapes : List (Char × Char) :=
  [('0', '\x00'), ('a', '\x07'), ('b', '\x08'), ('t', '\t'), ('\t', '\t'), ('n', '\n'),
    ('v', '\x0b'), ('f', '\x0c'), ('r', '\r'), ('e', '\x1b'), (' ', ' '), ('"', '"'), ('/', '/'),
    ('\\', '\\'), ('N', '\u0085'), ('_', '\u00a0'), ('L', '\u2028'), ('P', '\u2029')]

/-- The number of digits after the letter of an escape by number. -/
def codeLength? (letter : Char) : Option Nat :=
  if letter == 'x' then some 2
  else if letter == 'u' then some 4
  else if letter == 'U' then some 8
  else none

/-- The value of a digit in base sixteen. -/
def hexValue? (c : Char) : Option Nat :=
  if '0' ≤ c ∧ c ≤ '9' then some (c.toNat - 48)
  else if 'a' ≤ c ∧ c ≤ 'f' then some (c.toNat - 87)
  else if 'A' ≤ c ∧ c ≤ 'F' then some (c.toNat - 55)
  else none

/-- The value of the first `n` characters as digits in base sixteen, after those that gave
`value`. -/
def hexNumber? : (n value : Nat) → List Char → Option Nat
  | 0, value, _ => some value
  | _ + 1, _, [] => none
  | n + 1, value, c :: rest => (hexValue? c).bind fun d => hexNumber? n (16 * value + d) rest

/-- The character with a number; the numbers of surrogates and those beyond Unicode have none. -/
def character? (n : Nat) : Option Char :=
  if n.isValidChar then some (Char.ofNat n) else none

/-- Reads the escape after a backslash: the character it stands for and the number of characters
that it takes. -/
def escape? : List Char → Option (Char × Nat)
  | [] => none
  | letter :: rest =>
    match shortEscapes.lookup letter with
    | some c => some (c, 1)
    | none => do
      let n ← codeLength? letter
      let code ← hexNumber? n 0 rest
      let c ← character? code
      pure (c, n + 1)

/-! ### Words -/

/-- A run of characters without gaps. -/
structure Word where
  text : List Char
  next : Cursor
  /-- whether it ends at an escaped line end -/
  joined : Bool

/-- A word with one more character in front of it. -/
def Word.after (c : Char) (w : Word) : Word := { w with text := c :: w.text }

/-- Reads a word up to a gap, the closing quote or an escaped line end. -/
def word? (quote : Char) : (fuel : Nat) → Cursor → Option Word
  | 0, c => some ⟨[], c, false⟩
  | fuel + 1, c =>
    match c.rest with
    | [] => some ⟨[], c, false⟩
    | x :: rest =>
      if isGap x then some ⟨[], c, false⟩
      else if x == quote then
        if quote == '\'' && rest.head? == some '\'' then
          (word? quote fuel (c.advance 2)).map (Word.after '\'')
        else some ⟨[], c, false⟩
      else if x == '\\' && quote == '"' then
        if !rest.isEmpty && atLineEnd rest then some ⟨[], (c.advance 1).readBreak.2, true⟩
        else (escape? rest).bind fun (y, n) =>
          (word? quote fuel (c.advance (n + 1))).map (Word.after y)
      else (word? quote fuel (c.advance 1)).map (Word.after x)

/-- Reads the rest of a quoted scalar up to its closing quote, and gives the position after that. -/
def readFrom? (quote : Char) : (fuel : Nat) → Cursor → Option (List Char × Cursor)
  | 0, _ => none
  | fuel + 1, c =>
    if c.atDocumentMarker || c.rest.isEmpty then none
    else do
      let word ← word? quote (fuel + 1) c
      if word.next.rest.head? == some quote then pure (word.text, word.next.advance 1)
      else
        let start : Gap := { folded := word.joined }
        let (g, c) ← start.read? 0 (fuel + 1) word.next
        let (text, next) ← readFrom? quote fuel c
        pure (word.text ++ g.text ++ text, next)

/-- Reads a quoted scalar at its opening quote. -/
def read? (quote : Char) (c : Cursor) : Option (List Char × Cursor) :=
  readFrom? quote (c.rest.length + 1) (c.advance 1)

end SchemaMigration.Yaml.QuotedText
