import SchemaMigration.Yaml.BlockText
import SchemaMigration.Yaml.PlainText
import SchemaMigration.Yaml.Property

/-!
# Cutting a YAML text into tokens

`Token.listOf` reads a text from left to right.  A scalar or collection that may turn out to be a
mapping key is remembered (`Candidate`); when the colon comes, the mark of the key is put in front
of it.  A fault ends the list, and with it go the tokens from the first open candidate on, which
were still undecided: a list that does not end with `Token.streamEnd` is the list of a faulty text.
-/

namespace SchemaMigration.Yaml

/-- A place where a mapping key may have started. -/
structure Candidate where
  /-- the number of tokens before it -/
  number : Nat
  /-- whether only a key may stand there -/
  required : Bool
  index : Nat
  line : Nat
  column : Nat

/-- The state of reading a text. -/
structure Scanner where
  cursor : Cursor
  /-- whether the text goes on with a piece that is not allowed -/
  cut : Bool := false
  /-- the tokens so far, the last one first -/
  tokens : List Token := [.streamStart]
  /-- the columns of the open block collections, the innermost first -/
  indents : List Nat := []
  /-- whether a mapping key may start here -/
  keyAllowed : Bool := true
  /-- the candidate of the block context and of each open bracket or brace, the innermost first -/
  candidates : List (Option Candidate) := [none]

namespace Scanner

/-! ### Small steps -/

/-- Whether the position is inside brackets or braces. -/
def inFlow (s : Scanner) : Bool := decide (1 < s.candidates.length)

/-- One more than the column of the innermost block collection; zero outside all of them. -/
def margin (s : Scanner) : Nat :=
  match s.indents with
  | [] => 0
  | column :: _ => column + 1

/-- Adds a token. -/
def emit (token : Token) (s : Scanner) : Scanner := { s with tokens := token :: s.tokens }

/-- Adds a token and moves on. -/
def emitAt (token : Token) (next : Cursor) (s : Scanner) : Scanner :=
  { s with tokens := token :: s.tokens, cursor := next }

/-- Puts a token after the first `number` tokens. -/
def insert (number : Nat) (token : Token) (s : Scanner) : Scanner :=
  let later := s.tokens.length - number
  { s with tokens := s.tokens.take later ++ token :: s.tokens.drop later }

/-- Opens a block collection at a column, unless one is open there; its token goes after the first
`number` tokens. -/
def openBlock (column number : Nat) (token : Token) (s : Scanner) : Scanner :=
  if !s.inFlow && decide (s.margin ≤ column) then
    { s.insert number token with indents := column :: s.indents }
  else s

/-- Closes the block collections that stand further in than a column; `none` closes all. -/
def closeBlocks (column : Option Nat) (s : Scanner) : Scanner :=
  if s.inFlow then s
  else
    let isInner (indent : Nat) : Bool := column.all fun c => decide (c < indent)
    let closed := (s.indents.takeWhile isInner).length
    { s with
      tokens := List.replicate closed .blockEnd ++ s.tokens
      indents := s.indents.drop closed }

/-- Gives up the candidate of the innermost context; a required one is a fault. -/
def dropCandidate? (s : Scanner) : Option Scanner :=
  match s.candidates with
  | some c :: rest => if c.required then none else some { s with candidates := none :: rest }
  | _ => some s

/-- Remembers the position as a candidate, where a key may start. -/
def saveCandidate? (s : Scanner) : Option Scanner :=
  if s.keyAllowed then do
    let s ← s.dropCandidate?
    let c := s.cursor
    let required := !s.inFlow && s.margin == c.column + 1
    let candidate : Candidate := ⟨s.tokens.length, required, c.index, c.line, c.column⟩
    pure { s with candidates := some candidate :: s.candidates.tail }
  else some s

/-- Whether a candidate is out of reach: on an earlier line, or more than 1024 bytes back. -/
def isStale (c : Cursor) (k : Candidate) : Bool :=
  decide (k.line < c.line) || decide (k.index + 1024 < c.index)

/-- Gives up the candidates that are out of reach; a required one is a fault. -/
def dropStale? (s : Scanner) : Option Scanner :=
  let stale (k : Option Candidate) : Bool := k.any (isStale s.cursor)
  if s.candidates.any fun k => stale k && k.any Candidate.required then none
  else some { s with candidates := s.candidates.map fun k => if stale k then none else k }

/-! ### Gaps between tokens -/

/-- Skips gaps and comments, and byte order marks that start a line.  Tabs count as gaps only where
no mapping key may start; in a block a new line may start one. -/
def skipGaps : (fuel : Nat) → Scanner → Scanner
  | 0, s => s
  | fuel + 1, s =>
    let c := s.cursor
    let c := if c.column == 0 && c.rest.head? == some '\ufeff' then c.advance 1 else c
    let tabs := s.inFlow || !s.keyAllowed
    let c := (c.skipWhile fun x => x == ' ' || (tabs && x == '\t')).skipComment
    if c.rest.head?.any isBreak then
      skipGaps fuel
        { s with cursor := c.readBreak.2, keyAllowed := s.keyAllowed || !s.inFlow }
    else { s with cursor := c }

/-! ### Tokens -/

/-- Ends the text, which ends its last line. -/
def streamEnd? (s : Scanner) : Option Scanner := do
  let s ← (s.closeBlocks none).dropCandidate?
  let c := s.cursor
  pure { s.emit .streamEnd with
    keyAllowed := false, cursor := if c.column == 0 then c else c.newLine 0 }

/-- Starts what only stands outside all collections: a directive or a document marker. -/
def topLevel? (s : Scanner) : Option Scanner := do
  let s ← (s.closeBlocks none).dropCandidate?
  pure { s with keyAllowed := false }

/-- A directive. -/
def directive? (s : Scanner) : Option Scanner := do
  let s ← s.topLevel?
  let (token, next) ← Property.directive? s.cursor
  pure (s.emitAt token next)

/-- The marker before or after a document. -/
def marker? (token : Token) (s : Scanner) : Option Scanner := do
  let s ← s.topLevel?
  pure (s.emitAt token (s.cursor.advance 3))

/-- An opening bracket or brace. -/
def openFlow? (token : Token) (s : Scanner) : Option Scanner := do
  let s ← s.saveCandidate?
  pure { s.emitAt token (s.cursor.advance 1) with
    keyAllowed := true, candidates := none :: s.candidates }

/-- A closing bracket or brace. -/
def closeFlow? (token : Token) (s : Scanner) : Option Scanner := do
  let s ← s.dropCandidate?
  pure { s.emitAt token (s.cursor.advance 1) with
    keyAllowed := false
    candidates := if s.inFlow then s.candidates.tail else s.candidates }

/-- A comma between items. -/
def flowEntry? (s : Scanner) : Option Scanner := do
  let s ← s.dropCandidate?
  pure { s.emitAt .flowEntry (s.cursor.advance 1) with keyAllowed := true }

/-- Opens a block collection here, where that is allowed. -/
def openBlockHere? (token : Token) (s : Scanner) : Option Scanner :=
  if s.inFlow then some s
  else if s.keyAllowed then some (s.openBlock s.cursor.column s.tokens.length token)
  else none

/-- The indicator of an item in a block sequence. -/
def blockEntry? (s : Scanner) : Option Scanner := do
  let s ← s.openBlockHere? .blockSequenceStart
  let s ← s.dropCandidate?
  pure { s.emitAt .blockEntry (s.cursor.advance 1) with keyAllowed := true }

/-- The indicator of a key. -/
def key? (s : Scanner) : Option Scanner := do
  let s ← s.openBlockHere? .blockMappingStart
  let s ← s.dropCandidate?
  pure { s.emitAt .key (s.cursor.advance 1) with keyAllowed := !s.inFlow }

/-- The indicator of a value.  A candidate becomes the key. -/
def value? (s : Scanner) : Option Scanner :=
  match s.candidates with
  | some k :: rest =>
    let s := (s.insert k.number .key).openBlock k.column k.number .blockMappingStart
    some { s.emitAt .value (s.cursor.advance 1) with
      keyAllowed := false, candidates := none :: rest }
  | _ => do
    let s ← s.openBlockHere? .blockMappingStart
    pure { s.emitAt .value (s.cursor.advance 1) with keyAllowed := !s.inFlow }

/-- A token that may start a key, read by `read`. -/
def candidate? (read : Cursor → Option (Token × Cursor)) (s : Scanner) : Option Scanner := do
  let s ← s.saveCandidate?
  let (token, next) ← read s.cursor
  pure { s.emitAt token next with keyAllowed := false }

/-- A quoted scalar. -/
def quoted? (quote : Char) (s : Scanner) : Option Scanner :=
  s.candidate? fun c =>
    (QuotedText.read? quote c).map fun (text, next) => (.scalar false (String.ofList text), next)

/-- A plain scalar. -/
def plain? (s : Scanner) : Option Scanner := do
  let s ← s.saveCandidate?
  let r ← PlainText.read? s.inFlow s.margin s.cursor
  pure { s.emitAt (.scalar true (String.ofList r.text)) r.next with keyAllowed := r.onNewLine }

/-- A literal or folded scalar. -/
def block? (folding : Bool) (s : Scanner) : Option Scanner := do
  let s ← s.dropCandidate?
  let (text, next) ← BlockText.read? folding (s.margin - 1) s.margin s.cursor
  pure { s.emitAt (.scalar false (String.ofList text)) next with keyAllowed := true }

/-- The characters that start no plain scalar. -/
def indicators : List Char :=
  ['-', '?', ':', ',', '[', ']', '\x7b', '\x7d', '#', '&', '*', '!', '|', '>', '\'', '"', '%', '@',
    '\x60']

/-- Whether a plain scalar may start with `x` before `rest`. -/
def startsPlain (inFlow : Bool) (x : Char) (rest : List Char) : Bool :=
  !(isGap x || indicators.contains x) || (x == '-' && !rest.head?.any isSpace) ||
    (!inFlow && (x == '?' || x == ':') && !atGap rest)

/-- Reads the token at the cursor. -/
def token? (s : Scanner) : Option Scanner :=
  let c := s.cursor
  match c.rest with
  | [] => none
  | x :: rest =>
    let indicator := s.inFlow || atGap rest
    if c.column == 0 && x == '%' then s.directive?
    else if c.atMarker '-' then s.marker? .documentStart
    else if c.atMarker '.' then s.marker? .documentEnd
    else if x == '[' then s.openFlow? .flowSequenceStart
    else if x == '\x7b' then s.openFlow? .flowMappingStart
    else if x == ']' then s.closeFlow? .flowSequenceEnd
    else if x == '\x7d' then s.closeFlow? .flowMappingEnd
    else if x == ',' then s.flowEntry?
    else if x == '-' && atGap rest then s.blockEntry?
    else if x == '?' && indicator then s.key?
    else if x == ':' && indicator then s.value?
    else if x == '*' then
      s.candidate? fun c => (Property.name? c).map fun (n, next) => (.alias n, next)
    else if x == '&' then
      s.candidate? fun c => (Property.name? c).map fun (n, next) => (.anchor n, next)
    else if x == '!' then s.candidate? (Property.tag? s.inFlow)
    else if x == '|' && !s.inFlow then s.block? false
    else if x == '>' && !s.inFlow then s.block? true
    else if x == '\'' || x == '"' then s.quoted? x
    else if startsPlain s.inFlow x rest then s.plain?
    else none

/-- Looks at the next `n` characters; a piece of the text that is not allowed must not come among
them. -/
def lookAhead? (n : Nat) (s : Scanner) : Option Scanner :=
  if s.cut && (s.cursor.rest.drop (n - 1)).isEmpty then none else some s

/-- Reads the next token, or several when block collections end before it.  The candidates that it
puts out of reach are given up right after it. -/
def next? (s : Scanner) : Option Scanner := do
  let s ← (s.skipGaps (s.cursor.rest.length + 1)).dropStale?
  let s ← s.lookAhead? 4
  let s ←
    if s.cursor.rest.isEmpty then s.streamEnd?
    else (s.closeBlocks (some s.cursor.column)).token?
  (← s.lookAhead? 1).dropStale?

/-! ### Whole texts -/

/-- The tokens before the first candidate that is still open. -/
def decided (s : Scanner) : List Token :=
  let numbers := s.candidates.filterMap fun k => k.map Candidate.number
  s.tokens.reverse.take (numbers.foldl min s.tokens.length)

/-- Reads tokens up to the end of the text or to a fault. -/
def run : (fuel : Nat) → Scanner → List Token
  | 0, s => s.decided
  | fuel + 1, s =>
    match s.next? with
    | none => s.decided
    | some next =>
      if next.tokens.head? == some .streamEnd then next.tokens.reverse else run fuel next

end Scanner

/-- The number of bytes in a piece of a text.  A text is looked at piece by piece, and a character
that YAML does not allow spoils the whole piece that it is in. -/
def pieceSize : Nat := 16384

/-- The number of characters before the first piece that is not allowed, if there is one; `before`
characters stand before the current piece, of which `count` characters with `bytes` bytes have been
looked at. -/
def allowedLength? (before count bytes : Nat) : List Char → Option Nat
  | [] => none
  | c :: rest =>
    if !isAllowed c then
      some (if pieceSize < bytes + c.utf8Size then before + count else before)
    else if pieceSize < bytes + c.utf8Size then
      allowedLength? (before + count) 1 c.utf8Size rest
    else allowedLength? before (count + 1) (bytes + c.utf8Size) rest

/-- The tokens of a text. -/
def Token.listOf (text : List Char) : List Token :=
  let start : Scanner :=
    match allowedLength? 0 0 0 text with
    | some n => { cursor := { rest := text.take n }, cut := true }
    | none => { cursor := { rest := text } }
  Scanner.run (text.length + 2) start

end SchemaMigration.Yaml
