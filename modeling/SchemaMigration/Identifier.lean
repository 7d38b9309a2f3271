import SchemaMigration.Text.Search

/-!
# Bracketed identifiers

An identifier is written between brackets, with every closing bracket inside it written twice
(`quote`); a schema-qualified name is written part by part, with dots between the parts
(`quoteQualified`).  `read?` and `readQualified?` read such a name off the front of a text.
-/

namespace SchemaMigration.Identifier

/-! ### Writing -/

/-- The characters of an identifier with each closing bracket written twice. -/
def escape : List Char → List Char
  | [] => []
  | c :: cs => if c = ']' then ']' :: ']' :: escape cs else c :: escape cs

/-- The characters of an identifier between brackets. -/
def bracketed (name : List Char) : List Char :=
  '[' :: (escape name ++ [']'])

/-- An identifier between brackets. -/
def quote (name : String) : String :=
  String.ofList (bracketed name.toList)

/-- A name whose dot-separated parts are put between brackets one by one. -/
def quoteQualified (name : String) : String :=
  Text.joinWith "." ((Text.split name '.').map quote)

/-- Identifiers between brackets, in order, with commas between them. -/
def quoteList (names : List String) : String :=
  Text.joinWith ", " (names.map quote)

/-! ### Reading -/

/-- Reads the inside of a bracketed identifier up to the closing bracket that stands alone, and
gives the identifier and what follows the bracket. -/
def readInside : List Char → Option (List Char × List Char)
  | [] => none
  | ']' :: ']' :: rest => (readInside rest).map fun (name, after) => (']' :: name, after)
  | c :: rest =>
    if c = ']' then some ([], rest)
    else (readInside rest).map fun (name, after) => (c :: name, after)

/-- Reads one bracketed identifier off the front of a text. -/
def read? : List Char → Option (List Char × List Char)
  | '[' :: rest => readInside rest
  | _ => none

/-- Reads bracketed identifiers with dots between them; `fuel` bounds their number. -/
def readParts : (fuel : Nat) → List Char → Option (List (List Char) × List Char)
  | 0, _ => none
  | fuel + 1, s => do
    let (name, after) ← read? s
    match after with
    | '.' :: next => do
      let (names, rest) ← readParts fuel next
      pure (name :: names, rest)
    | rest => pure ([name], rest)

/-- Reads a qualified name, part by part, off the front of a text. -/
def readQualified? (s : List Char) : Option (List (List Char) × List Char) :=
  readParts s.length s

end SchemaMigration.Identifier
