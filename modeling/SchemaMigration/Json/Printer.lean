import SchemaMigration.Json
import SchemaMigration.Text.Search

/-!
# Writing JSON

`Json.compact` writes a value on one line and without spaces, `Json.pretty` with one member or item
to a line, indented by two spaces for each level.
-/

namespace SchemaMigration.Json

/-! ### Strings -/

/-- A digit in base sixteen. -/
def hexDigit (d : Nat) : Char := Char.ofNat (if d < 10 then 48 + d else 87 + d)

/-- A character as it stands in a string. -/
def escapeChar (c : Char) : List Char :=
  if c = '"' ∨ c = '\\' then ['\\', c]
  else if c = '\n' then ['\\', 'n']
  else if c = '\r' then ['\\', 'r']
  else if c = '\t' then ['\\', 't']
  else if c.toNat = 8 then ['\\', 'b']
  else if c.toNat = 12 then ['\\', 'f']
  else if c.toNat < 32 then ['\\', 'u', '0', '0', hexDigit (c.toNat / 16), hexDigit (c.toNat % 16)]
  else [c]

/-- A string between quotes. -/
def writeString (s : String) : String :=
  String.ofList ('"' :: (s.toList.flatMap escapeChar ++ ['"']))

/-! ### One line -/

mutual

/-- The text of a value on one line. -/
def compact : Json → String
  | .null => "null"
  | .bool b => if b then "true" else "false"
  | .number n => n.text
  | .string s => writeString s
  | .array items => "[" ++ Text.joinWith "," (compactItems items) ++ "]"
  | .object members => "\x7b" ++ Text.joinWith "," (compactMembers members) ++ "\x7d"

/-- The texts of the items of an array. -/
def compactItems : List Json → List String
  | [] => []
  | v :: rest => compact v :: compactItems rest

/-- The texts of the members of an object. -/
def compactMembers : List (String × Json) → List String
  | [] => []
  | (name, v) :: rest => (writeString name ++ ":" ++ compact v) :: compactMembers rest

end

/-! ### Several lines -/

/-- The start of a line at a level. -/
def lineStart (level : Nat) : String := "\n" ++ String.ofList (List.replicate (2 * level) ' ')

/-- Parts on lines of their own between two brackets. -/
def bracketLines (level : Nat) (opening closing : String) : List String → String
  | [] => opening ++ closing
  | parts =>
    opening ++ lineStart (level + 1) ++ Text.joinWith ("," ++ lineStart (level + 1)) parts ++
      lineStart level ++ closing

mutual

/-- The text of a value on several lines, the further ones indented for a level. -/
def prettyAt (level : Nat) : Json → String
  | .array items => bracketLines level "[" "]" (prettyItems (level + 1) items)
  | .object members => bracketLines level "\x7b" "\x7d" (prettyMembers (level + 1) members)
  | v => compact v

/-- The texts of the items of an array. -/
def prettyItems (level : Nat) : List Json → List String
  | [] => []
  | v :: rest => prettyAt level v :: prettyItems level rest

/-- The texts of the members of an object. -/
def prettyMembers (level : Nat) : List (String × Json) → List String
  | [] => []
  | (name, v) :: rest =>
    (writeString name ++ ": " ++ prettyAt level v) :: prettyMembers level rest

end

/-- The text of a value on several lines. -/
def pretty (v : Json) : String := prettyAt 0 v

end SchemaMigration.Json
