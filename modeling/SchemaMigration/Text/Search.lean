/-!
# Searching and replacing text

Functions on lists of characters that look for a fixed pattern: `occurs` tells whether a pattern
stands in a text, `replaceAll` replaces every occurrence from left to right without overlap, and
`splitOn` cuts a text at a separator.  The `String` forms `contains`, `replace` and `split` are
the same functions on the characters of a string.
-/

namespace SchemaMigration.Text

/-! ### Occurrence -/

/-- `occurs p s` holds when the characters of `p` stand next to each other somewhere in `s`. -/
def occurs (p : List Char) : List Char → Bool
  | [] => p.isEmpty
  | c :: cs => p.isPrefixOf (c :: cs) || occurs p cs

/-- Whether `pattern` is a substring of `text`. -/
def contains (text pattern : String) : Bool :=
  occurs pattern.toList text.toList

/-! ### Replacement -/

/-- Replaces occurrences of `p` by `r`, after dropping the first `skip` characters, which belong to
an occurrence that has been replaced already. -/
def replaceFrom (p r : List Char) : (skip : Nat) → List Char → List Char
  | _, [] => []
  | k + 1, _ :: cs => replaceFrom p r k cs
  | 0, c :: cs =>
    if p.isPrefixOf (c :: cs) then r ++ replaceFrom p r (p.length - 1) cs
    else c :: replaceFrom p r 0 cs

/-- Replaces every occurrence of the non-empty pattern `p` by `r`, from left to right; what has been
written is not searched again. -/
def replaceAll (p r s : List Char) : List Char :=
  replaceFrom p r 0 s

/-- Replaces each occurrence of `pattern` in `text`. -/
def replace (text pattern replacement : String) : String :=
  String.ofList (replaceAll pattern.toList replacement.toList text.toList)

/-! ### Cutting and joining -/

/-- The pieces of a text between the occurrences of `sep`; there is always at least one. -/
def splitOn (sep : Char) : List Char → List (List Char)
  | [] => [[]]
  | c :: cs =>
    if c = sep then [] :: splitOn sep cs
    else match splitOn sep cs with
      | [] => [[c]]
      | piece :: pieces => (c :: piece) :: pieces

/-- The pieces of a string between the occurrences of `sep`. -/
def split (text : String) (sep : Char) : List String :=
  (splitOn sep text.toList).map String.ofList

/-- The texts in order with `sep` between each two of them. -/
def joinWith (sep : String) : List String → String
  | [] => ""
  | [s] => s
  | s :: rest => s ++ sep ++ joinWith sep rest

end SchemaMigration.Text
