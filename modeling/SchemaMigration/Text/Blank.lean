/-!
# White space

The characters with the Unicode property `White_Space`, and trimming by it.
-/

namespace SchemaMigration.Text

/-- The code points with the property `White_Space`, as inclusive ranges in increasing order. -/
def blankRanges : List (Nat × Nat) :=
  [(0x09, 0x0D), (0x20, 0x20), (0x85, 0x85), (0xA0, 0xA0), (0x1680, 0x1680), (0x2000, 0x200A),
    (0x2028, 0x2029), (0x202F, 0x202F), (0x205F, 0x205F), (0x3000, 0x3000)]

/-- Whether a character is white space. -/
def isBlank (c : Char) : Bool :=
  blankRanges.any fun (low, high) => decide (low ≤ c.toNat) && decide (c.toNat ≤ high)

/-- The list without its leading elements that satisfy `p`. -/
def trimLeft (s : List Char) : List Char :=
  s.dropWhile isBlank

/-- The text without the white space at its two ends. -/
def trimBlanks (s : List Char) : List Char :=
  (trimLeft (trimLeft s).reverse).reverse

/-- The string without the white space at its two ends. -/
def trim (s : String) : String :=
  String.ofList (trimBlanks s.toList)

/-- The ASCII capital letters made small, all else unchanged. -/
def lowerAscii (s : String) : String :=
  String.ofList (s.toList.map Char.toLower)

end SchemaMigration.Text
