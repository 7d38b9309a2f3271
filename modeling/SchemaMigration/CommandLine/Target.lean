import SchemaMigration.Text.Blank
import SchemaMigration.Text.Numeral

/-!
# Target versions

The version that a command asks for: a number, or the highest version there is.
-/

namespace SchemaMigration

/-- A version that is asked for. -/
inductive TargetVersion where
  | latest
  | version (value : Int)
  deriving DecidableEq, Repr

namespace TargetVersion

/-- The least number of 64 bits with a sign. -/
def least : Int := -0x8000000000000000

/-- The greatest number of 64 bits with a sign. -/
def greatest : Int := 0x8000000000000000 - 1

/-- The words for the highest version. -/
def latestWords : List String := ["last", "latest"]

/-- The target that a text spells: a word in any case, or an integer of 64 bits. -/
def ofText? (text : String) : Option TargetVersion :=
  let word := Text.lowerAscii (Text.trim text)
  if latestWords.contains word then some .latest
  else
    ((Numeral.readSigned? word.toList).filter fun n => decide (least ≤ n ∧ n ≤ greatest)).map
      .version

/-- What is wrong with a text that spells no target. -/
def complaint (text : String) : String :=
  "expected a version number or 'last', got '" ++ text ++ "'"

/-- The number that a target stands for when there are `latest` versions. -/
def resolve (target : TargetVersion) (latest : Nat) : Int :=
  match target with
  | .latest => min latest greatest
  | .version v => v

end TargetVersion
end SchemaMigration
