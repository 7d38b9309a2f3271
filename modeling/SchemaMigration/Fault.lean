import SchemaMigration.Document
import SchemaMigration.Text.Quoted
import SchemaMigration.Text.Search

/-!
# Faults of a payload

What can be wrong with a document when a value of a known shape is read from it, and the wording of
each fault.  A fault names what was found (`Found`), what was wanted (`Wanted`), or the field that
is missing, repeated or unknown.
-/

namespace SchemaMigration

/-- What stands where something else was wanted. -/
inductive Found where
  | bool (value : Bool)
  | int (value : Int)
  /-- an integer of more than 64 bits, with the name of the narrowest type that holds it -/
  | wideInt (value : Int)
  | float (value : Binary64)
  | string (value : String)
  | unit
  | sequence
  | map
  deriving DecidableEq, Repr

/-- What was wanted. -/
inductive Wanted where
  | string
  | boolean
  | sequence
  | map
  | unit
  | fieldName
  | variantTag
  | record (name : String)
  deriving DecidableEq, Repr

/-- A fault of a payload. -/
inductive Fault where
  /-- a value of another type -/
  | wrongType (found : Found) (wanted : Wanted)
  /-- a text that is not the form of the type it is tagged with -/
  | wrongText (text : String) (wanted : String)
  | missingField (name : String)
  | repeatedField (name : String)
  | unknownField (name : String) (known : List String)
  | unknownVariant (name : String) (known : List String)
  /-- a collection, a null or a tagged value where a default expression was wanted -/
  | notScalar (found : Document)
  /-- none of the shapes of the named type fits -/
  | noShapeFits (type : String)
  /-- a tagged value where the shape decides the type -/
  | taggedShape
  deriving Repr

/-! ### Wording -/

/-- What was found, in words. -/
def Found.text : Found → String
  | .bool b => "boolean `" ++ (if b then "true" else "false") ++ "`"
  | .int n => "integer `" ++ Numeral.ofInt n ++ "`"
  | .wideInt n => "integer `" ++ Numeral.ofInt n ++ "` as " ++ (if n < 0 then "i128" else "u128")
  | .float x => "floating point `" ++ Layout.complaint.write x ++ "`"
  | .string s => "string " ++ Text.quoted s
  | .unit => "unit value"
  | .sequence => "sequence"
  | .map => "map"

/-- What was wanted, in words. -/
def Wanted.text : Wanted → String
  | .string => "a string"
  | .boolean => "a boolean"
  | .sequence => "a sequence"
  | .map => "a map"
  | .unit => "unit"
  | .fieldName => "field identifier"
  | .variantTag => "a YAML tag starting with '!'"
  | .record name => "struct " ++ name

/-- The names that would have been right. -/
def alternatives : List String → String
  | [] => "there are no fields"
  | [a] => "expected `" ++ a ++ "`"
  | [a, b] => "expected `" ++ a ++ "` or `" ++ b ++ "`"
  | names => "expected one of " ++ Text.joinWith ", " (names.map fun n => "`" ++ n ++ "`")

/-- The wording of a fault. -/
def Fault.message : Fault → String
  | .wrongType found wanted => "invalid type: " ++ found.text ++ ", expected " ++ wanted.text
  | .wrongText text wanted =>
    "invalid value: string " ++ Text.quoted text ++ ", expected " ++ wanted
  | .missingField name => "missing field `" ++ name ++ "`"
  | .repeatedField name => "duplicate field `" ++ name ++ "`"
  | .unknownField name known => "unknown field `" ++ name ++ "`, " ++ alternatives known
  | .unknownVariant name known => "unknown variant `" ++ name ++ "`, " ++ alternatives known
  | .notScalar found => "expected a scalar value, found " ++ found.describe
  | .noShapeFits type => "data did not match any variant of untagged enum " ++ type
  | .taggedShape => "untagged and internally tagged enums do not support enum input"

/-! ### What a document is found to be -/

/-- What a document inside its tags is found to be. -/
def Document.found (d : Document) : Found :=
  match d.untagged with
  | .null => .unit
  | .bool b => .bool b
  | .number (.int n) => .int n
  | .number (.float x) => .float x
  | .string s => .string s
  | .sequence _ => .sequence
  | .mapping _ => .map
  | .tagged .. => .unit

end SchemaMigration
