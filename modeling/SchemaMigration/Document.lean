import SchemaMigration.Decimal.Layout

/-!
# Documents

The generic value that a descriptor is read as: scalars, sequences, mappings whose entries keep
their order, and tagged values.  `same` is the equality of mapping keys, `describe` the name of a
value's shape in complaints.
-/

namespace SchemaMigration

/-- A number in a document. -/
inductive Number where
  | int (value : Int)
  | float (value : Binary64)
  deriving DecidableEq, Repr, Inhabited

namespace Number

/-- The text of a number. -/
def text : Number → String
  | .int n => Numeral.ofInt n
  | .float x => Layout.document.write x

/-- Equality of numbers; an integer never equals a floating-point number. -/
def same : Number → Number → Bool
  | .int m, .int n => m == n
  | .float x, .float y => x.sameValue y
  | _, _ => false

end Number

/-- A generic document value. -/
inductive Document where
  | null
  | bool (value : Bool)
  | number (value : Number)
  | string (value : String)
  | sequence (items : List Document)
  | mapping (entries : List (Document × Document))
  | tagged (tag : String) (value : Document)
  deriving Repr, Inhabited

namespace Document

/-! ### Equality of keys -/

/-- A tag as it is compared: an exclamation mark before its name does not count. -/
def comparedTag (tag : String) : String :=
  match tag.toList with
  | '!' :: c :: rest => String.ofList (c :: rest)
  | _ => tag

mutual

/-- Equality of documents, in which the order of a mapping's entries does not count. -/
def same : Document → Document → Bool
  | .null, .null => true
  | .bool a, .bool b => a == b
  | .number a, .number b => a.same b
  | .string a, .string b => a == b
  | .sequence xs, .sequence ys => sameItems xs ys
  | .mapping xs, .mapping ys => xs.length == ys.length && sameEntries xs ys
  | .tagged s v, .tagged t w => comparedTag s == comparedTag t && same v w
  | _, _ => false

/-- Equality of the items of two sequences, place by place. -/
def sameItems : List Document → List Document → Bool
  | [], [] => true
  | x :: xs, y :: ys => same x y && sameItems xs ys
  | _, _ => false

/-- Whether every entry of the first mapping stands somewhere in the second. -/
def sameEntries : List (Document × Document) → List (Document × Document) → Bool
  | [], _ => true
  | (k, v) :: rest, ys => ys.any (fun e => same k e.1 && same v e.2) && sameEntries rest ys

end

/-! ### Access -/

/-- Whether the document is the null value. -/
def isNull : Document → Bool
  | .null => true
  | _ => false

/-- The document inside all its tags. -/
def untagged : Document → Document
  | .tagged _ v => untagged v
  | d => d

/-- Whether the document is the given string. -/
def isString (s : String) : Document → Bool
  | .string t => t == s
  | _ => false

/-- The value of the entry whose key is the string `key`. -/
def lookup? (key : String) (entries : List (Document × Document)) : Option Document :=
  (entries.find? fun e => e.1.isString key).map Prod.snd

/-- A short name for the shape of a document. -/
def describe : Document → String
  | .null => "null"
  | .bool _ => "a boolean"
  | .number _ => "a number"
  | .string s => if s.isEmpty then "an empty string" else "a string"
  | .sequence _ => "a list"
  | .mapping _ => "an object"
  | .tagged .. => "a tagged value"

end Document
end SchemaMigration
