import SchemaMigration.Document

/-!
# JSON values

JSON values whose objects keep the order of their members, `Json.sorted`, which puts the members in
the order of their names, and `Json.toDocument`, which takes a JSON value as the same generic
document.
-/

namespace SchemaMigration

/-- A JSON value. -/
inductive Json where
  | null
  | bool (value : Bool)
  | number (value : Number)
  | string (value : String)
  | array (items : List Json)
  | object (members : List (String × Json))
  deriving Repr, Inhabited

namespace Json

/-- An integer as a JSON value. -/
def int (n : Int) : Json := .number (.int n)

/-- A natural number as a JSON value. -/
def nat (n : Nat) : Json := .int n

/-- A list of strings as a JSON value. -/
def strings (texts : List String) : Json := .array (texts.map .string)

/-- The value of the last member with a name. -/
def member? (name : String) : Json → Option Json
  | .object members => (members.reverse.find? fun m => m.1 == name).map Prod.snd
  | _ => none

/-- The string that a value is. -/
def string? : Json → Option String
  | .string s => some s
  | _ => none

/-- The integer that a value is. -/
def int? : Json → Option Int
  | .number (.int n) => some n
  | _ => none

/-- The items of an array. -/
def items? : Json → Option (List Json)
  | .array items => some items
  | _ => none

/-! ### Order of members -/

/-- Puts a member in its place among members in the order of their names. -/
def insertByName (member : String × Json) : List (String × Json) → List (String × Json)
  | [] => [member]
  | m :: rest => if m.1 < member.1 then m :: insertByName member rest else member :: m :: rest

mutual

/-- The same value with the members of all its objects in the order of their names. -/
def sorted : Json → Json
  | .array items => .array (sortedItems items)
  | .object members => .object (sortedMembers members)
  | v => v

/-- The same items, each with its members in order. -/
def sortedItems : List Json → List Json
  | [] => []
  | v :: rest => sorted v :: sortedItems rest

/-- The same members in order, and the members inside them as well. -/
def sortedMembers : List (String × Json) → List (String × Json)
  | [] => []
  | (name, v) :: rest => insertByName (name, sorted v) (sortedMembers rest)

end

/-! ### As documents -/

mutual

/-- A JSON value as a document. -/
def toDocument : Json → Document
  | .null => .null
  | .bool b => .bool b
  | .number n => .number n
  | .string s => .string s
  | .array items => .sequence (toDocuments items)
  | .object members => .mapping (toEntries members)

/-- The items of an array as documents. -/
def toDocuments : List Json → List Document
  | [] => []
  | v :: rest => toDocument v :: toDocuments rest

/-- The members of an object as entries of a mapping. -/
def toEntries : List (String × Json) → List (Document × Document)
  | [] => []
  | (name, v) :: rest => (.string name, toDocument v) :: toEntries rest

end

end Json
end SchemaMigration
