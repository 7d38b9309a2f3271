import SchemaMigration.Operation
import SchemaMigration.Text.Blank

/-!
# Reading payloads

Payloads are read from documents field by field.  A record is read in two passes: `checkFields`
goes through the entries in document order, so that the first faulty one is the one reported, and
the fields are then looked up by name, in declaration order, so that the first missing one is
reported.  Entries under unknown names are skipped, and tags around records, lists and strings are
read through.
-/

namespace SchemaMigration.Payload

/-- A reader of values of some type. -/
abbrev Reader (α : Type) := Document → Except Fault α

/-! ### Records -/

/-- A field of a record: its name, and the check that a document is a value of its type. -/
structure Field where
  name : String
  check : Document → Except Fault Unit

/-- The field of a record with the given reader. -/
def Field.of {α : Type} (name : String) (reader : Reader α) : Field where
  name := name
  check d := (reader d).map fun _ => ()

/-- The name that the key of an entry stands for. -/
def fieldName (key : Document) : Except Fault String :=
  match key.untagged with
  | .string s => .ok s
  | _ => .error (.wrongType key.found .fieldName)

/-- Goes through the entries of a record in document order and stops at the first fault; `seen`
holds the names of the fields met before. -/
def checkFields (fields : List Field) (seen : List String) :
    List (Document × Document) → Except Fault Unit
  | [] => .ok ()
  | (key, value) :: rest => do
    let name ← fieldName key
    match fields.find? fun f => f.name == name with
    | none => checkFields fields seen rest
    | some f =>
      if seen.contains name then .error (.repeatedField name)
      else
        f.check value
        checkFields fields (name :: seen) rest

/-- The value of the first entry under a name. -/
def field? (name : String) (entries : List (Document × Document)) : Option Document :=
  (entries.find? fun e => e.1.untagged.isString name).map Prod.snd

/-- The value of a field that has to be there. -/
def required {α : Type} (name : String) (reader : Reader α)
    (entries : List (Document × Document)) : Except Fault α :=
  match field? name entries with
  | some d => reader d
  | none => .error (.missingField name)

/-- The value of a field that may be missing. -/
def optional {α : Type} (name : String) (reader : Reader α) (absent : α)
    (entries : List (Document × Document)) : Except Fault α :=
  match field? name entries with
  | some d => reader d
  | none => .ok absent

/-- Reads a record: a mapping, or a null, which is a record without entries. -/
def record {α : Type} (type : String) (fields : List Field)
    (build : List (Document × Document) → Except Fault α) : Reader α := fun d =>
  match d.untagged with
  | .mapping entries => do
    checkFields fields [] entries
    build entries
  | .null => build []
  | _ => .error (.wrongType d.found (.record type))

/-! ### Scalars and lists -/

/-- Reads a string. -/
def string : Reader String := fun d =>
  match d.untagged with
  | .string s => .ok s
  | _ => .error (.wrongType d.found .string)

/-- Reads a boolean. -/
def boolean : Reader Bool := fun d =>
  match d.untagged with
  | .bool b => .ok b
  | _ => .error (.wrongType d.found .boolean)

/-- Reads a list; a null is the empty list. -/
def list {α : Type} (item : Reader α) : Reader (List α) := fun d =>
  match d.untagged with
  | .sequence items => items.mapM item
  | .null => .ok []
  | _ => .error (.wrongType d.found .sequence)

/-- Reads a value that may be null. -/
def nullable {α : Type} (reader : Reader α) : Reader (Option α) := fun d =>
  match d with
  | .null => .ok none
  | d => (reader d).map some

/-- Reads a default expression: the text of a scalar, with `1` and `0` for the booleans. -/
def expression : Reader String
  | .string s => .ok s
  | .number n => .ok n.text
  | .bool b => .ok (if b then "1" else "0")
  | d => .error (.notScalar d)

/-- Reads a switch: null, `false` and the word `false` in any case leave it off, all else turns it
on. -/
def switch : Reader Bool
  | .null => .ok false
  | .bool b => .ok b
  | .string s => .ok (Text.lowerAscii (Text.trim s) != "false")
  | _ => .ok true

/-! ### The payloads of operations -/

/-- Reads a named default constraint. -/
def defaultConstraint : Reader DefaultConstraint :=
  record "DefaultSpec" [.of "name" string, .of "value" expression] fun entries => do
    let name ← required "name" string entries
    let value ← required "value" expression entries
    pure { name, value }

/-- Reads a column definition. -/
def column : Reader Column :=
  record "ColumnSpec"
    [.of "name" string, .of "type" string, .of "nullable" (nullable boolean),
      .of "default" (nullable defaultConstraint)] fun entries => do
    let name ← required "name" string entries
    let type ← required "type" string entries
    let null ← optional "nullable" (nullable boolean) none entries
    let default ← optional "default" (nullable defaultConstraint) none entries
    pure { name, type, nullable := null, default }

/-- Reads a table definition. -/
def tableDefinition : Reader TableDefinition :=
  record "CreateTableSpec"
    [.of "name" string, .of "timestamps" switch, .of "columns" (list column)] fun entries => do
    let name ← required "name" string entries
    let timestamps ← optional "timestamps" switch false entries
    let columns ← optional "columns" (list column) [] entries
    pure { name, timestamps, columns }

/-- Reads the columns to add to a table or to change in it. -/
def columnList : Reader ColumnList :=
  record "ColumnsSpec" [.of "table" string, .of "columns" (list column)] fun entries => do
    let table ← required "table" string entries
    let columns ← required "columns" (list column) entries
    pure { table, columns }

/-- Reads a column or a constraint by name; `type` is the name of the record in complaints. -/
def member (type : String) : Reader Member :=
  record type [.of "table" string, .of "name" string] fun entries => do
    let table ← required "table" string entries
    let name ← required "name" string entries
    pure { table, name }

/-- Reads one side of a foreign key. -/
def keyEnd : Reader KeyEnd :=
  record "ForeignKeyEnd" [.of "table" string, .of "columns" (list string)] fun entries => do
    let table ← required "table" string entries
    let columns ← required "columns" (list string) entries
    pure { table, columns }

/-- Reads a foreign key. -/
def foreignKey : Reader ForeignKey :=
  record "ForeignKeySpec" [.of "name" string, .of "from" keyEnd, .of "to" keyEnd]
    fun entries => do
    let name ← required "name" string entries
    let source ← required "from" keyEnd entries
    let target ← required "to" keyEnd entries
    pure { name, source, target }

/-- Reads an index. -/
def index : Reader Index :=
  record "IndexSpec" [.of "table_name" string, .of "columns" (list string)] fun entries => do
    let table ← required "table_name" string entries
    let columns ← required "columns" (list string) entries
    pure { table, columns }

/-! ### Literal SQL -/

mutual

/-- Whether a tag stands anywhere in a document. -/
def hasTag : Document → Bool
  | .sequence items => itemsHaveTag items
  | .mapping entries => entriesHaveTag entries
  | .tagged .. => true
  | _ => false

/-- Whether a tag stands anywhere in one of the items. -/
def itemsHaveTag : List Document → Bool
  | [] => false
  | d :: rest => hasTag d || itemsHaveTag rest

/-- Whether a tag stands anywhere in a key or a value. -/
def entriesHaveTag : List (Document × Document) → Bool
  | [] => false
  | (k, v) :: rest => hasTag k || hasTag v || entriesHaveTag rest

end

/-- Reads the lines of a literal statement.  The shape of every item is looked at before its type
is decided, so a tag anywhere among them is a fault of its own. -/
def fragments (items : List Document) : Except Fault (List String) :=
  if itemsHaveTag items then .error .taggedShape
  else match items.mapM fun d => match d with | .string s => some s | _ => none with
    | some lines => .ok lines
    | none => .error (.noShapeFits "ExecuteSql")

end SchemaMigration.Payload
