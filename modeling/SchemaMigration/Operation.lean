import SchemaMigration.Fault

/-!
# Operations

The declarative schema changes that a migration lists: `Operation` with one payload type for each
kind of change, `OperationKind` with the key under which a document names it, and
`OperationError`, the ways in which a document fails to be an operation.
-/

namespace SchemaMigration

/-! ### Payloads -/

/-- A named default constraint on a column. -/
structure DefaultConstraint where
  /-- the constraint's name -/
  name : String
  /-- the SQL expression, spliced into statements as it is -/
  value : String
  deriving DecidableEq, Repr, Inhabited

/-- The definition of a column. -/
structure Column where
  name : String
  /-- a shorthand or a native type -/
  type : String
  /-- declared nullability; a column that declares none is not nullable -/
  nullable : Option Bool := none
  default : Option DefaultConstraint := none
  deriving DecidableEq, Repr, Inhabited

/-- A table to create. -/
structure TableDefinition where
  name : String
  /-- whether the audit columns are appended -/
  timestamps : Bool
  columns : List Column
  deriving DecidableEq, Repr, Inhabited

/-- Columns to add to a table, or to change in it. -/
structure ColumnList where
  table : String
  columns : List Column
  deriving DecidableEq, Repr, Inhabited

/-- A column or a constraint of a table, by name. -/
structure Member where
  table : String
  name : String
  deriving DecidableEq, Repr, Inhabited

/-- One side of a foreign key: a table and its key columns in order. -/
structure KeyEnd where
  table : String
  columns : List String
  deriving DecidableEq, Repr, Inhabited

/-- A foreign key, from the referring side to the side that is referred to. -/
structure ForeignKey where
  name : String
  source : KeyEnd
  target : KeyEnd
  deriving DecidableEq, Repr, Inhabited

/-- An index, which has no name of its own: its name follows from its table and columns. -/
structure Index where
  table : String
  columns : List String
  deriving DecidableEq, Repr, Inhabited

/-- Literal SQL: one statement, or the lines of one. -/
inductive LiteralSql where
  | single (text : String)
  | fragments (lines : List String)
  deriving DecidableEq, Repr, Inhabited

namespace Column

/-- Whether the column is the identity column that the `pk` shorthand declares. -/
def isPrimaryKey (c : Column) : Bool := c.type == "pk"

/-- Whether the column allows nulls; only a declared `true` does. -/
def isNullable (c : Column) : Bool := c.nullable.getD false

end Column

/-- The name of an index: its table and its columns, with underscores for the spaces in column
names. -/
def Index.name (i : Index) : String :=
  "IX_" ++ i.table ++ "_" ++ Text.joinWith "_" (i.columns.map fun c => Text.replace c " " "_")

/-- The statement that literal SQL stands for. -/
def LiteralSql.text : LiteralSql → String
  | .single text => text
  | .fragments lines => Text.joinWith "\n" lines

/-! ### Operations and their kinds -/

/-- A declarative schema change. -/
inductive Operation where
  | createTable (table : TableDefinition)
  | dropTable (name : String)
  | addColumn (columns : ColumnList)
  | removeColumn (column : Member)
  | changeColumn (columns : ColumnList)
  | addForeignKey (key : ForeignKey)
  | dropConstraint (constraint : Member)
  | addIndex (index : Index)
  | removeIndex (index : Index)
  | execute (sql : LiteralSql)
  /-- SQL with type shorthands, given in place of an operation -/
  | raw (sql : String)
  deriving DecidableEq, Repr, Inhabited

/-- The kinds of operations. -/
inductive OperationKind where
  | createTable
  | dropTable
  | addColumn
  | removeColumn
  | changeColumn
  | addForeignKey
  | dropConstraint
  | addIndex
  | removeIndex
  | execute
  | raw
  deriving DecidableEq, Repr, Inhabited

/-- The name of a kind: the key of its operations in a document, or `raw`. -/
def OperationKind.key : OperationKind → String
  | .createTable => "create_table"
  | .dropTable => "drop_table"
  | .addColumn => "add_column"
  | .removeColumn => "remove_column"
  | .changeColumn => "change_column"
  | .addForeignKey => "foreign_key"
  | .dropConstraint => "drop_constraint"
  | .addIndex => "add_index"
  | .removeIndex => "remove_index"
  | .execute => "execute"
  | .raw => "raw"

/-- The kinds that a document names by a key, in the order in which the keys are looked for. -/
def OperationKind.keyed : List OperationKind :=
  [.createTable, .dropTable, .addColumn, .removeColumn, .changeColumn, .addForeignKey,
    .dropConstraint, .addIndex, .removeIndex, .execute]

/-- The kind of an operation. -/
def Operation.kind : Operation → OperationKind
  | .createTable _ => .createTable
  | .dropTable _ => .dropTable
  | .addColumn _ => .addColumn
  | .removeColumn _ => .removeColumn
  | .changeColumn _ => .changeColumn
  | .addForeignKey _ => .addForeignKey
  | .dropConstraint _ => .dropConstraint
  | .addIndex _ => .addIndex
  | .removeIndex _ => .removeIndex
  | .execute _ => .execute
  | .raw _ => .raw

/-! ### Errors -/

/-- Why a document is not an operation. -/
inductive OperationError where
  /-- neither a string nor a mapping -/
  | wrongShape (found : Document)
  /-- a mapping without any operation key; a key that is not a string is `none` -/
  | noOperation (keys : List (Option String))
  /-- a mapping with several operation keys -/
  | severalOperations (kinds : List OperationKind)
  /-- a payload that is not of the shape its kind wants -/
  | badPayload (kind : OperationKind) (fault : Fault)
  /-- a payload of the wrong type, where the kind takes a plain value -/
  | unexpected (kind : OperationKind) (wanted : String) (found : Document)
  /-- a payload whose list of columns is empty -/
  | noColumns (kind : OperationKind)
  /-- a foreign key one of whose sides has no columns -/
  | noKeyColumns
  deriving Repr

namespace OperationError

/-- The operation key or keys that the error is about, if the document had any. -/
def operation? : OperationError → Option String
  | .wrongShape _ => none
  | .noOperation _ => none
  | .severalOperations kinds => some (Text.joinWith "+" (kinds.map OperationKind.key))
  | .badPayload kind _ => some kind.key
  | .unexpected kind _ _ => some kind.key
  | .noColumns kind => some kind.key
  | .noKeyColumns => some OperationKind.addForeignKey.key

/-- What is wrong, in words. -/
def detail : OperationError → String
  | .wrongShape found => found.describe
  | .noOperation [] => "empty object"
  | .noOperation keys =>
    "object with keys [" ++ Text.joinWith ", " (keys.map fun k => k.getD "<non-string key>") ++ "]"
  | .severalOperations _ =>
    "operation keys are mutually exclusive; split them into separate operations"
  | .badPayload _ fault => fault.message
  | .unexpected _ wanted found => "expected " ++ wanted ++ ", found " ++ found.describe
  | .noColumns _ => "'columns' must list at least one column"
  | .noKeyColumns => "both 'from' and 'to' need at least one column"

/-- The wording of the error. -/
def message (e : OperationError) : String :=
  match e.operation? with
  | some operation => "[E008] Invalid '" ++ operation ++ "' operation: " ++ e.detail
  | none => "[E009] Unrecognized operation: " ++ e.detail

end OperationError
end SchemaMigration
