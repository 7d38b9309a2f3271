import SchemaMigration.Operation.Payload

/-!
# Reading operations

`Operation.ofDocument` reads one operation and `Operation.listOfDocument` the member of a
descriptor that lists them.  A bare string is SQL with type shorthands; a mapping must have exactly
one operation key with a value that is not null, and its other keys are not looked at.
-/

namespace SchemaMigration.Operation

/-- The operation keys with a value that is not null, in the order of `OperationKind.keyed`. -/
def present (entries : List (Document × Document)) : List (OperationKind × Document) :=
  OperationKind.keyed.filterMap fun kind =>
    match Document.lookup? kind.key entries with
    | none => none
    | some .null => none
    | some payload => some (kind, payload)

/-- A payload that a reader of its kind reads. -/
def payload {α : Type} (kind : OperationKind) (reader : Payload.Reader α) (d : Document) :
    Except OperationError α :=
  (reader d).mapError (.badPayload kind)

/-- A list of columns that must not be empty. -/
def columnsOf (kind : OperationKind) (d : Document) : Except OperationError ColumnList := do
  let columns ← payload kind Payload.columnList d
  if columns.columns.isEmpty then .error (.noColumns kind) else .ok columns

/-- An index with at least one column. -/
def indexOf (kind : OperationKind) (d : Document) : Except OperationError Index := do
  let index ← payload kind Payload.index d
  if index.columns.isEmpty then .error (.noColumns kind) else .ok index

/-- A foreign key with at least one column on each side. -/
def foreignKeyOf (d : Document) : Except OperationError ForeignKey := do
  let key ← payload .addForeignKey Payload.foreignKey d
  if key.source.columns.isEmpty || key.target.columns.isEmpty then .error .noKeyColumns
  else .ok key

/-- The name of a table to drop: a string that is not empty. -/
def droppedTable (d : Document) : Except OperationError String :=
  match d with
  | .string name =>
    if name.isEmpty then .error (.unexpected .dropTable "a table name" d) else .ok name
  | _ => .error (.unexpected .dropTable "a table name" d)

/-- Literal SQL: a string or a list of strings. -/
def literalSql (d : Document) : Except OperationError LiteralSql :=
  match d with
  | .string text => .ok (.single text)
  | .sequence items => payload .execute (fun _ => (Payload.fragments items).map .fragments) d
  | _ => .error (.unexpected .execute "a string or a list of strings" d)

/-- The operation of a kind with the given payload. -/
def ofPayload (kind : OperationKind) (d : Document) : Except OperationError Operation :=
  match kind with
  | .createTable => (payload kind Payload.tableDefinition d).map .createTable
  | .dropTable => (droppedTable d).map .dropTable
  | .addColumn => (columnsOf kind d).map .addColumn
  | .removeColumn => (payload kind (Payload.member "RemoveColumnSpec") d).map .removeColumn
  | .changeColumn => (columnsOf kind d).map .changeColumn
  | .addForeignKey => (foreignKeyOf d).map .addForeignKey
  | .dropConstraint => (payload kind (Payload.member "DropConstraintSpec") d).map .dropConstraint
  | .addIndex => (indexOf kind d).map .addIndex
  | .removeIndex => (indexOf kind d).map .removeIndex
  | .execute => (literalSql d).map .execute
  | .raw => .error (.unexpected .raw "a bare string" d)

/-- The string that a key is inside its tags, if it is one. -/
def keyText (key : Document) : Option String :=
  match key.untagged with
  | .string s => some s
  | _ => none

/-- Reads one operation. -/
def ofDocument (d : Document) : Except OperationError Operation :=
  match d with
  | .string sql => .ok (.raw sql)
  | .mapping entries =>
    match present entries with
    | [(kind, d)] => ofPayload kind d
    | [] => .error (.noOperation (entries.map fun e => keyText e.1))
    | several => .error (.severalOperations (several.map Prod.fst))
  | _ => .error (.wrongShape d)

/-- Reads a list of operations: a null is the empty list, a sequence lists them in order, and
anything else is a list of one. -/
def listOfDocument : Document → Except OperationError (List Operation)
  | .null => .ok []
  | .sequence items => items.mapM ofDocument
  | d => (ofDocument d).map fun op => [op]

end SchemaMigration.Operation
