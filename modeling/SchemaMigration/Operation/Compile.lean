import SchemaMigration.ColumnType
import SchemaMigration.Identifier
import SchemaMigration.Operation
import SchemaMigration.Statement

/-!
# Compiling operations

Each operation becomes literal SQL.  Every kind gives one statement, except that changing columns
gives one for each column.
-/

namespace SchemaMigration.Operation
open Identifier (quote quoteQualified quoteList)

/-! ### Columns and tables -/

/-- A column definition: name, native type, default constraint and nullability, which a primary-key
column does not carry. -/
def columnDefinition (c : Column) : String :=
  quote c.name ++ " " ++ ColumnType.resolve c.type ++
    (match c.default with
      | some d => " CONSTRAINT " ++ quote d.name ++ " DEFAULT " ++ d.value
      | none => "") ++
    (if c.isPrimaryKey then "" else if c.isNullable then " NULL" else " NOT NULL")

/-- The definitions of the audit columns. -/
def auditColumns : List String :=
  ["[CreatedBy] nvarchar(250) NOT NULL", "[CreatedOn] datetime DEFAULT getdate() NOT NULL",
    "[ModifiedBy] nvarchar(250) NOT NULL", "[ModifiedOn] datetime DEFAULT getdate() NOT NULL"]

/-- The definition of the identity column of a table that declares none. -/
def implicitIdentity : String :=
  quote "Id" ++ " " ++ ColumnType.primaryKeyClause ++ " NOT NULL"

/-- Whether a column declares the primary key or the identity of its table. -/
def declaresIdentity (c : Column) : Bool :=
  ColumnType.declaresIdentity (ColumnType.resolve c.type)

/-- The column definitions of a table in order. -/
def tableBody (t : TableDefinition) : List String :=
  (if t.columns.any declaresIdentity then [] else [implicitIdentity]) ++
    t.columns.map columnDefinition ++ (if t.timestamps then auditColumns else [])

/-- The statement that creates a table. -/
def createTableSql (t : TableDefinition) : String :=
  "CREATE TABLE " ++ quote t.name ++ " (\n    " ++ Text.joinWith ",\n    " (tableBody t) ++ "\n)"

/-! ### Statements -/

/-- The start of a statement that alters a table. -/
def alterTable (table : String) : String := "ALTER TABLE " ++ quote table

/-- The statement that adds a foreign key. -/
def foreignKeySql (k : ForeignKey) : String :=
  alterTable k.source.table ++ " ADD CONSTRAINT " ++ quote k.name ++ " FOREIGN KEY (" ++
    quoteList k.source.columns ++ ") REFERENCES " ++ quote k.target.table ++ " (" ++
    quoteList k.target.columns ++ ")"

/-- The statement that creates an index. -/
def indexSql (i : Index) : String :=
  "CREATE NONCLUSTERED INDEX " ++ quote i.name ++ " ON " ++ quote i.table ++ " (" ++
    Text.joinWith ", " (i.columns.map fun c => quote c ++ " ASC") ++ ")"

/-- SQL with its type shorthands expanded and its braces taken out. -/
def rawSql (sql : String) : String :=
  String.ofList ((ColumnType.resolve sql).toList.filter fun c => c != '\x7b' && c != '\x7d')

/-- The statements of an operation in order. -/
def compile : Operation → List Statement
  | .createTable t => [.sql (createTableSql t)]
  | .dropTable name => [.sql ("DROP TABLE " ++ quoteQualified name)]
  | .addColumn c =>
    [.sql (alterTable c.table ++ " ADD " ++ Text.joinWith ", " (c.columns.map columnDefinition))]
  | .removeColumn m => [.sql (alterTable m.table ++ " DROP COLUMN " ++ quote m.name)]
  | .changeColumn c =>
    c.columns.map fun column =>
      .sql (alterTable c.table ++ " ALTER COLUMN " ++ columnDefinition column)
  | .addForeignKey k => [.sql (foreignKeySql k)]
  | .dropConstraint m => [.sql (alterTable m.table ++ " DROP CONSTRAINT " ++ quote m.name)]
  | .addIndex i => [.sql (indexSql i)]
  | .removeIndex i => [.sql ("DROP INDEX " ++ quoteQualified i.table ++ "." ++ quote i.name)]
  | .execute sql => [.sql sql.text]
  | .raw sql => [.sql (rawSql sql)]

/-- The statements of a list of operations in declared order. -/
def compileAll (ops : List Operation) : List Statement := ops.flatMap compile

end SchemaMigration.Operation
