import SchemaMigration.Operation

/-!
# Writing operations

`Operation.toDocument` writes an operation as the document that it is read from: one entry from
the key of its kind to its payload, or a bare string.  Fields that are not set are left out.
-/

namespace SchemaMigration

namespace Payload

/-- An entry under a string key. -/
def entry (name : String) (value : Document) : Document × Document := (.string name, value)

/-- An entry that is left out when there is no value. -/
def entry? (name : String) : Option Document → List (Document × Document)
  | some value => [entry name value]
  | none => []

/-- A list of strings as a document. -/
def ofStrings (texts : List String) : Document := .sequence (texts.map .string)

/-- A default constraint as a document. -/
def ofDefault (d : DefaultConstraint) : Document :=
  .mapping [entry "name" (.string d.name), entry "value" (.string d.value)]

/-- A column definition as a document. -/
def ofColumn (c : Column) : Document :=
  .mapping ([entry "name" (.string c.name), entry "type" (.string c.type)] ++
    entry? "nullable" (c.nullable.map .bool) ++ entry? "default" (c.default.map ofDefault))

/-- A list of columns as a document. -/
def ofColumns (columns : List Column) : Document := .sequence (columns.map ofColumn)

/-- A member of a table as a document. -/
def ofMember (m : Member) : Document :=
  .mapping [entry "table" (.string m.table), entry "name" (.string m.name)]

/-- One side of a foreign key as a document. -/
def ofKeyEnd (k : KeyEnd) : Document :=
  .mapping [entry "table" (.string k.table), entry "columns" (ofStrings k.columns)]

end Payload

namespace Operation
open Payload

/-- The payload of an operation as a document. -/
def toPayload : Operation → Document
  | .createTable t =>
    .mapping [entry "name" (.string t.name), entry "timestamps" (.bool t.timestamps),
      entry "columns" (ofColumns t.columns)]
  | .dropTable name => .string name
  | .addColumn c | .changeColumn c =>
    .mapping [entry "table" (.string c.table), entry "columns" (ofColumns c.columns)]
  | .removeColumn m | .dropConstraint m => ofMember m
  | .addForeignKey k =>
    .mapping [entry "name" (.string k.name), entry "from" (ofKeyEnd k.source),
      entry "to" (ofKeyEnd k.target)]
  | .addIndex i | .removeIndex i =>
    .mapping [entry "table_name" (.string i.table), entry "columns" (ofStrings i.columns)]
  | .execute (.single text) => .string text
  | .execute (.fragments lines) => ofStrings lines
  | .raw sql => .string sql

/-- An operation as a document. -/
def toDocument (op : Operation) : Document :=
  match op with
  | .raw sql => .string sql
  | _ => .mapping [entry op.kind.key op.toPayload]

end Operation
end SchemaMigration
