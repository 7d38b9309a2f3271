import SchemaMigration.Text.Search

/-!
# Column types

Authors write portable shorthands such as `string` or `pk`; `resolve` expands them to native
clauses.  Expansion is by substring and each rule sees what the rules before it have written, so
a native type that contains a shorthand is expanded too.
-/

namespace SchemaMigration.ColumnType

/-- The shorthand of a primary-key column. -/
def primaryKey : String := "pk"

/-- The native clause of a primary-key column. -/
def primaryKeyClause : String := "int PRIMARY KEY IDENTITY(1,1)"

/-- The shorthands with their native clauses, in the order in which they are expanded. -/
def shorthands : List (String × String) :=
  [(primaryKey, primaryKeyClause), ("money", "decimal(8,2)"), ("date", "datetime"),
    ("string", "nvarchar(255)"), ("boolean", "bit"), ("text", "nvarchar(MAX)"),
    ("guid", "uniqueidentifier")]

/-- The native clause of a column type: every shorthand in it expanded, one shorthand after the
other. -/
def resolve (type : String) : String :=
  shorthands.foldl (fun clause (word, native) => Text.replace clause word native) type

/-- Whether a clause declares a primary key or an identity column. -/
def declaresIdentity (clause : String) : Bool :=
  Text.contains clause "PRIMARY KEY" || Text.contains clause "IDENTITY"

end SchemaMigration.ColumnType
