import SchemaMigration.File.Path
import SchemaMigration.Json
import SchemaMigration.ProjectError

/-!
# Project configuration

The settings of a project: where its migrations are, which table holds the version, and which
databases it knows by name.
-/

namespace SchemaMigration

/-- The types of databases. -/
inductive DatabaseType where
  | duckdb
  deriving DecidableEq, Repr

/-- The name of a type. -/
def DatabaseType.name : DatabaseType → String
  | .duckdb => "duckdb"

/-- Where a database is. -/
structure DatabaseSettings where
  type : DatabaseType := .duckdb
  path : String := ":memory:"
  deriving DecidableEq, Repr

/-- The settings of a project. -/
structure Config where
  name : String
  migrationsPath : String := "migrations"
  versionTable : String := "SchemaInfo"
  database : DatabaseSettings := {}
  /-- databases by name, in the order of the names -/
  targets : List (String × DatabaseSettings) := []
  deriving DecidableEq, Repr

namespace Config

/-! ### Validity -/

/-- Whether a text is an identifier of letters, digits and underscores. -/
def isIdentifier (s : String) : Bool :=
  !s.isEmpty && s.toList.all fun c => c.isAlphanum || c == '_'

/-- The first setting with a value that it must not have. -/
def badSetting? (c : Config) : Option BadSetting :=
  if c.name.isEmpty then some .emptyProjectName
  else if c.migrationsPath.isEmpty then some .emptyMigrationsPath
  else if !isIdentifier c.versionTable then some (.badVersionTable c.versionTable)
  else none

/-- The configuration, if its settings have allowed values. -/
def validate (c : Config) : Except ProjectError Config :=
  match c.badSetting? with
  | some setting => .error (.badSetting setting)
  | none => .ok c

/-! ### Use -/

/-- The path of the migrations directory of a project. -/
def migrationsIn (c : Config) (root : String) : String := Path.join root c.migrationsPath

/-- The names of the targets in order. -/
def targetNames (c : Config) : List String := c.targets.map Prod.fst

/-- The settings of a target, or of the default database. -/
def databaseFor (c : Config) (target : Option String) : Except ProjectError DatabaseSettings :=
  match target with
  | none => .ok c.database
  | some name =>
    match c.targets.lookup name with
    | some settings => .ok settings
    | none => .error (.unknownTarget name c.targetNames)

/-- Puts a target in its place; a target of the same name is replaced. -/
def insertTarget (name : String) (settings : DatabaseSettings) :
    List (String × DatabaseSettings) → List (String × DatabaseSettings)
  | [] => [(name, settings)]
  | t :: rest =>
    if name < t.1 then (name, settings) :: t :: rest
    else if name = t.1 then (name, settings) :: rest
    else t :: insertTarget name settings rest

/-! ### JSON form -/

/-- The settings of a database as a JSON value. -/
def databaseToJson (d : DatabaseSettings) : Json :=
  .object [("type", .string d.type.name), ("path", .string d.path)]

/-- A configuration as a JSON value. -/
def toJson (c : Config) : Json :=
  .object [("name", .string c.name), ("migrations_path", .string c.migrationsPath),
    ("version_table", .string c.versionTable), ("database", databaseToJson c.database),
    ("targets",
      .object (c.targets.map fun t => (t.1, .object [("database", databaseToJson t.2)])))]

end Config
end SchemaMigration
