import SchemaMigration.Json
import SchemaMigration.Migrator

/-!
# Listing migrations

The migrations of a project with their versions, and which of them are applied.
-/

namespace SchemaMigration

/-- What a listing says about one migration. -/
structure MigrationInfo where
  version : Nat
  key : String
  applied : Bool
  current : Bool
  explicitDown : Bool
  deriving DecidableEq, Repr

/-- The migrations of a project at some version. -/
structure Listing where
  currentVersion : Nat
  latestVersion : Nat
  migrations : List MigrationInfo
  deriving DecidableEq, Repr

namespace Listing

/-- What is said about the migration at a position that is counted from zero. -/
def info (version : Nat) (d : Descriptor) (position : Nat) : MigrationInfo where
  version := position + 1
  key := d.key.text
  applied := decide (position < version)
  current := position + 1 == version
  explicitDown := d.hasExplicitDown

/-- The listing of the migrations that a migrator knows. -/
def ofMigrator (m : Migrator) : Listing where
  currentVersion := m.version
  latestVersion := m.latest
  migrations := m.descriptors.zipIdx.map fun (d, position) => info m.version d position

/-! ### Text -/

/-- A number with spaces before it up to a width. -/
def alignRight (width n : Nat) : String :=
  let digits := Numeral.digits n
  String.ofList (List.replicate (width - digits.length) ' ' ++ digits)

/-- The line of one migration. -/
def line (width : Nat) (m : MigrationInfo) : String :=
  alignRight width m.version ++ ": " ++ m.key ++ (if m.current then " (current)" else "") ++ "\n"

/-- The line about a database that is ahead of the migrations. -/
def warning (l : Listing) : String :=
  if l.latestVersion < l.currentVersion then
    "  warning: database is ahead of the " ++ Numeral.ofNat l.latestVersion ++
      " migrations found\n"
  else ""

/-- A listing as text. -/
def text (l : Listing) : String :=
  "Current version: " ++ Numeral.ofNat l.currentVersion ++ " of " ++
    Numeral.ofNat l.latestVersion ++ "\n" ++ l.warning ++
    (if l.migrations.isEmpty then "No migrations found.\n"
    else String.join (l.migrations.map (line (Numeral.digits l.migrations.length).length)))

/-! ### JSON -/

/-- What is said about one migration as a JSON value. -/
def infoToJson (m : MigrationInfo) : Json :=
  .object [("version", .nat m.version), ("key", .string m.key), ("applied", .bool m.applied),
    ("current", .bool m.current), ("explicit_down", .bool m.explicitDown)]

/-- A listing as a JSON value. -/
def toJson (l : Listing) : Json :=
  .object [("current_version", .nat l.currentVersion), ("latest_version", .nat l.latestVersion),
    ("migrations", .array (l.migrations.map infoToJson))]

end Listing
end SchemaMigration
