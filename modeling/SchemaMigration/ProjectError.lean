import SchemaMigration.File.Error
import SchemaMigration.Operation

/-!
# Errors of a project

What can be wrong with the files of a project: its configuration, its migrations directory and the
migrations in it.
-/

namespace SchemaMigration

/-- Why a text is not a configuration. -/
inductive ConfigFault where
  /-- the text has a fault of its own -/
  | unreadable
  /-- a value does not fit; `path` tells where it stands and is empty for the whole text -/
  | misfit (path : String) (fault : Fault)
  deriving Repr

/-- What stands for the complaint about a text that is no YAML document. -/
def unreadableText : String := "<yaml error>"

/-- The wording of the fault. -/
def ConfigFault.message : ConfigFault → String
  | .unreadable => unreadableText
  | .misfit path fault => if path.isEmpty then fault.message else path ++ ": " ++ fault.message

/-- Why a file is not a migration, apart from its operations. -/
inductive DescriptorFault where
  /-- the text is no document -/
  | unreadable
  /-- the document is not a mapping -/
  | wrongShape
  /-- the mapping has neither of the two members -/
  | noMembers
  /-- the file name gives no key -/
  | noKey
  deriving DecidableEq, Repr

/-- The wording of the fault. -/
def DescriptorFault.message : DescriptorFault → String
  | .unreadable => unreadableText
  | .wrongShape => "expected an object with 'up' and optional 'down' members"
  | .noMembers => "neither 'up' nor 'down' is defined"
  | .noKey => "invalid file name"

/-- A setting with a value that it must not have. -/
inductive BadSetting where
  | emptyProjectName
  | emptyMigrationsPath
  | badVersionTable (name : String)
  | badMigrationName (name : String)
  deriving DecidableEq, Repr

/-- The wording of what is wrong. -/
def BadSetting.message : BadSetting → String
  | .emptyProjectName => "Project name cannot be empty"
  | .emptyMigrationsPath => "migrations_path cannot be empty"
  | .badVersionTable name =>
    "version_table '" ++ name ++ "' must be a non-empty identifier of letters, digits, or '_'"
  | .badMigrationName name =>
    "migration name '" ++ name ++
      "' must be non-empty and contain no whitespace or path separators"

/-- What is wrong with a project. -/
inductive ProjectError where
  | configNotFound (path : String)
  | badSetting (setting : BadSetting)
  | unknownTarget (name : String) (configured : List String)
  | directoryNotFound (path : String)
  | badDescriptor (path : String) (fault : DescriptorFault)
  | badOperation (path : String) (cause : OperationError)
  | duplicateKey (key path1 path2 : String)
  | descriptorExists (path : String)
  | file (path : String) (cause : FileError)
  | badConfig (fault : ConfigFault)
  deriving Repr

namespace ProjectError

/-- The wording of the error. -/
def message : ProjectError → String
  | .configNotFound path => "[E001] Config file not found: " ++ path
  | .badSetting setting => "[E002] Invalid config: " ++ setting.message
  | .unknownTarget name configured =>
    "[E003] Unknown target '" ++ name ++ "'. Configured targets: " ++
      Text.joinWith ", " configured
  | .directoryNotFound path => "[E004] Migrations directory not found: " ++ path
  | .badDescriptor path fault =>
    "[E005] Failed to parse migration '" ++ path ++ "': " ++ fault.message
  | .badOperation path cause => "[E006] Invalid migration '" ++ path ++ "': " ++ cause.message
  | .duplicateKey key path1 path2 =>
    "[E007] Duplicate migration '" ++ key ++ "' in " ++ path1 ++ " and " ++ path2
  | .descriptorExists path => "[E010] Migration file already exists: " ++ path
  | .file path cause => "[E012] Failed to read '" ++ path ++ "': " ++ cause.message
  | .badConfig fault => "[E013] YAML parse error: " ++ fault.message

/-- The wordings of the error and of what it comes from, the outermost first. -/
def chain (e : ProjectError) : List String :=
  e.message :: match e with
    | .badOperation _ cause => [cause.message]
    | .file _ cause => [cause.message]
    | .badConfig fault => [fault.message]
    | _ => []

end ProjectError
end SchemaMigration
