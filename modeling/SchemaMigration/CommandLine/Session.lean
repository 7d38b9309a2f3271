import SchemaMigration.CommandLine.Arguments
import SchemaMigration.CommandLine.Listing
import SchemaMigration.Config.Reader
import SchemaMigration.Database.Stored
import SchemaMigration.Descriptor.Scaffold
import SchemaMigration.Plan.Script

/-!
# Running commands

A command works on a file tree and gives what it prints, the tree after it and, if it fails, the
messages of the failure from the outermost to its cause.  The databases that it opens are those of a
`Backend`; `run` is for databases in files.
-/

namespace SchemaMigration.CommandLine

/-- What a command has done so far. -/
structure Session (σ : Type) where
  tree : FileTree
  /-- the state of the database, when one has been opened -/
  database : Option σ := none
  output : String := ""
  errors : String := ""

/-- The messages of a failure, the outermost first. -/
abbrev Failure := List String

/-- A failure as it is shown: its message, and below it what it comes from. -/
def failureText : Failure → String
  | [] => "Error"
  | [message] => "Error: " ++ message
  | [message, cause] => "Error: " ++ message ++ "\n\nCaused by:\n    " ++ cause
  | message :: causes =>
    "Error: " ++ message ++ "\n\nCaused by:" ++
      String.join (causes.zipIdx.map fun (cause, n) =>
        "\n    " ++ Numeral.ofNat n ++ ": " ++ cause)

/-- A part of a command: it goes on from a session, and may fail. -/
abbrev Task (σ α : Type) := Session σ → Except Failure α × Session σ

variable {σ : Type}

namespace Session

/-- The session with more output. -/
def print (s : Session σ) (text : String) : Session σ := { s with output := s.output ++ text }

/-- The session with a remark, which only a verbose invocation makes. -/
def remark (s : Session σ) (verbose : Bool) (text : String) : Session σ :=
  if verbose then { s with errors := s.errors ++ "[verbose] " ++ text ++ "\n" } else s

/-- The session when the database is in a state. -/
def reach (s : Session σ) (b : Backend σ) (state : σ) : Session σ :=
  { s with tree := b.tree state, database := some state }

end Session

/-! ### The project -/

/-- A project that has been loaded. -/
structure Project where
  config : Config
  root : String
  migrationsDirectory : String
  verbose : Bool

/-- Loads the configuration that an invocation names. -/
def loadConfig (i : Invocation) (tree : FileTree) : Except Failure Config :=
  match i.config with
  | some path =>
    (Config.load tree path).mapError fun e => "Failed to load configuration file" :: e.chain
  | none =>
    (Config.loadFrom tree i.projectDirectory).mapError fun e =>
      "Failed to load project configuration" :: e.chain

/-- Loads the project that an invocation names. -/
def loadProject (i : Invocation) : Task σ Project := fun s =>
  match loadConfig i s.tree with
  | .error e => (.error e, s)
  | .ok config =>
    let root := i.projectDirectory
    let migrationsDirectory := i.migrations.getD (config.migrationsIn root)
    (.ok { config, root, migrationsDirectory, verbose := i.verbose },
      s.remark i.verbose
        ("Project '" ++ config.name ++ "', migrations in " ++ migrationsDirectory))

/-- The path of a database; a relative path starts at the project. -/
def databasePath (p : Project) (settings : DatabaseSettings) : String :=
  if settings.path = Connector.memoryPath then settings.path
  else Path.join p.root settings.path

section
variable (b : Backend σ)

/-- Opens the database of a project. -/
def connect (p : Project) (target : Option String) : Task σ σ := fun s =>
  match p.config.databaseFor target with
  | .error e => (.error ("Failed to select database target" :: e.chain), s)
  | .ok settings =>
    let path := databasePath p settings
    let s := s.remark p.verbose ("Connecting to " ++ settings.type.name ++ " at " ++ path)
    match b.open s.tree path with
    | .error e => (.error ["Failed to connect to database", e.message], s)
    | .ok state => (.ok state, s.reach b state)

/-- Opens the database of a project and binds its migrations to it. -/
def openMigrator (p : Project) (target : Option String) (bootstrap : Bool) :
    Task σ (Migrator × σ) := fun s =>
  match connect b p target s with
  | (.error e, s) => (.error e, s)
  | (.ok state, s) =>
    let loaded := Descriptor.load s.tree p.migrationsDirectory
    let (result, _, state) :=
      Migrator.bindLoaded b.database loaded ⟨p.config.versionTable⟩ bootstrap state
    let s := s.reach b state
    match result with
    | .error e => (.error ("Failed to load migrations" :: e.chain), s)
    | .ok m =>
      (.ok (m, state), s.remark p.verbose
        ("Loaded " ++ Numeral.ofNat m.latest ++ " migrations, database at version " ++
          Numeral.ofNat m.version))

/-! ### Commands -/

/-- Prints a JSON value. -/
def printJson (value : Json) (s : Session σ) : Session σ := s.print (value.pretty ++ "\n")

/-- Lists the migrations. -/
def list (p : Project) (target : Option String) (format : OutputFormat) : Task σ Unit := fun s =>
  match openMigrator b p target false s with
  | (.error e, s) => (.error e, s)
  | (.ok (m, _), s) =>
    let listing := Listing.ofMigrator m
    (.ok (), match format with
      | .text => s.print listing.text
      | .json => printJson listing.toJson s)

/-- Prints the statements of a migration. -/
def compile (p : Project) (target : Option String) (wanted : TargetVersion)
    (format : OutputFormat) : Task σ Unit := fun s =>
  match openMigrator b p target false s with
  | (.error e, s) => (.error e, s)
  | (.ok (m, _), s) =>
    let plan := m.plan (wanted.resolve m.latest)
    let s := s.remark p.verbose
      ("Planned " ++ Numeral.ofNat plan.steps.length ++ " steps from version " ++
        Numeral.ofNat plan.start ++ " to " ++ Numeral.ofNat plan.goal)
    (.ok (), match format with
      | .text => s.print plan.script
      | .json => printJson plan.toJson s)

/-- What is printed about a migration that is complete. -/
def reportText (report : Report) : String :=
  if report.isNoop then "Already at version " ++ Numeral.ofNat report.goal ++ "\n"
  else
    let verb := if report.direction = some .down then "Reverted" else "Applied"
    String.join (report.keys.map fun key => "  " ++ verb ++ " " ++ key.text ++ "\n") ++
      "Migrated from version " ++ Numeral.ofNat report.start ++ " to " ++
      Numeral.ofNat report.goal ++ "\n"

/-- Moves the database to a version. -/
def goto (p : Project) (target : Option String) (wanted : TargetVersion) : Task σ Unit := fun s =>
  match openMigrator b p target true s with
  | (.error e, s) => (.error e, s)
  | (.ok (m, state), s) =>
    let version := wanted.resolve m.latest
    let s := s.remark p.verbose
      ("Requested version " ++ Numeral.ofInt version ++ ", migrating to " ++
        Numeral.ofNat (m.clamp version))
    let (result, run) := Migrator.migrate b.database m version state
    let s := s.reach b run.database
    match result with
    | .error e =>
      (.error (("Migration stopped at version " ++ Numeral.ofNat run.migrator.version) :: e.chain),
        s)
    | .ok report => (.ok (), s.print (reportText report))

end

/-- Makes the migrations directory, unless it is there. -/
def makeMigrationsDirectory (p : Project) : Task σ Unit := fun s =>
  let directory := p.migrationsDirectory
  if s.tree.pathExists directory then (.ok (), s)
  else
    let s := s.remark p.verbose ("Creating " ++ directory)
    let (result, tree) := s.tree.makeDirectories directory
    (result.mapError fun e =>
      ["Failed to create migrations directory: " ++ directory, e.message], { s with tree })

/-- Makes a new migration. -/
def new (p : Project) (name : String) (now : Timestamp) : Task σ Unit := fun s =>
  match makeMigrationsDirectory p s with
  | (.error e, s) => (.error e, s)
  | (.ok (), s) =>
    match Descriptor.makeFile s.tree p.migrationsDirectory name now with
    | (.error e, tree) => (.error ("Failed to create migration" :: e.chain), { s with tree })
    | (.ok path, tree) => (.ok (), { s with tree }.print ("Created " ++ path ++ "\n"))

/-- Runs the command of an invocation at a moment, with the databases of a kind. -/
def runOn (b : Backend σ) (i : Invocation) (now : Timestamp) : Task σ Unit := fun s =>
  match loadProject i s with
  | (.error e, s) => (.error e, s)
  | (.ok p, s) =>
    match i.command with
    | .list format => list b p i.target format s
    | .goto wanted => goto b p i.target wanted s
    | .compile wanted format => compile b p i.target wanted format s
    | .new name => new p name now s

/-- Runs the command of an invocation at a moment, with databases in files. -/
def run : Invocation → Timestamp → Task (StoredDatabase × FileTree) Unit :=
  runOn StoredDatabase.connector.backend

end SchemaMigration.CommandLine
