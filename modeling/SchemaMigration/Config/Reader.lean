import SchemaMigration.Config
import SchemaMigration.File.Tree
import SchemaMigration.Yaml.Composition

/-!
# Reading configurations

A configuration is read from the nodes of its text, since a scalar is taken literally where a
string is wanted.  Entries are looked at in the order of the text, and the first fault is reported
with the path of the place where it stands.
-/

namespace SchemaMigration.Config
open Yaml (Complaint Node)

/-! ### Complaints -/

/-- The complaint as a fault of the whole text. -/
def faultOf : Complaint → ConfigFault
  | .unreadable => .unreadable
  | .around fault => .misfit "" fault
  | .here fault => .misfit "" fault
  | .inside path fault => .misfit path fault

/-! ### Readers -/

/-- The nodes that aliases stand for. -/
abbrev Targets := List (Nat × Node)

/-- The node that is meant: an alias stands for its target. -/
def follow (targets : Targets) : Node → Node
  | .alias n => (targets.lookup n).getD .broken
  | node => node

/-- A reader of values of some type; nodes given to it are no aliases. -/
abbrev Reader (α : Type) := Targets → Node → Except Complaint α

/-! ### What a node is found to be -/

/-- What a scalar that is not what is wanted is found to be. -/
def scalarMismatch (tag : Option Yaml.Tag) (plain : Bool) (text : String) (wanted : Wanted) :
    Fault :=
  let untagged : Fault :=
    .wrongType (if plain then Yaml.PlainValue.read text else .string text) wanted
  match tag with
  | none => untagged
  | some tag =>
    if Yaml.isOwnTag tag then untagged
    else
      match Yaml.PlainValue.readTagged tag text with
      | .ok found => .wrongType found wanted
      | .error form => .wrongText text form

/-- The complaint about a node that is not what is wanted. -/
def mismatch (node : Node) (wanted : Wanted) : Complaint :=
  match node with
  | .broken | .alias _ => .unreadable
  | .sequence .. => .here (.wrongType .sequence wanted)
  | .mapping .. => .here (.wrongType .map wanted)
  | .scalar p plain text => .here (scalarMismatch p.tag plain text wanted)

/-! ### Scalars -/

/-- Reads a string: the text of any scalar. -/
def string (wanted : Wanted) : Reader String := fun _ node =>
  match node with
  | .scalar _ _ text => .ok text
  | node => .error (mismatch node wanted)

/-- The type of databases with a name. -/
def databaseTypeNamed (name : String) : Except Fault DatabaseType :=
  if name == DatabaseType.duckdb.name then .ok .duckdb
  else .error (.unknownVariant name [DatabaseType.duckdb.name])

/-- Reads a type of databases that a tag names; the node must hold nothing else. -/
def taggedType (tag : String) (node : Node) : Except Complaint DatabaseType :=
  match databaseTypeNamed tag with
  | .error fault => .error (.around fault)
  | .ok type =>
    match node with
    | .scalar _ plain text =>
      if plain && (text.isEmpty || Yaml.PlainValue.isNullWord text) then .ok type
      else .error (.here (.wrongText text "null"))
    | node => .error (mismatch node .unit)

/-- Reads a type of databases: its name, or a tag with its name. -/
def databaseType : Reader DatabaseType := fun _ node =>
  let tag := match node with
    | .scalar p _ _ | .sequence p _ | .mapping p _ => p.tag.bind Yaml.ownTag?
    | _ => none
  match tag, node with
  | some tag, node => taggedType tag node
  | none, .scalar _ _ text => (databaseTypeNamed text).mapError .here
  | none, node => .error (mismatch node .variantTag)

/-! ### Mappings -/

/-- The entries of a mapping, with the text of each key and its part of a path; a scalar that is
left empty is an empty mapping. -/
def entries (wanted : Wanted) (node : Node) : Except Complaint (List (Node × Node)) :=
  match node with
  | .mapping _ entries => .ok entries
  | .scalar _ true "" => .ok []
  | node => .error (mismatch node wanted)

/-- A field of a record: its name, and the check that a node is a value of its type. -/
structure Field where
  name : String
  check : Targets → Node → Except Complaint Unit

/-- The field of a record with the given reader. -/
def Field.of {α : Type} (name : String) (reader : Reader α) : Field where
  name := name
  check targets node := (reader targets node).map fun _ => ()

/-- A value that has been found under the name of a field. -/
abbrev FieldNode := String × Node

/-- Goes through the entries of a record in order and stops at the first fault; `seen` holds the
fields met before. -/
def collectFields (targets : Targets) (fields : List Field) (seen : List FieldNode) :
    List (Node × Node) → Except Complaint (List FieldNode)
  | [] => .ok seen
  | (key, value) :: rest => do
    let name ← string .fieldName targets (follow targets key)
    match fields.find? fun f => f.name == name with
    | none => .error (.here (.unknownField name (fields.map Field.name)))
    | some f =>
      if (seen.lookup name).isSome then .error (.here (.repeatedField name))
      else
        let node := follow targets value
        (f.check targets node).mapError fun c => (c.across value).under key.pathPart
        collectFields targets fields ((name, node) :: seen) rest

/-- The value of a field that may be missing. -/
def optional {α : Type} (targets : Targets) (name : String) (reader : Reader α) (absent : α)
    (found : List FieldNode) : Except Complaint α :=
  match found.lookup name with
  | some node => reader targets node
  | none => .ok absent

/-- The value of a field that has to be there. -/
def required {α : Type} (targets : Targets) (name : String) (reader : Reader α)
    (found : List FieldNode) : Except Complaint α :=
  match found.lookup name with
  | some node => reader targets node
  | none => .error (.here (.missingField name))

/-! ### Settings -/

/-- Reads the settings of a database. -/
def databaseSettings : Reader DatabaseSettings := fun targets node => do
  let entries ← entries (.record "DatabaseConfig") node
  let found ←
    collectFields targets [.of "type" databaseType, .of "path" (string .string)] [] entries
  let type ← optional targets "type" databaseType .duckdb found
  let path ← optional targets "path" (string .string) ":memory:" found
  pure { type, path }

/-- Reads a target. -/
def target : Reader DatabaseSettings := fun targets node => do
  let entries ← entries (.record "TargetConfig") node
  let found ← collectFields targets [.of "database" databaseSettings] [] entries
  required targets "database" databaseSettings found

/-- Reads the targets by name; of two with one name the later counts. -/
def targetsFrom (targets : Targets) (done : List (String × DatabaseSettings)) :
    List (Node × Node) → Except Complaint (List (String × DatabaseSettings))
  | [] => .ok done
  | (key, value) :: rest => do
    let name ← string .string targets (follow targets key)
    let settings ←
      (target targets (follow targets value)).mapError fun c =>
        (c.across value).under key.pathPart
    targetsFrom targets (insertTarget name settings done) rest

/-- Reads the targets. -/
def targetMap : Reader (List (String × DatabaseSettings)) := fun targets node => do
  let entries ← entries .map node
  targetsFrom targets [] entries

/-- Reads a configuration. -/
def config : Reader Config := fun targets node => do
  let entries ← entries (.record "Config") node
  let text := string .string
  let found ←
    collectFields targets
      [.of "name" text, .of "migrations_path" text, .of "version_table" text,
        .of "database" databaseSettings, .of "targets" targetMap] [] entries
  let name ← required targets "name" text found
  let migrationsPath ← optional targets "migrations_path" text "migrations" found
  let versionTable ← optional targets "version_table" text "SchemaInfo" found
  let database ← optional targets "database" databaseSettings {} found
  let named ← optional targets "targets" targetMap [] found
  pure { name, migrationsPath, versionTable, database, targets := named }

/-- Reads the configuration in a text.  A fault that a generic reading of the text meets as well is
one of the text itself. -/
def ofText (text : String) : Except ConfigFault Config :=
  let source := Yaml.Source.ofText text
  let root := source.root.getD Node.empty
  match config root.targets (follow root.targets root) with
  | .error complaint =>
    let fault := faultOf complaint
    match source.document with
    | .error generic =>
      .error (if fault.message == (faultOf generic).message then .unreadable else fault)
    | .ok _ => .error fault
  | .ok config => if source.complete then .ok config else .error .unreadable

/-! ### Files -/

/-- Loads the configuration in a file. -/
def load (tree : FileTree) (path : String) : Except ProjectError Config :=
  if !tree.pathExists path then .error (.configNotFound path)
  else
    match tree.readText path with
    | .error cause => .error (.file path cause)
    | .ok text =>
      match ofText text with
      | .error fault => .error (.badConfig fault)
      | .ok config => config.validate

/-- The file names under which the configuration of a project is looked for. -/
def fileNames : List String := ["manatee.yml", "manatee.yaml"]

/-- Loads the configuration in the directory of a project. -/
def loadFrom (tree : FileTree) (directory : String) : Except ProjectError Config :=
  let paths := fileNames.map (Path.join directory)
  match paths.find? tree.pathExists with
  | some path => load tree path
  | none => .error (.configNotFound (paths.headD ""))

end SchemaMigration.Config
