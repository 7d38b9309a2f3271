import SchemaMigration.CommandLine.Target
import SchemaMigration.Text.Search

/-!
# Command-line arguments

The arguments after the program name are read in two levels: options that hold for every command,
then the name of a command, and then its own arguments, among which the options of the first level
may stand too.  An option is settled only when the next one that is known comes, so a mistake in
its value counts after an argument that is not known.
-/

namespace SchemaMigration.CommandLine

/-! ### Options and commands -/

/-- The forms in which a command prints its result. -/
inductive OutputFormat where
  | text
  | json
  deriving DecidableEq, Repr

/-- The name of a form. -/
def OutputFormat.name : OutputFormat → String
  | .text => "text"
  | .json => "json"

/-- A command with its own arguments. -/
inductive Command where
  | list (output : OutputFormat)
  | goto (target : TargetVersion)
  | compile (target : TargetVersion) (output : OutputFormat)
  | new (name : String)
  deriving DecidableEq, Repr

/-- What the program is asked to do. -/
structure Invocation where
  command : Command
  verbose : Bool := false
  projectDirectory : String := "."
  config : Option String := none
  target : Option String := none
  migrations : Option String := none
  deriving DecidableEq, Repr

/-- Why arguments are not understood, or what is to be shown instead of running a command. -/
inductive UsageError where
  | valueValidation
  | invalidValue
  | unknownArgument
  | invalidSubcommand
  | missingRequiredArgument
  | argumentConflict
  | tooManyValues
  | displayHelp
  | displayVersion
  | displayHelpOnMissingArgumentOrSubcommand
  | missingSubcommand
  deriving DecidableEq, Repr

/-- The name of a usage error. -/
def UsageError.name : UsageError → String
  | .valueValidation => "ValueValidation"
  | .invalidValue => "InvalidValue"
  | .unknownArgument => "UnknownArgument"
  | .invalidSubcommand => "InvalidSubcommand"
  | .missingRequiredArgument => "MissingRequiredArgument"
  | .argumentConflict => "ArgumentConflict"
  | .tooManyValues => "TooManyValues"
  | .displayHelp => "DisplayHelp"
  | .displayVersion => "DisplayVersion"
  | .displayHelpOnMissingArgumentOrSubcommand => "DisplayHelpOnMissingArgumentOrSubcommand"
  | .missingSubcommand => "MissingSubcommand"

/-- The options of all commands. -/
inductive OptionName where
  | verbose
  | projectDirectory
  | config
  | target
  | migrations
  | wanted
  | output
  | help
  | version
  deriving DecidableEq, Repr

namespace OptionName

/-- The long form of an option, without the dashes. -/
def long : OptionName → String
  | .verbose => "verbose"
  | .projectDirectory => "project-dir"
  | .config => "config"
  | .target => "target"
  | .migrations => "migrations"
  | .wanted => "to"
  | .output => "output"
  | .help => "help"
  | .version => "version"

/-- The letter of an option. -/
def short? : OptionName → Option Char
  | .verbose => some 'v'
  | .projectDirectory => some 'p'
  | .config => some 'c'
  | .target => some 't'
  | .migrations => some 'm'
  | .wanted => none
  | .output => some 'o'
  | .help => some 'h'
  | .version => some 'V'

/-- Whether an option has a value. -/
def takesValue : OptionName → Bool
  | .verbose | .help | .version => false
  | _ => true

/-- Whether the value of an option may start with a dash. -/
def takesDashes : OptionName → Bool
  | .wanted => true
  | _ => false

end OptionName

/-- A level of arguments: its options, and whether a name without dashes belongs to it. -/
structure Level where
  options : List OptionName
  hasName : Bool

/-- The options that hold for every command. -/
def globalOptions : List OptionName :=
  [.verbose, .projectDirectory, .config, .target, .migrations, .help]

/-- The level before the name of the command. -/
def rootLevel : Level := ⟨.version :: globalOptions, false⟩

/-- The kinds of commands. -/
inductive CommandKind where
  | list
  | goto
  | compile
  | new
  deriving DecidableEq, Repr

/-- The commands by name. -/
def commandKinds : List (String × CommandKind) :=
  [("list", .list), ("goto", .goto), ("compile", .compile), ("new", .new)]

/-- The level of the arguments of a command. -/
def CommandKind.level : CommandKind → Level
  | .list => ⟨.output :: globalOptions, false⟩
  | .goto => ⟨.wanted :: globalOptions, false⟩
  | .compile => ⟨.wanted :: .output :: globalOptions, false⟩
  | .new => ⟨globalOptions, true⟩

/-- The name of the command that shows how commands are used. -/
def helpName : String := "help"

/-! ### Settings -/

/-- An option with its value. -/
inductive Setting where
  | verbose
  | projectDirectory (path : String)
  | config (path : String)
  | target (name : String)
  | migrations (path : String)
  | wanted (target : TargetVersion)
  | output (format : OutputFormat)
  deriving DecidableEq, Repr

/-- The option that is set. -/
def Setting.option : Setting → OptionName
  | .verbose => .verbose
  | .projectDirectory _ => .projectDirectory
  | .config _ => .config
  | .target _ => .target
  | .migrations _ => .migrations
  | .wanted _ => .wanted
  | .output _ => .output

/-- The setting of an option to a value. -/
def OptionName.withValue (value : String) : OptionName → Except UsageError Setting
  | .projectDirectory => .ok (.projectDirectory value)
  | .config => .ok (.config value)
  | .target => .ok (.target value)
  | .migrations => .ok (.migrations value)
  | .wanted =>
    match TargetVersion.ofText? value with
    | some v => .ok (.wanted v)
    | none => .error .valueValidation
  | .output =>
    if value == OutputFormat.text.name then .ok (.output .text)
    else if value == OutputFormat.json.name then .ok (.output .json)
    else .error .invalidValue
  | .verbose | .help | .version => .error .tooManyValues

/-- The setting of an option without a value; two of them end the reading of arguments. -/
def OptionName.alone : OptionName → Except UsageError Setting
  | .verbose => .ok .verbose
  | .help => .error .displayHelp
  | .version => .error .displayVersion
  | _ => .error .invalidValue

/-! ### Reading one level -/

/-- What has been read of a level. -/
structure Reading where
  settings : List Setting := []
  /-- an option that is not settled yet, with its value if that has been read -/
  pending : Option (OptionName × Option String) := none
  /-- the name without dashes -/
  name : Option String := none
  /-- whether the two dashes after which no option stands have been read -/
  trailing : Bool := false

namespace Reading

/-- Adds a setting; no option may be set twice. -/
def add (r : Reading) (option : OptionName) (setting : Except UsageError Setting) :
    Except UsageError Reading :=
  if r.settings.any fun s => s.option == option then .error .argumentConflict
  else setting.map fun s => { r with settings := r.settings ++ [s] }

/-- Settles the option that is not settled yet. -/
def settle (r : Reading) : Except UsageError Reading :=
  match r.pending with
  | none => .ok r
  | some (_, none) => .error .invalidValue
  | some (option, some value) => { r with pending := none }.add option (option.withValue value)

/-- The option whose value is to be read. -/
def awaiting? (r : Reading) : Option OptionName :=
  match r.pending with
  | some (option, none) => some option
  | _ => none

/-- Takes an option with the value that is attached to it, if any. -/
def takeOption (r : Reading) (option : OptionName) (attached : Option String) :
    Except UsageError Reading :=
  if option.takesValue then
    match attached with
    | some value => do
      let r ← r.settle
      r.add option (option.withValue value)
    | none => do
      let r ← r.settle
      pure { r with pending := some (option, none) }
  else
    match attached with
    | some _ => .error .tooManyValues
    | none => do
      let r ← r.settle
      match option.alone with
      | .ok setting => r.add option (.ok setting)
      | .error e => .error e

/-- Takes a long option, which may have a value attached after an equals sign. -/
def takeLong (level : Level) (r : Reading) (body : List Char) : Except UsageError Reading :=
  let name := body.takeWhile (· != '=')
  let attached := match body.dropWhile (· != '=') with
    | [] => none
    | _ :: value => some (String.ofList value)
  match level.options.find? fun o => o.long == String.ofList name with
  | some option => r.takeOption option attached
  | none => .error .unknownArgument

/-- Takes options that are given by letters.  What follows the letter of an option with a value is
its value, after an equals sign or not. -/
def takeShort (level : Level) : Reading → List Char → Except UsageError Reading
  | r, [] => .ok r
  | r, letter :: rest =>
    match level.options.find? fun o => o.short? == some letter with
    | none => .error .unknownArgument
    | some option =>
      if option.takesValue then
        r.takeOption option (match rest with
          | [] => none
          | '=' :: value => some (String.ofList value)
          | value => some (String.ofList value))
      else do
        let r ← r.takeOption option none
        takeShort level r rest

/-- Takes a name without dashes, or fails as `otherwise`. -/
def takeName (level : Level) (r : Reading) (name : String) (otherwise : UsageError) :
    Except UsageError Reading :=
  if level.hasName && r.name.isNone then do
    let r ← r.settle
    pure { r with name := some name }
  else .error otherwise

/-- Takes one argument that is not the name of a command. -/
def take (level : Level) (r : Reading) (argument : String) (otherwise : UsageError) :
    Except UsageError Reading :=
  let withValue (option : OptionName) : Reading :=
    { r with pending := some (option, some argument) }
  if r.trailing then r.takeName level argument otherwise
  else
    match r.awaiting?, argument.toList with
    | some option, '-' :: c :: rest =>
      if option.takesDashes then .ok (withValue option)
      else if c == '-' then
        if rest.isEmpty then .ok { r with trailing := true } else r.takeLong level rest
      else r.takeShort level (c :: rest)
    | some option, _ => .ok (withValue option)
    | none, ['-', '-'] => .ok { r with trailing := true }
    | none, '-' :: '-' :: body => r.takeLong level body
    | none, '-' :: c :: rest => r.takeShort level (c :: rest)
    | none, _ => r.takeName level argument otherwise

/-- Reads the arguments of a command. -/
def all (level : Level) (r : Reading) (arguments : List String) : Except UsageError Reading := do
  let r ← arguments.foldlM (fun r argument => r.take level argument .unknownArgument) r
  r.settle

/-! ### What the settings say -/

/-- The first answer that `select` gives for a setting. -/
def find? {α : Type} (r : Reading) (select : Setting → Option α) : Option α :=
  r.settings.findSome? select

/-- The path of the project directory. -/
def projectDirectory? (r : Reading) : Option String :=
  r.find? fun | .projectDirectory path => some path | _ => none

/-- The path of the configuration. -/
def config? (r : Reading) : Option String :=
  r.find? fun | .config path => some path | _ => none

/-- The name of the target. -/
def target? (r : Reading) : Option String :=
  r.find? fun | .target name => some name | _ => none

/-- The path of the migrations directory. -/
def migrations? (r : Reading) : Option String :=
  r.find? fun | .migrations path => some path | _ => none

/-- The version that is asked for. -/
def version (r : Reading) : TargetVersion :=
  (r.find? fun | .wanted target => some target | _ => none).getD .latest

/-- The form of the output. -/
def output (r : Reading) : OutputFormat :=
  (r.find? fun | .output format => some format | _ => none).getD .text

/-- Whether more is to be reported. -/
def verbose (r : Reading) : Bool := r.settings.contains .verbose

end Reading

/-! ### Both levels -/

/-- The command of a kind with the arguments that have been read. -/
def CommandKind.command (kind : CommandKind) (r : Reading) : Except UsageError Command :=
  match kind with
  | .list => .ok (.list r.output)
  | .goto => .ok (.goto r.version)
  | .compile => .ok (.compile r.version r.output)
  | .new =>
    match r.name with
    | some name => .ok (.new name)
    | none => .error .missingRequiredArgument

/-- What the program is asked to do; of an option on both levels the second counts. -/
def invocation (outer inner : Reading) (command : Command) : Invocation where
  command
  verbose := outer.verbose || inner.verbose
  projectDirectory := (inner.projectDirectory? <|> outer.projectDirectory?).getD "."
  config := inner.config? <|> outer.config?
  target := inner.target? <|> outer.target?
  migrations := inner.migrations? <|> outer.migrations?

/-- Reads the arguments after the name of a command, and settles the options before it. -/
def readCommand (outer : Reading) (kind : CommandKind) (arguments : List String) :
    Except UsageError Invocation := do
  let inner ← Reading.all kind.level {} arguments
  let command ← kind.command inner
  let outer ← outer.settle
  pure (invocation outer inner command)

/-- Ends the arguments without a command. -/
def endWithoutCommand (r : Reading) : Except UsageError Invocation := do
  let r ← r.settle
  .error (if r.settings.isEmpty then .displayHelpOnMissingArgumentOrSubcommand
    else .missingSubcommand)

/-- The error for the names after the help command. -/
def helpError : List String → UsageError
  | [] => .displayHelp
  | [name] =>
    if name == helpName || (commandKinds.lookup name).isSome then .displayHelp
    else .invalidSubcommand
  | _ => .invalidSubcommand

/-- Whether a text names a command. -/
def isCommandName (text : String) : Bool :=
  text == helpName || (commandKinds.lookup text).isSome

/-- The error for a name that is no command: after two dashes the name of a command is one too. -/
def nameError (r : Reading) (name : String) : UsageError :=
  if r.trailing && isCommandName name then .unknownArgument else .invalidSubcommand

/-- Reads arguments after those that have been read. -/
def readFrom (r : Reading) : List String → Except UsageError Invocation
  | [] => endWithoutCommand r
  | argument :: rest =>
    if !r.trailing && r.awaiting?.isNone && isCommandName argument then
      match commandKinds.lookup argument with
      | some kind => readCommand r kind rest
      | none => .error (helpError rest)
    else do
      let r ← r.take rootLevel argument (nameError r argument)
      readFrom r rest

/-- Reads the arguments after the program name. -/
def read (arguments : List String) : Except UsageError Invocation := readFrom {} arguments

end SchemaMigration.CommandLine
