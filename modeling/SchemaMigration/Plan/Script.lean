import SchemaMigration.Json
import SchemaMigration.Plan

/-!
# Scripts

A plan as text: a script of SQL statements with comments that name the steps, and a JSON value.
-/

namespace SchemaMigration

/-! ### Text -/

/-- A statement as it stands in a script; SQL ends with a semicolon. -/
def Statement.scriptText : Statement → String
  | .sql text => text ++ ";\n"
  | .diagnostic text => text ++ "\n"

/-- The comment above a step. -/
def Step.header (s : Step) : String :=
  "-- " ++ s.direction.name ++ " " ++ Numeral.ofNat s.version ++ ": " ++
    (match s.key with
      | some key => key.text
      | none => "no migration found, version only") ++ "\n"

/-- A step as it stands in a script; a step without a key has no statements. -/
def Step.scriptText (s : Step) : String :=
  "\n" ++ s.header ++
    (if s.key.isSome then String.join (s.statements.map Statement.scriptText) else "")

/-- A plan as a script. -/
def Plan.script (p : Plan) : String :=
  if p.isEmpty then "-- already at version " ++ Numeral.ofNat p.start ++ "\n"
  else
    "-- migrate from version " ++ Numeral.ofNat p.start ++ " to " ++ Numeral.ofNat p.goal ++ "\n" ++
      String.join (p.steps.map Step.scriptText)

/-! ### JSON -/

/-- A statement as a JSON value. -/
def Statement.toJson : Statement → Json
  | .sql text => .object [("kind", .string "sql"), ("sql", .string text)]
  | .diagnostic text => .object [("kind", .string "diagnostic"), ("sql", .string text)]

/-- Statements as a JSON value. -/
def Statement.listToJson (statements : List Statement) : Json :=
  .array (statements.map Statement.toJson)

/-- A step as a JSON value. -/
def Step.toJson (s : Step) : Json :=
  .object [("direction", .string s.direction.name), ("version", .nat s.version),
    ("key", (s.key.map fun k => Json.string k.text).getD .null),
    ("version_after", .nat s.versionAfter), ("statements", Statement.listToJson s.statements)]

/-- A plan as a JSON value. -/
def Plan.toJson (p : Plan) : Json :=
  .object [("from", .nat p.start), ("to", .nat p.goal), ("steps", .array (p.steps.map Step.toJson))]

end SchemaMigration
