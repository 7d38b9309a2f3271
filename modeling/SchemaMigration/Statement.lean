/-!
# Statements

What a migration step is made of: SQL that is sent to the database, and diagnostics, which are
reported and never sent.
-/

namespace SchemaMigration

/-- One compiled statement. -/
inductive Statement where
  /-- SQL to send to the database -/
  | sql (text : String)
  /-- A comment to report -/
  | diagnostic (text : String)
  deriving DecidableEq, Repr, Inhabited

namespace Statement

/-- The comment that stands for a step with nothing to run. -/
def noDownText : String :=
  "-- no DOWN specified. If this is a CREATE table or ADD COLUMN - it will be generated for you"

/-- The diagnostic that stands for a step with nothing to run. -/
def noOp : Statement := .diagnostic noDownText

/-- The text as it stands in a script. -/
def text : Statement → String
  | .sql text => text
  | .diagnostic text => text

/-- Whether the statement is sent to the database. -/
def isExecutable : Statement → Bool
  | .sql _ => true
  | .diagnostic _ => false

/-- The SQL of a statement that is sent to the database. -/
def sql? : Statement → Option String
  | .sql text => some text
  | .diagnostic _ => none

end Statement
end SchemaMigration
