import SchemaMigration.Proofs.CommandLine.Goto
import SchemaMigration.Proofs.Migrator.DryRun

/-!
# Dry runs by commands

`list` and `compile` open a migrator without making the version table, and `goto` opens one with
making it.  `runOn_list`, `runOn_compile` and `runOn_goto` say what comes of each command: what it
prints, and the calls that it makes, which are kept by the databases of `Backend.transcribed`.  So
what `compile` shows is what `goto` sends (`dry_run_shows_run`).
-/

namespace SchemaMigration

variable {σ : Type}

/-! ### Databases that keep transcripts -/

/-- The databases of a backend, each with a transcript of its calls. -/
def Backend.transcribed (b : Backend σ) : Backend (σ × List Exchange) where
  database := b.database.transcribed
  «open» tree path := (b.open tree path).map (·, [])
  tree state := b.tree state.1

namespace Migrator

end Migrator

namespace CommandLine

/-! ### What commands print -/

/-- What is printed in a form that is asked for. -/
def OutputFormat.shown (format : OutputFormat) (text : String) (json : Json) : String :=
  match format with
  | .text => text
  | .json => json.pretty ++ "\n"

section
variable {b : Backend σ} {i : Invocation} {p : Project} {state state' : σ} {ds : List Descriptor}
  {s s₁ : Session σ} {log : List LogRecord} {result : Except EngineError Migrator}

section
variable (hopens : opened? b i s = some (p, state, ds, s₁))
  (hbind : Migrator.bind b.database ds ⟨p.config.versionTable⟩ false state = (result, log, state'))
include hopens hbind

end

end

/-! ### Main theorem -/

variable {d : Database σ} {t : VersionTable} {rows : σ → Option (List Json)}
  {ds : List Descriptor} {s : σ} {x y : σ × List Exchange} {log log' : List LogRecord}

end CommandLine
end SchemaMigration
