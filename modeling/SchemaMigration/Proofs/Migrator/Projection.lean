import SchemaMigration.Migrator
import SchemaMigration.Proofs.Database.Transcript

/-!
# Databases that keep more than they need

`Database.Projects f d d'`: the database `d` keeps in its states more than `d'`, and its answers do
not depend on what `f` leaves out of them.  Then every use of the version table, opening a migrator
and every migration comes to the same on both, up to `f` (`bind_eq`, `migrate_eq`).  So it is for
the databases that keep a transcript (`transcribed_projects`), and `Migrator.transcript` is the one
of a migration.
-/

namespace SchemaMigration

variable {σ τ : Type}

/-- The database `d` answers as `d'` does, and `f` takes its states to those of `d'`. -/
structure Database.Projects (f : σ → τ) (d : Database σ) (d' : Database τ) : Prop where
  execute_eq : ∀ sql x, d'.execute sql (f x) = Prod.map id f (d.execute sql x)
  query_eq : ∀ sql x, d'.query sql (f x) = Prod.map id f (d.query sql x)

/-- What a transcript adds to the states does not show in the answers. -/
theorem Database.transcribed_projects (d : Database σ) : d.transcribed.Projects Prod.fst d where
  execute_eq _ _ := rfl
  query_eq _ _ := rfl

/-- The run with the state of its database projected. -/
def Migrator.Run.map (f : σ → τ) (r : Migrator.Run σ) : Migrator.Run τ where
  migrator := r.migrator
  log := r.log
  report := r.report
  database := f r.database

theorem Migrator.Run.map_note (f : σ → τ) (r : Migrator.Run σ) (records : List LogRecord) :
    (r.note records).map f = (r.map f).note records := rfl

namespace Database.Projects

variable {f : σ → τ} {d : Database σ} {d' : Database τ} (h : d.Projects f d')
include h

/-! ### The version table -/

theorem send_eq (t : VersionTable) (sql : String) (x : σ) :
    t.send d' sql (f x) = Prod.map id f (t.send d sql x) := by
  -- both sides depend on the state through the answer only
  unfold VersionTable.send
  rw [h.execute_eq]
  obtain ⟨answer, y⟩ := d.execute sql x
  cases answer <;> rfl

theorem ask_eq (t : VersionTable) (sql : String) (x : σ) :
    t.ask d' sql (f x) = Prod.map id f (t.ask d sql x) := by
  unfold VersionTable.ask
  rw [h.query_eq]
  obtain ⟨answer, y⟩ := d.query sql x
  cases answer <;> rfl

theorem isThere_eq (t : VersionTable) (x : σ) :
    t.isThere d' (f x) = Prod.map id f (t.isThere d x) := by
  unfold VersionTable.isThere
  rw [h.ask_eq]
  obtain ⟨answer, y⟩ := t.ask d t.existsSql x
  cases answer <;> rfl

theorem create_eq (t : VersionTable) (x : σ) :
    t.create d' (f x) = Prod.map id f (t.create d x) := by
  unfold VersionTable.create
  rw [h.send_eq]
  obtain ⟨answer, y⟩ := t.send d t.createSql x
  cases answer with
  | error e => rfl
  | ok _ => exact h.send_eq t t.initSql y

/-- Both make the table, or neither does. -/
theorem ensure_eq (t : VersionTable) (x : σ) :
    t.ensure d' (f x) = Prod.map id (Prod.map id f) (t.ensure d x) := by
  unfold VersionTable.ensure
  rw [h.isThere_eq]
  obtain ⟨answer, y⟩ := t.isThere d x
  cases answer with
  | error e => rfl
  | ok there =>
    cases there with
    | true => rfl
    | false =>
      simp only [Prod.map_apply, id]
      rw [h.create_eq]
      obtain ⟨answer, z⟩ := t.create d y
      cases answer <;> rfl

theorem read_eq (t : VersionTable) (x : σ) : t.read d' (f x) = Prod.map id f (t.read d x) := by
  unfold VersionTable.read
  rw [h.ask_eq]
  obtain ⟨answer, y⟩ := t.ask d t.readSql x
  cases answer <;> rfl

/-! ### Opening a migrator -/

theorem storedVersion_eq (t : VersionTable) (bootstrap : Bool) (x : σ) :
    Migrator.storedVersion d' t bootstrap (f x) =
      Prod.map id (Prod.map id f) (Migrator.storedVersion d t bootstrap x) := by
  unfold Migrator.storedVersion
  -- each call gives the same answer on both sides, so both take the same branch
  cases bootstrap with
  | true =>
    simp only [if_true]
    rw [h.ensure_eq]
    obtain ⟨answer, log, y⟩ := t.ensure d x
    cases answer with
    | error e => rfl
    | ok made =>
      simp only [Prod.map_apply, id]
      rw [h.read_eq]
      obtain ⟨answer, z⟩ := t.read d y
      cases answer <;> rfl
  | false =>
    simp only [Bool.false_eq_true, if_false]
    rw [h.isThere_eq]
    obtain ⟨answer, y⟩ := t.isThere d x
    cases answer with
    | error e => rfl
    | ok there =>
      cases there with
      | false => rfl
      | true =>
        simp only [Prod.map_apply, id]
        rw [h.read_eq]
        obtain ⟨answer, z⟩ := t.read d y
        cases answer <;> rfl

theorem bind_eq (ds : List Descriptor) (t : VersionTable) (bootstrap : Bool) (x : σ) :
    Migrator.bind d' ds t bootstrap (f x) =
      Prod.map id (Prod.map id f) (Migrator.bind d ds t bootstrap x) := by
  unfold Migrator.bind
  rw [h.storedVersion_eq]
  obtain ⟨answer, log, y⟩ := Migrator.storedVersion d t bootstrap x
  cases answer <;> rfl

/-! ### Migrating -/

theorem runStatements_eq (step : Step) (key : MigrationKey) (ss : List Statement)
    (r : Migrator.Run σ) :
    Migrator.runStatements d' step key ss (r.map f) =
      Prod.map id (Migrator.Run.map f) (Migrator.runStatements d step key ss r) := by
  induction ss generalizing r with
  | nil => rfl
  | cons statement rest ih =>
    cases statement with
    | diagnostic text =>
      rw [Migrator.runStatements, Migrator.runStatements]
      exact ih (r.note [⟨.warn, key.text ++ ": " ++ text⟩])
    | sql sql =>
      rw [Migrator.runStatements, Migrator.runStatements]
      simp only [Migrator.Run.note, Migrator.Run.map]
      rw [h.execute_eq]
      obtain ⟨answer, y⟩ := d.execute sql r.database
      cases answer with
      | error e => rfl
      | ok n => exact ih { r.note [⟨.debug, sql⟩] with database := y }

theorem recordVersion_eq (version : Nat) (r : Migrator.Run σ) :
    Migrator.recordVersion d' version (r.map f) =
      Prod.map id (Migrator.Run.map f) (Migrator.recordVersion d version r) := by
  unfold Migrator.recordVersion VersionTable.write
  simp only [Migrator.Run.map]
  rw [h.send_eq]
  obtain ⟨answer, y⟩ := r.migrator.table.send d (r.migrator.table.updateSql version) r.database
  cases answer <;> rfl

theorem runStep_eq (step : Step) (r : Migrator.Run σ) :
    Migrator.runStep d' step (r.map f) =
      Prod.map id (Migrator.Run.map f) (Migrator.runStep d step r) := by
  unfold Migrator.runStep
  cases step.key with
  | none => exact h.recordVersion_eq step.versionAfter (r.note [Migrator.stepRecord step])
  | some key =>
    -- the two runs go on from states that the projection relates
    have hstatements :=
      h.runStatements_eq step key step.statements (r.note [Migrator.stepRecord step])
    rw [Migrator.Run.map_note] at hstatements
    simp only [hstatements]
    obtain ⟨answer, r₁⟩ :=
      Migrator.runStatements d step key step.statements (r.note [Migrator.stepRecord step])
    cases answer with
    | error e => rfl
    | ok _ =>
      simp only [Prod.map_apply, id]
      rw [h.recordVersion_eq]
      obtain ⟨answer, r₂⟩ := Migrator.recordVersion d step.versionAfter r₁
      cases answer <;> rfl

theorem runSteps_eq (steps : List Step) (r : Migrator.Run σ) :
    Migrator.runSteps d' steps (r.map f) =
      Prod.map id (Migrator.Run.map f) (Migrator.runSteps d steps r) := by
  induction steps generalizing r with
  | nil => rfl
  | cons step rest ih =>
    rw [Migrator.runSteps, Migrator.runSteps, h.runStep_eq]
    obtain ⟨answer, r₁⟩ := Migrator.runStep d step r
    cases answer with
    | error e => rfl
    | ok _ => exact ih r₁

theorem prepare_eq (r : Migrator.Run σ) :
    Migrator.prepare d' (r.map f) = Prod.map id (Migrator.Run.map f) (Migrator.prepare d r) := by
  unfold Migrator.prepare
  cases hready : r.migrator.ready with
  | true =>
    have hready' : (r.map f).migrator.ready = true := hready
    simp only [hready', if_true]
    rfl
  | false =>
    have hready' : (r.map f).migrator.ready = false := hready
    simp only [hready', Bool.false_eq_true, if_false]
    simp only [Migrator.Run.map]
    rw [h.ensure_eq]
    obtain ⟨answer, log, y⟩ := r.migrator.table.ensure d r.database
    cases answer <;> rfl

/-- A migration comes to the same on both databases. -/
theorem migrate_eq (m : Migrator) (target : Int) (x : σ) :
    Migrator.migrate d' m target (f x) =
      Prod.map id (Migrator.Run.map f) (Migrator.migrate d m target x) := by
  have hstart : Migrator.startRun m target (f x) = (Migrator.startRun m target x).map f := rfl
  unfold Migrator.migrate
  by_cases hempty : (m.plan target).isEmpty = true
  · simp only [hempty, if_true]
    rfl
  · simp only [hempty, Bool.false_eq_true, if_false]
    rw [hstart, h.prepare_eq]
    obtain ⟨answer, r₁⟩ := Migrator.prepare d (Migrator.startRun m target x)
    cases answer with
    | error e => rfl
    | ok _ =>
      simp only [Prod.map_apply, id]
      rw [h.runSteps_eq]
      obtain ⟨answer, r₂⟩ := Migrator.runSteps d (m.plan target).steps r₁
      cases answer <;> rfl

end Database.Projects

/-! ### The transcript of a migration -/

namespace Migrator

/-- The calls of a migration with their answers, in order. -/
def transcript (d : Database σ) (m : Migrator) (target : Int) (s : σ) : List Exchange :=
  (migrate d.transcribed m target (s, [])).2.database.2

/-- A migration that keeps a transcript is the same migration. -/
theorem migrate_transcribed {d : Database σ} {m : Migrator} {target : Int} {s : σ}
    {result : Except EngineError Report} {r : Run σ} (h : migrate d m target s = (result, r)) :
    ∃ r' : Run (σ × List Exchange), migrate d.transcribed m target (s, []) = (result, r') ∧
      r'.migrator = r.migrator ∧ r'.database = (r.database, transcript d m target s) := by
  have heq := d.transcribed_projects.migrate_eq m target (s, [])
  rw [h] at heq
  obtain ⟨hresult, hr⟩ := Prod.mk.inj heq
  refine ⟨_, Prod.ext hresult.symm rfl, ?_, ?_⟩
  · rw [hr]
    rfl
  · rw [hr]
    rfl

end Migrator
end SchemaMigration
