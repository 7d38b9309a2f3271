import SchemaMigration.Proofs.Database.Memory
import SchemaMigration.Proofs.Migrator.Outcome

/-!
# The recorded version

Over a database that serves the version table, the table and the migrator keep one version: what a
migration records is the version that it leaves in the migrator (`rows_migrate`), and that is where
the completed steps lead to (`Outcome.walk`).
-/

namespace SchemaMigration

/-- All SQL that a migration may send, in either direction. -/
def Descriptor.sql (desc : Descriptor) : List String :=
  (desc.upStatements ++ desc.downStatements).filterMap Statement.sql?

/-- No statement of the migrations touches a table. -/
def LeaveAlone {σ : Type} (d : Database σ) (rows : σ → Option (List Json)) (ds : List Descriptor) :
    Prop :=
  ∀ desc ∈ ds, ∀ sql ∈ desc.sql, VersionTable.LeavesAlone d rows sql

namespace LeaveAlone

variable {σ : Type} {d : Database σ} {rows : σ → Option (List Json)} {ds : List Descriptor}
  (h : LeaveAlone d rows ds)
include h

theorem transcribed : LeaveAlone d.transcribed (fun x => rows x.1) ds :=
  fun desc hdesc sql hsql => (h desc hdesc sql hsql).transcribed

theorem disrupted (refuses : Nat → Option DatabaseError) :
    LeaveAlone (d.disrupted refuses) (fun x => rows x.1) ds :=
  fun desc hdesc sql hsql => (h desc hdesc sql hsql).disrupted refuses

end LeaveAlone

/-- A migration that only asks the database to do nothing, in either direction. -/
def Descriptor.probe : Descriptor where
  key := ⟨"001_probe", by decide⟩
  path := "001_probe.yaml"
  up := [.execute (.single "SELECT 1")]
  down := some [.execute (.single "SELECT 0")]

theorem leaveAlone_probe (table : String) :
    LeaveAlone MemoryDatabase.strict (fun db => db.rows? table) [Descriptor.probe] := by
  intro desc hdesc sql hsql
  obtain rfl := List.mem_singleton.mp hdesc
  have hunknown : ∀ sql ∈ Descriptor.probe.sql, (MemoryDatabase.known? sql).isNone := by
    decide +kernel
  exact MemoryDatabase.leavesAlone_strict (Option.isNone_iff_eq_none.mp (hunknown sql hsql))

/-! ### Statements of a plan -/

namespace Plan

variable {ds : List Descriptor}

/-- The statements of a step of a plan are those of one of the migrations. -/
theorem exists_of_mem_migrationSql {a c : Nat} {step : Step} {sql : String}
    (hstep : step ∈ (build ds a c).steps) (hsql : sql ∈ step.migrationSql) :
    ∃ desc ∈ ds, sql ∈ desc.sql := by
  have hmem : sql ∈ step.statements.filterMap Statement.sql? := by
    unfold Step.migrationSql at hsql
    split at hsql
    · exact hsql
    · cases hsql
  obtain ⟨-, hnil⟩ | ⟨desc, hdesc, -, hstatements⟩ := exists_of_mem_build hstep
  · rw [hnil] at hmem
    cases hmem
  · refine ⟨desc, hdesc, ?_⟩
    rw [Descriptor.sql, List.filterMap_append]
    obtain hup | hdown := hstatements
    · exact List.mem_append_left _ (hup ▸ hmem)
    · exact List.mem_append_right _ (hdown ▸ hmem)

end Plan

namespace Migrator

variable {σ : Type} {d : Database σ} {t : VersionTable} {rows : σ → Option (List Json)}
  {m m' : Migrator} {target : Int} {s s' : σ} {result : Except EngineError Report}
  {done : List Step}

/-! ### Where a migration leads to -/

namespace Outcome

theorem exists_rest (h : Outcome d m target s result done m' s') :
    ∃ rest, (m.plan target).steps = done ++ rest := by
  cases h with
  | idle hplan _ hdone => exact ⟨_, by rw [hdone, List.nil_append]⟩
  | unprepared _ _ _ _ hdone => exact ⟨_, by rw [hdone, List.nil_append]⟩
  | complete _ _ _ _ hdone => exact ⟨[], by rw [hdone, List.append_nil]⟩
  | stopped _ hplan => exact ⟨_, hplan⟩

/-- A migration changes nothing in the migrator but its version and what it knows of the table. -/
theorem migrator_eq (h : Outcome d m target s result done m' s') :
    m' = { m with version := reached done m.version, ready := m'.ready } := by
  cases h with
  | idle _ _ hdone hm => rw [hm, hdone]; rfl
  | unprepared _ _ _ _ hdone hm => rw [hm, hdone]; rfl
  | complete _ _ _ _ _ hm => rw [hm]; rfl
  | stopped _ _ _ _ _ hm => rw [hm]; rfl

theorem version_eq (h : Outcome d m target s result done m' s') :
    m'.version = reached done m.version := by
  rw [h.migrator_eq]

theorem table_eq (h : Outcome d m target s result done m' s') : m'.table = m.table := by
  rw [h.migrator_eq]

theorem descriptors_eq (h : Outcome d m target s result done m' s') :
    m'.descriptors = m.descriptors := by
  rw [h.migrator_eq]

theorem ready_of_ready (h : Outcome d m target s result done m' s') (hready : m.ready = true) :
    m'.ready = true := by
  cases h with
  | idle _ _ _ hm => rw [hm, hready]
  | unprepared _ _ _ _ _ hm => rw [hm, hready]
  | complete _ _ _ _ _ hm => rw [hm]; rfl
  | stopped _ _ _ _ _ hm => rw [hm]; rfl

theorem clamp_le (m : Migrator) (target : Int) : m.clamp target ≤ m.descriptors.length :=
  Nat.min_le_right ..

/-- The completed steps lead from the version of the migrator to its version after the migration,
and not past the last migration unless it was past it before. -/
theorem walk (h : Outcome d m target s result done m' s') :
    Walk m.descriptors m.version done m'.version ∧
      (m.version ≤ m.descriptors.length → m'.version ≤ m.descriptors.length) := by
  -- the completed steps begin the plan, so they are the plan to a version on the way
  obtain ⟨rest, hplan⟩ := h.exists_rest
  obtain ⟨b, hb, hdone, -⟩ := Plan.build_eq_append hplan
  have hclamp := clamp_le m target
  rw [h.version_eq, hdone, Plan.reached_build]
  exact ⟨Plan.build_walk .., by omega⟩

/-- The completed steps are for positions between the versions at the ends. -/
theorem version_of_mem (h : Outcome d m target s result done m' s') {step : Step}
    (hstep : step ∈ done) :
    1 ≤ step.version ∧ step.version ≤ max m.version m.descriptors.length := by
  obtain ⟨rest, hplan⟩ := h.exists_rest
  have hmem : step ∈ (m.plan target).steps := hplan ▸ List.mem_append_left rest hstep
  have hclamp := clamp_le m target
  have hversion := Plan.version_of_mem hmem
  omega

theorem exists_of_mem_migrationSql (h : Outcome d m target s result done m' s') {step : Step}
    {sql : String} (hstep : step ∈ done) (hsql : sql ∈ step.migrationSql) :
    ∃ desc ∈ m.descriptors, sql ∈ desc.sql := by
  obtain ⟨rest, hplan⟩ := h.exists_rest
  have hmem : step ∈ (m.plan target).steps := hplan ▸ List.mem_append_left rest hstep
  exact Plan.exists_of_mem_migrationSql hmem hsql

end Outcome

/-! ### What a migration records -/

/-- A step records the version after it, in all rows of the table. -/
theorem rows_step (hd : t.Served d rows) {step : Step} {n v : Nat}
    (hsql : ∀ sql ∈ step.migrationSql, VersionTable.LeavesAlone d rows sql)
    (h : d.Accepts (step.sql t) s s') (hrows : rows s = some (List.replicate n (.nat v))) :
    rows s' = some (List.replicate n (.nat step.versionAfter)) := by
  obtain ⟨s₁, hmigration, hrecord⟩ := h.split
  obtain _ | ⟨hrecord, _ | _⟩ := hrecord
  have hrows₁ := (VersionTable.Served.rows_accepts hsql hmigration).trans hrows
  rw [hd.rows_update hrows₁ hrecord, List.map_replicate]

theorem rows_steps (hd : t.Served d rows) {steps : List Step} {n v : Nat}
    (hsql : ∀ step ∈ steps, ∀ sql ∈ step.migrationSql, VersionTable.LeavesAlone d rows sql)
    (h : d.Accepts (steps.flatMap (Step.sql t)) s s')
    (hrows : rows s = some (List.replicate n (.nat v))) :
    rows s' = some (List.replicate n (.nat (reached steps v))) := by
  induction steps generalizing s v with
  | nil =>
    cases h
    exact hrows
  | cons step rest ih =>
    obtain ⟨s₁, hstep, hrest⟩ := h.split
    rw [reached_cons]
    exact ih (fun step hstep => hsql step (List.mem_cons_of_mem _ hstep)) hrest
      (rows_step hd (hsql step (List.mem_cons_self ..)) hstep hrows)

/-- A step that fails records nothing. -/
theorem rows_failed (hd : t.Served d rows) {step : Step} {before : List String} {sql : String}
    {cause : DatabaseError} {e : EngineError}
    (hsql : ∀ sql ∈ step.migrationSql, VersionTable.LeavesAlone d rows sql)
    (h : d.StopsAt before sql cause s s') (hblames : step.Blames t before sql cause e) :
    rows s' = rows s := by
  refine hd.rows_stopsAt (fun sql hmem => hsql sql ?_) h
  cases hblames with
  | statement _ hparts => exact hparts ▸ List.mem_append_left _ hmem
  | record hbefore => exact hbefore ▸ hmem

theorem rows_prepares (hd : m.table.Served d rows) {cells : List Json}
    (h : m.Prepares d s s') (hrows : rows s = some cells) : rows s' = some cells := by
  obtain ⟨-, rfl⟩ | ⟨-, made, hensures⟩ := h
  · exact hrows
  · exact hd.rows_ensure_some hensures hrows

/-- **What a migration records**: over a database that serves the version table, all rows hold the
version of the migrator after a migration, if they held it before. -/
theorem rows_migrate (hd : m.table.Served d rows) (hsql : LeaveAlone d rows m.descriptors)
    (h : Outcome d m target s result done m' s') {n : Nat}
    (hrows : rows s = some (List.replicate n (.nat m.version))) :
    rows s' = some (List.replicate n (.nat m'.version)) := by
  have hdone : ∀ step ∈ done, ∀ sql ∈ step.migrationSql, VersionTable.LeavesAlone d rows sql := by
    intro step hstep sql hmem
    obtain ⟨desc, hdesc, hdescSql⟩ := h.exists_of_mem_migrationSql hstep hmem
    exact hsql desc hdesc sql hdescSql
  -- only the steps that are completed record a version; making the table and a step that fails
  -- leave the rows as they are
  rw [h.version_eq]
  cases h with
  | idle _ _ hnil _ hs => rw [hs, hnil, hrows, reached_nil]
  | unprepared _ _ hensures _ hnil => rw [hd.rows_ensure_some hensures hrows, hnil, reached_nil]
  | complete _ hprepares haccepts _ hall =>
    rw [← hall] at haccepts
    exact rows_steps hd hdone haccepts (rows_prepares hd hprepares hrows)
  | @stopped s₁ step _ _ _ _ _ hprepares hplan hstops hblames =>
    obtain ⟨s₂, hbefore, hrefused⟩ := hstops
    obtain ⟨s₃, haccepts, hpart⟩ := hbefore.split
    have hstep : step ∈ (m.plan target).steps := by rw [hplan]; simp
    have hstepSql : ∀ sql ∈ step.migrationSql, VersionTable.LeavesAlone d rows sql := by
      intro sql hmem
      obtain ⟨desc, hdesc, hdescSql⟩ := Plan.exists_of_mem_migrationSql hstep hmem
      exact hsql desc hdesc sql hdescSql
    rw [rows_failed hd hstepSql ⟨s₂, hpart, hrefused⟩ hblames]
    exact rows_steps hd hdone haccepts (rows_prepares hd hprepares hrows)

end Migrator
end SchemaMigration
