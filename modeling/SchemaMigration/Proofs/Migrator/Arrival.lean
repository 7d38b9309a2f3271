import SchemaMigration.Proofs.Migrator.Opening
import SchemaMigration.Proofs.Migrator.Projection
import SchemaMigration.Proofs.Migrator.Recorded

/-!
# Migrations on a database that refuses nothing

`VersionTable.Obliges` adds to `VersionTable.ServedWhile` that the database also takes what the
steps of a migration send.  Then a migrator is opened at the version that is in the first row of the
version table (`bind_arrives`), and a migration takes it to the version nearest to its target, which
then is in the first row (`migrate_arrives`).  A step records its version and leaves the database as
obliging as it was (`runStep_arrives`), and so do all of them (`runSteps_arrives`).
-/

namespace SchemaMigration

namespace VersionTable

variable {σ : Type}

/-- As long as it is calm, the database refuses nothing that opens a migrator or that a migration
with the migrations `ds` sends, whose own statements do not touch the version table. -/
structure Obliges (t : VersionTable) (d : Database σ) (ds : List Descriptor)
    (rows : σ → Option (List Json)) (calm : σ → Prop) : Prop extends
    t.ServedWhile d rows calm where
  /-- a version is recorded in all rows -/
  execute_updateSql : ∀ {version s cells}, calm s → rows s = some cells →
    version < 0x8000000000000000 → ∃ n s', d.execute (t.updateSql version) s = (.ok n, s') ∧
      calm s' ∧ rows s' = some (cells.map fun _ => .nat version)
  /-- a statement of a migration is taken -/
  execute_migration : ∀ {desc sql s}, desc ∈ ds → sql ∈ desc.sql → calm s →
    ∃ n s', d.execute sql s = (.ok n, s') ∧ calm s' ∧ rows s' = rows s

/-- The version is in the first row of the table. -/
def Holds (rows : σ → Option (List Json)) (version : Nat) (s : σ) : Prop :=
  ∃ rest, rows s = some (.nat version :: rest)

theorem holds_iff {rows : σ → Option (List Json)} {version : Nat} {s : σ} :
    Holds rows version s ↔ ((rows s).bind List.head?).bind Json.int? = some (version : Int) := by
  simp only [Holds, Option.bind_eq_some_iff, Json.int?_eq_some_iff, List.head?_eq_some_iff]
  constructor
  · rintro ⟨rest, hrows⟩
    exact ⟨.nat version, ⟨_, hrows, rest, rfl⟩, rfl⟩
  · rintro ⟨_, ⟨_, hrows, rest, rfl⟩, rfl⟩
    exact ⟨rest, hrows⟩

/-- The version at which a database is: without a table it is zero. -/
def IsAt (rows : σ → Option (List Json)) (version : Nat) (s : σ) : Prop :=
  rows s = none ∧ version = 0 ∨ Holds rows version s

end VersionTable

namespace Migrator
open VersionTable (Holds IsAt)

variable {σ : Type} {d : Database σ} {t : VersionTable} {ds : List Descriptor}
  {rows : σ → Option (List Json)} {calm : σ → Prop} {m : Migrator} {r : Run σ} {s : σ} {v : Nat}

/-! ### Opening -/

/-- A migrator is opened at the version of the database, and the table is there afterwards. -/
theorem bind_arrives (hd : t.ServedWhile d rows calm) (ds : List Descriptor) (hs : calm s)
    (hv : v < 0x8000000000000000) (hstart : IsAt rows v s) :
    ∃ log s', bind d ds t true s = (.ok ⟨t, ds, v, true⟩, log, s') ∧ calm s' ∧
      Holds rows v s' := by
  -- the calls are looked at with a transcript, which does not matter to what comes of them
  have hplain := d.transcribed_projects.bind_eq ds t true (s, [])
  obtain ⟨hnone, rfl⟩ | ⟨rest, hrows⟩ := hstart
  · obtain ⟨log, s', refusal, hcalm, hrows', hmade⟩ := bind_made_calm hd hs hnone ds
    rw [hmade] at hplain
    exact ⟨log, s', hplain, hcalm, [], hrows'⟩
  · obtain ⟨verdict, log, refusal, hverdict, hpresent⟩ := bind_present hd hs hrows ds true
    obtain rfl : verdict = .ok v := (hverdict.ok_iff v).mpr ⟨rfl, hv⟩
    rw [hpresent] at hplain
    exact ⟨log, s, hplain, hs, rest, hrows⟩

/-! ### Steps -/

section
variable (hd : t.Obliges d ds rows calm)
include hd

theorem runStatements_arrives (step : Step) (key : MigrationKey) {ss : List Statement}
    (hss : ∀ sql ∈ ss.filterMap Statement.sql?, ∃ desc ∈ ds, sql ∈ desc.sql)
    (hcalm : calm r.database) :
    ∃ r', runStatements d step key ss r = (.ok (), r') ∧ r'.migrator = r.migrator ∧
      calm r'.database ∧ rows r'.database = rows r.database := by
  -- each statement leaves the rest a database that is as calm
  induction ss generalizing r with
  | nil => exact ⟨r, rfl, rfl, hcalm, rfl⟩
  | cons statement rest ih =>
    cases statement with
    | diagnostic text =>
      rw [runStatements]
      exact ih hss (r := r.note [⟨.warn, key.text ++ ": " ++ text⟩]) hcalm
    | sql sql =>
      have hfirst : ∀ x ∈ sql :: rest.filterMap Statement.sql?, ∃ desc ∈ ds, x ∈ desc.sql := hss
      obtain ⟨⟨desc, hdesc, hsql⟩, hrest⟩ := List.forall_mem_cons.mp hfirst
      obtain ⟨n, s', hexecute, hcalm', hrows'⟩ := hd.execute_migration hdesc hsql hcalm
      obtain ⟨r', hrun, hmigrator, hdone⟩ :=
        ih hrest (r := { r.note [⟨.debug, sql⟩] with database := s' }) hcalm'
      refine ⟨r', ?_, hmigrator, hdone.1, hdone.2.trans hrows'⟩
      rw [runStatements]
      simp only [Run.note, hexecute] at hrun ⊢
      exact hrun

theorem recordVersion_arrives {version : Nat} (htable : r.migrator.table = t)
    (hversion : version < 0x8000000000000000) (hcalm : calm r.database)
    (hholds : Holds rows v r.database) :
    ∃ r', recordVersion d version r = (.ok (), r') ∧
      r'.migrator = { r.migrator with version } ∧ calm r'.database ∧
      Holds rows version r'.database := by
  obtain ⟨rest, hrows⟩ := hholds
  obtain ⟨n, s', hexecute, hcalm', hrows'⟩ := hd.execute_updateSql hcalm hrows hversion
  refine ⟨{ r with
    migrator := { r.migrator with version }
    report := { r.report with goal := version }
    database := s' }, ?_, rfl, hcalm', _, hrows'⟩
  simp only [recordVersion, VersionTable.write, VersionTable.send, htable, hexecute]

/-- A step whose statements are those of migrations records the version after it. -/
theorem runStep_arrives {step : Step} (htable : r.migrator.table = t)
    (hstep : ∀ sql ∈ step.migrationSql, ∃ desc ∈ ds, sql ∈ desc.sql)
    (hversion : step.versionAfter < 0x8000000000000000) (hcalm : calm r.database)
    (hholds : Holds rows v r.database) :
    ∃ r', runStep d step r = (.ok (), r') ∧ r'.migrator = r.migrator.after [step] ∧
      calm r'.database ∧ Holds rows step.versionAfter r'.database := by
  cases hkey : step.key with
  | none =>
    simp only [runStep, hkey]
    exact recordVersion_arrives hd (r := r.note [stepRecord step]) htable hversion hcalm hholds
  | some key =>
    rw [Step.migrationSql_of_key_some hkey] at hstep
    obtain ⟨r₁, hrun, hmigrator, hcalm₁, hrows₁⟩ := runStatements_arrives hd step key
      (r := r.note [stepRecord step]) hstep hcalm
    -- the statements of the migration have left the version table alone
    have hholds₁ : Holds rows v r₁.database := hholds.imp fun _ hrows => hrows₁.trans hrows
    have htable₁ : r₁.migrator.table = t := (congrArg Migrator.table hmigrator).trans htable
    obtain ⟨r', hrecord, hmigrator', hdone⟩ :=
      recordVersion_arrives hd htable₁ hversion hcalm₁ hholds₁
    refine ⟨r'.complete key, ?_, ?_, hdone⟩
    · simp only [runStep, hkey, hrun, hrecord]
    · show r'.migrator = _
      rw [hmigrator', hmigrator]
      rfl

/-- Steps that are obliged are all completed, and the version that they lead to is recorded. -/
theorem runSteps_arrives {steps : List Step} (htable : r.migrator.table = t)
    (hsteps : ∀ step ∈ steps, step.versionAfter < 0x8000000000000000 ∧
      ∀ sql ∈ step.migrationSql, ∃ desc ∈ ds, sql ∈ desc.sql)
    (hcalm : calm r.database) (hholds : Holds rows r.migrator.version r.database) :
    ∃ r', runSteps d steps r = (.ok (), r') ∧ r'.migrator = r.migrator.after steps ∧
      calm r'.database ∧ Holds rows r'.migrator.version r'.database := by
  -- the invariant is that the database is calm and the version of the migrator is recorded in it
  induction steps generalizing r with
  | nil => exact ⟨r, rfl, rfl, hcalm, hholds⟩
  | cons step rest ih =>
    obtain ⟨⟨hversion, hstep⟩, hrest⟩ := List.forall_mem_cons.mp hsteps
    obtain ⟨r₁, hrun, hmigrator, hcalm₁, hholds₁⟩ :=
      runStep_arrives hd htable hstep hversion hcalm hholds
    have htable₁ : r₁.migrator.table = t := (congrArg Migrator.table hmigrator).trans htable
    have hversion₁ : r₁.migrator.version = step.versionAfter := congrArg Migrator.version hmigrator
    rw [← hversion₁] at hholds₁
    obtain ⟨r', hruns, hmigrator', hdone⟩ := ih htable₁ hrest hcalm₁ hholds₁
    refine ⟨r', ?_, ?_, hdone⟩
    · simp only [runSteps, hrun, hruns]
    · rw [hmigrator', hmigrator]
      simp [after]

/-! ### Migrating -/

/-- **Arrival**: a migration takes the database to the version nearest to its target. -/
theorem migrate_arrives (target : Int) (htable : m.table = t) (hds : m.descriptors = ds)
    (hready : m.ready = true) (hversion : m.version < 0x8000000000000000)
    (hlatest : m.latest < 0x8000000000000000) (hcalm : calm s) (hholds : Holds rows m.version s) :
    ∃ r, migrate d m target s = (.ok (reportOf (m.plan target)), r) ∧
      r.migrator = { m with version := m.clamp target } ∧ calm r.database ∧
      Holds rows (m.clamp target) r.database := by
  have hclamp : m.clamp target < 0x8000000000000000 :=
    Nat.lt_of_le_of_lt (Nat.min_le_right _ _) hlatest
  -- no step goes past a version that fits, or runs what no migration holds
  have hsteps : ∀ step ∈ (m.plan target).steps, step.versionAfter < 0x8000000000000000 ∧
      ∀ sql ∈ step.migrationSql, ∃ desc ∈ ds, sql ∈ desc.sql := by
    intro step hstep
    refine ⟨?_, fun sql hsql => hds ▸ Plan.exists_of_mem_migrationSql hstep hsql⟩
    have hmax := (Plan.version_of_mem hstep).2
    obtain ⟨p, rfl | rfl⟩ := Plan.eq_of_mem_build hstep
    · simp only [Plan.upStep] at hmax ⊢
      omega
    · simp only [Plan.downStep, Plan.revertStep] at hmax ⊢
      omega
  have hreached : m.after (m.plan target).steps = { m with version := m.clamp target } := by
    rw [after, plan, Plan.reached_build]
  -- without steps the migrator is at the version that is wanted already
  by_cases hempty : (m.plan target).isEmpty = true
  · have hnil : (m.plan target).steps = [] := List.isEmpty_iff.mp hempty
    have hsame : m.version = m.clamp target := by
      rw [hnil] at hreached
      exact congrArg Migrator.version hreached
    have hreport := after_startReport (m.plan target)
    rw [hnil] at hreport
    simp only [migrate, hempty, if_true]
    refine ⟨_, congrArg (Except.ok ·, _) hreport, ?_, hcalm, hsame ▸ hholds⟩
    rw [← hreached, hnil]
    rfl
  · obtain ⟨r, hrun, hmigrator, hcalm', hholds'⟩ := runSteps_arrives hd
      (r := startRun m target s) htable hsteps hcalm hholds
    rw [hmigrator] at hholds'
    have hreport : r.report = reportOf (m.plan target) :=
      (report_runSteps hrun).trans (after_startReport (m.plan target))
    refine ⟨r.note [finishRecord r.report], ?_, hmigrator.trans hreached, hcalm', ?_⟩
    · have hready' : (startRun m target s).migrator.ready = true := hready
      simp only [migrate, hempty, Bool.false_eq_true, if_false, prepare, hready', if_true, hrun,
        hreport]
    · have hversion' : (m.after (m.plan target).steps).version = m.clamp target := by rw [hreached]
      exact hversion' ▸ hholds'

end

end Migrator
end SchemaMigration
