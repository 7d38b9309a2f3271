import SchemaMigration.Migrator
import SchemaMigration.Proofs.Database.Transcript
import SchemaMigration.Proofs.Plan.Walk

/-!
# What the steps of a plan do to a database

A step sends `Step.sql`: the statements of its migration, then the one that records the version
after it.  `runSteps_cases` says what comes of a list of steps: the database accepts all that they
send, or it stops inside one of them, and then `Step.Blames` names the error.  `completed` are the
steps whose version has been recorded.  The report of a run grows with each of them
(`report_runSteps`), so that in the end it is the one of the plan (`reportOf`).
-/

namespace SchemaMigration

/-! ### What a step sends -/

namespace Step

/-- The statements of the migration of a step; a step without a key sends none. -/
def migrationSql (step : Step) : List String :=
  if step.key.isSome then step.statements.filterMap Statement.sql? else []

/-- All that a step sends: the statements of its migration, and the one that records the version
after it. -/
def sql (t : VersionTable) (step : Step) : List String :=
  step.migrationSql ++ [t.updateSql step.versionAfter]

theorem migrationSql_of_key_none {step : Step} (h : step.key = none) : step.migrationSql = [] := by
  simp [migrationSql, h]

theorem migrationSql_of_key_some {step : Step} {key : MigrationKey} (h : step.key = some key) :
    step.migrationSql = step.statements.filterMap Statement.sql? := by
  simp [migrationSql, h]

/-- The error `e` of a step that sends `before` and whose next statement `sql` is refused: it names
a statement of the migration, and for the statement that records the version it is one of the
version table. -/
inductive Blames (t : VersionTable) (step : Step) (before : List String) (sql : String)
    (cause : DatabaseError) (e : EngineError) : Prop where
  | statement {key : MigrationKey} {after : List String} (hkey : step.key = some key)
      (hsql : step.migrationSql = before ++ sql :: after)
      (he : e = .statementFailed step.version key.text step.direction.name sql cause)
  | record (hbefore : before = step.migrationSql) (hsql : sql = t.updateSql step.versionAfter)
      (he : e = t.engineError cause)

/-- A statement that a step is blamed for is one that the step sends. -/
theorem Blames.isPrefix {t : VersionTable} {step : Step} {before : List String} {sql : String}
    {cause : DatabaseError} {e : EngineError} (h : step.Blames t before sql cause e) :
    before ++ [sql] <+: step.sql t := by
  cases h with
  | @statement key after hkey hsql he =>
    refine ⟨after ++ [t.updateSql step.versionAfter], ?_⟩
    rw [Step.sql, hsql, List.append_assoc, List.append_assoc, List.singleton_append,
      List.cons_append]
  | record hbefore hsql he =>
    rw [hbefore, hsql]
    exact List.prefix_rfl

end Step

/-! ### Reports -/

/-- The report when further steps have been completed: the version after the last of them, and the
keys of their migrations. -/
def Report.after (report : Report) (steps : List Step) : Report :=
  { report with
    goal := reached steps report.goal
    keys := report.keys ++ steps.filterMap Step.key }

theorem Report.after_cons (report : Report) (step : Step) (rest : List Step) :
    (report.after [step]).after rest = report.after (step :: rest) := by
  simp only [after, reached_cons, reached_nil, List.append_assoc, ← List.filterMap_append,
    List.singleton_append]

/-- The report of a plan that has been run. -/
def Migrator.reportOf (plan : Plan) : Report where
  start := plan.start
  goal := (plan.steps.getLast?.map Step.versionAfter).getD plan.start
  direction := plan.steps.head?.map Step.direction
  keys := plan.steps.filterMap Step.key

namespace Migrator

theorem after_startReport (plan : Plan) : (startReport plan).after plan.steps = reportOf plan := rfl

/-- The migrator at the version that steps lead to. -/
def after (m : Migrator) (steps : List Step) : Migrator :=
  { m with version := reached steps m.version }

/-! ### Running steps -/

section

variable {σ : Type} (d : Database σ)

/-- The steps that a run of steps completes: those whose version is recorded before the first that
fails. -/
def completed : List Step → Run σ → List Step
  | [], _ => []
  | step :: rest, r =>
    match runStep d step r with
    | (.error _, _) => []
    | (.ok _, r) => step :: completed rest r

variable {d} {r r' : Run σ} {result : Except EngineError Unit}

/-- The statements of a migration are accepted, or one of them is refused, and it is in the
error. -/
theorem runStatements_cases {step : Step} {key : MigrationKey} {ss : List Statement}
    (h : runStatements d step key ss r = (result, r')) :
    r'.migrator = r.migrator ∧
    ((result = .ok () ∧ d.Accepts (ss.filterMap Statement.sql?) r.database r'.database) ∨
      ∃ before sql after cause, ss.filterMap Statement.sql? = before ++ sql :: after ∧
        d.StopsAt before sql cause r.database r'.database ∧
        result = .error (statementError step key sql cause)) := by
  -- the rest runs in the state that the first statement leaves, so `r` is not fixed
  induction ss generalizing r with
  | nil =>
    obtain ⟨rfl, rfl⟩ := Prod.mk.inj h
    exact ⟨rfl, .inl ⟨rfl, .nil _⟩⟩
  | cons statement rest ih =>
    cases statement with
    | diagnostic text =>
      rw [runStatements] at h
      have hrest := ih h
      exact hrest
    | sql sql =>
      rw [runStatements] at h
      simp only [Run.note] at h
      split at h
      · next e state hexecute =>
        obtain ⟨rfl, rfl⟩ := Prod.mk.inj h
        exact ⟨rfl, .inr ⟨[], sql, _, e, rfl, Database.stopsAt_nil hexecute, rfl⟩⟩
      · next n state hexecute =>
        obtain ⟨hmigrator, hok | hstop⟩ := ih h
        · exact ⟨hmigrator, .inl ⟨hok.1, .cons hexecute hok.2⟩⟩
        · obtain ⟨before, sql', after, cause, hsql, hstops, hresult⟩ := hstop
          refine ⟨hmigrator, .inr ⟨sql :: before, sql', after, cause, ?_, ?_, hresult⟩⟩
          · show sql :: rest.filterMap Statement.sql? = _
            rw [hsql, List.cons_append]
          · exact (Database.Accepts.single hexecute).stopsAt hstops

theorem recordVersion_cases {version : Nat} (h : recordVersion d version r = (result, r')) :
    (result = .ok () ∧ r'.migrator = { r.migrator with version } ∧
      d.Accepts [r.migrator.table.updateSql version] r.database r'.database) ∨
    ∃ cause, result = .error (r.migrator.table.engineError cause) ∧ r'.migrator = r.migrator ∧
      d.StopsAt [] (r.migrator.table.updateSql version) cause r.database r'.database := by
  unfold recordVersion VersionTable.write VersionTable.send at h
  cases hexecute : d.execute (r.migrator.table.updateSql version) r.database with
  | mk answer state =>
    cases answer with
    | ok n =>
      rw [hexecute] at h
      obtain ⟨rfl, rfl⟩ := Prod.mk.inj h
      exact .inl ⟨rfl, rfl, .single hexecute⟩
    | error cause =>
      rw [hexecute] at h
      obtain ⟨rfl, rfl⟩ := Prod.mk.inj h
      exact .inr ⟨cause, rfl, rfl, Database.stopsAt_nil hexecute⟩

/-- A step is completed when the database accepts all that it sends. -/
theorem runStep_cases {step : Step} (h : runStep d step r = (result, r')) :
    (result = .ok () ∧ r'.migrator = r.migrator.after [step] ∧
      d.Accepts (step.sql r.migrator.table) r.database r'.database) ∨
    ∃ before sql cause e, result = .error e ∧ r'.migrator = r.migrator ∧
      d.StopsAt before sql cause r.database r'.database ∧
      step.Blames r.migrator.table before sql cause e := by
  unfold runStep at h
  simp only [Run.note] at h
  -- a step without a migration has no statements but the one that records the version
  cases hkey : step.key with
  | none =>
    simp only [hkey] at h
    rw [Step.sql, Step.migrationSql_of_key_none hkey, List.nil_append]
    obtain ⟨hresult, hmigrator, haccepts⟩ | ⟨cause, hresult, hmigrator, hstops⟩ :=
      recordVersion_cases h
    · exact .inl ⟨hresult, hmigrator, haccepts⟩
    · exact .inr ⟨[], _, cause, _, hresult, hmigrator, hstops,
        .record (Step.migrationSql_of_key_none hkey).symm rfl rfl⟩
  | some key =>
    simp only [hkey] at h
    have hsql := Step.migrationSql_of_key_some hkey
    -- the version is recorded only behind statements that have all been accepted
    split at h
    · next e r₁ hrun =>
      obtain ⟨rfl, rfl⟩ := Prod.mk.inj h
      obtain ⟨hmigrator, hok | ⟨before, sql, after, cause, hss, hstops, hresult⟩⟩ :=
        runStatements_cases hrun
      · cases hok.1
      · exact .inr ⟨before, sql, cause, e, rfl, hmigrator, hstops,
          .statement hkey (hsql.trans hss) (Except.error.inj hresult)⟩
    · next u r₁ hrun =>
      obtain ⟨hmigrator, ⟨-, haccepts⟩ | ⟨_, _, _, _, _, _, hresult⟩⟩ := runStatements_cases hrun
      · simp only at hmigrator haccepts
        rw [← hsql] at haccepts
        rcases hversion : recordVersion d step.versionAfter r₁ with ⟨outcome, r₂⟩
        rw [hversion] at h
        obtain ⟨rfl, hm, hrecord⟩ | ⟨cause, rfl, hm, hrecord⟩ := recordVersion_cases hversion
        · obtain ⟨rfl, rfl⟩ := Prod.mk.inj h
          rw [hmigrator] at hm hrecord
          exact .inl ⟨rfl, hm, haccepts.append hrecord⟩
        · obtain ⟨rfl, rfl⟩ := Prod.mk.inj h
          rw [hmigrator] at hm hrecord
          refine .inr ⟨step.migrationSql, _, cause, _, by rw [hmigrator], hm, ?_,
            .record rfl rfl rfl⟩
          simpa using haccepts.stopsAt hrecord
      · cases hresult

/-- **What steps do**: the database accepts all that they send, or it stops in the first step that
is not completed. -/
theorem runSteps_cases {steps : List Step} (h : runSteps d steps r = (result, r')) :
    r'.migrator = r.migrator.after (completed d steps r) ∧
    ((result = .ok () ∧ completed d steps r = steps ∧
      d.Accepts (steps.flatMap (Step.sql r.migrator.table)) r.database r'.database) ∨
    ∃ step rest before sql cause e, result = .error e ∧
      steps = completed d steps r ++ step :: rest ∧
      d.StopsAt ((completed d steps r).flatMap (Step.sql r.migrator.table) ++ before) sql cause
        r.database r'.database ∧
      step.Blames r.migrator.table before sql cause e) := by
  induction steps generalizing r with
  | nil =>
    obtain ⟨rfl, rfl⟩ := Prod.mk.inj h
    exact ⟨rfl, .inl ⟨rfl, rfl, .nil _⟩⟩
  | cons step rest ih =>
    rw [runSteps] at h
    cases hstep : runStep d step r with
    | mk outcome r₁ =>
      rw [hstep] at h
      obtain ⟨rfl, hm, haccepts⟩ | ⟨before, sql, cause, e, rfl, hm, hstops, hblames⟩ :=
        runStep_cases hstep
      · have hcompleted : completed d (step :: rest) r = step :: completed d rest r₁ := by
          rw [completed, hstep]
        -- a step changes nothing but the version, so the rest sends what it would send from here
        have htable : r₁.migrator.table = r.migrator.table := by rw [hm, after]
        obtain ⟨hm', hrest⟩ := ih h
        rw [htable] at hrest
        rw [hcompleted]
        refine ⟨?_, ?_⟩
        · rw [hm', hm]
          simp [after]
        · obtain ⟨hresult, hall, haccepts'⟩ |
            ⟨step', rest', before, sql, cause, e, hresult, hsteps, hstops, hblames⟩ := hrest
          · exact .inl ⟨hresult, by rw [hall], haccepts.append haccepts'⟩
          · refine .inr ⟨step', rest', before, sql, cause, e, hresult, ?_, ?_, hblames⟩
            · rw [List.cons_append, ← hsteps]
            · rw [List.flatMap_cons, List.append_assoc]
              exact haccepts.stopsAt hstops
      · obtain ⟨rfl, rfl⟩ := Prod.mk.inj h
        have hcompleted : completed d (step :: rest) r = [] := by rw [completed, hstep]
        rw [hcompleted]
        exact ⟨hm, .inr ⟨step, rest, before, sql, cause, e, rfl, rfl, hstops, hblames⟩⟩

/-! ### What is reported -/

theorem report_runStatements (d : Database σ) (step : Step) (key : MigrationKey)
    (ss : List Statement) (r : Run σ) : (runStatements d step key ss r).2.report = r.report := by
  induction ss generalizing r with
  | nil => rfl
  | cons statement rest ih =>
    cases statement with
    | diagnostic text => exact ih _
    | sql sql =>
      rw [runStatements]
      split
      · rfl
      · exact ih _

theorem report_recordVersion {version : Nat} (h : recordVersion d version r = (.ok (), r')) :
    r'.report = { r.report with goal := version } := by
  unfold recordVersion at h
  split at h
  · cases h
  · obtain ⟨-, rfl⟩ := Prod.mk.inj h
    rfl

/-- A step that is completed is reported, and nothing else is. -/
theorem report_runStep {step : Step} (h : runStep d step r = (.ok (), r')) :
    r'.report = r.report.after [step] := by
  unfold runStep at h
  -- only a step that has a key adds to the report, and only when all of it is done
  cases hkey : step.key with
  | none =>
    simp only [hkey] at h
    rw [report_recordVersion h]
    simp [Report.after, Run.note, hkey]
  | some key =>
    simp only [hkey] at h
    have hstatements := report_runStatements d step key step.statements (r.note [stepRecord step])
    split at h
    · cases h
    · next r₁ hrun =>
      rw [hrun] at hstatements
      split at h
      · cases h
      · next r₂ hrecord =>
        obtain ⟨-, rfl⟩ := Prod.mk.inj h
        rw [Run.complete, report_recordVersion hrecord, hstatements]
        simp [Report.after, Run.note, hkey]

/-- **What is reported**: steps that are all completed are reported in order. -/
theorem report_runSteps {steps : List Step} (h : runSteps d steps r = (.ok (), r')) :
    r'.report = r.report.after steps := by
  induction steps generalizing r with
  | nil =>
    obtain ⟨-, rfl⟩ := Prod.mk.inj h
    simp [Report.after]
  | cons step rest ih =>
    rw [runSteps] at h
    split at h
    · cases h
    · next r₁ hstep => rw [ih h, report_runStep hstep, Report.after_cons]

end

end Migrator
end SchemaMigration
