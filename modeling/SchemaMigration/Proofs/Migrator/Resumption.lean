import SchemaMigration.Proofs.Migrator.FailurePolicy

/-!
# Migrations in parts

A migration by way of a version that lies between ends as the migration does that goes straight to
its target: the same calls, the same state of the database, the same version, and the same error if
there is one.  For this `perform` tells how steps end, without what is written down about them, and
`perform_append` says that it goes from part to part.

A migration that has failed in a step is taken up where it stopped: as soon as no call is refused,
the next one sends what the steps that were not completed send, and nothing else
(`migrate_resumes`).
-/

namespace SchemaMigration.Migrator

variable {σ : Type} {d : Database σ} {m m' : Migrator} {target via : Int} {s s' : σ}
  {result : Except EngineError Report} {done : List Step}

/-! ### Runs that differ in what is written down -/

/-- Two runs differ at most in their records and their reports. -/
structure Run.Alike (r r' : Run σ) : Prop where
  migrator_eq : r.migrator = r'.migrator
  database_eq : r.database = r'.database

/-- Two outcomes are the same, and the runs are alike. -/
inductive EndAlike : (x y : Except EngineError Unit × Run σ) → Prop
  | error (e : EngineError) {r r' : Run σ} (h : r.Alike r') : EndAlike (.error e, r) (.error e, r')
  | ok {r r' : Run σ} (h : r.Alike r') : EndAlike (.ok (), r) (.ok (), r')

section
variable {r r' : Run σ}

theorem recordVersion_alike (h : r.Alike r') (version : Nat) :
    EndAlike (recordVersion d version r) (recordVersion d version r') := by
  unfold recordVersion
  rw [h.migrator_eq, h.database_eq]
  obtain ⟨answer, state⟩ := r'.migrator.table.write d version r'.database
  cases answer with
  | error e => exact .error e ⟨rfl, rfl⟩
  | ok _ => exact .ok ⟨rfl, rfl⟩

/-- What has been written down before does not matter to the statements that are run. -/
theorem runStatements_alike (h : r.Alike r') (step : Step) (key : MigrationKey)
    (ss : List Statement) :
    EndAlike (runStatements d step key ss r) (runStatements d step key ss r') := by
  induction ss generalizing r r' with
  | nil => exact .ok h
  | cons statement rest ih =>
    cases statement with
    | diagnostic text => exact ih ⟨h.migrator_eq, h.database_eq⟩
    | sql sql =>
      rw [runStatements, runStatements]
      simp only [Run.note, h.database_eq]
      obtain ⟨answer, state⟩ := d.execute sql r'.database
      cases answer with
      | error e => exact .error _ ⟨h.migrator_eq, rfl⟩
      | ok n => exact ih ⟨h.migrator_eq, rfl⟩

theorem runStep_alike (h : r.Alike r') (step : Step) :
    EndAlike (runStep d step r) (runStep d step r') := by
  have hnote : (r.note [stepRecord step]).Alike (r'.note [stepRecord step]) :=
    ⟨h.migrator_eq, h.database_eq⟩
  unfold runStep
  cases step.key with
  | none => exact recordVersion_alike hnote step.versionAfter
  | some key =>
    have hstatements := runStatements_alike (d := d) hnote step key step.statements
    simp only
    generalize runStatements d step key step.statements (r.note [stepRecord step]) = x,
      runStatements d step key step.statements (r'.note [stepRecord step]) = y at hstatements
    -- the two runs stop at one statement, or both record the version
    cases hstatements with
    | error e hr => exact .error e hr
    | @ok r₁ r₁' hr =>
      have hversion := recordVersion_alike (d := d) hr step.versionAfter
      simp only
      generalize recordVersion d step.versionAfter r₁ = x,
        recordVersion d step.versionAfter r₁' = y at hversion
      cases hversion with
      | error e hr => exact .error e hr
      | ok hr => exact .ok ⟨hr.migrator_eq, hr.database_eq⟩

theorem runSteps_alike (h : r.Alike r') (steps : List Step) :
    EndAlike (runSteps d steps r) (runSteps d steps r') := by
  induction steps generalizing r r' with
  | nil => exact .ok h
  | cons step rest ih =>
    have hstep := runStep_alike (d := d) h step
    rw [runSteps, runSteps]
    generalize runStep d step r = x, runStep d step r' = y at hstep
    cases hstep with
    | error e hr => exact .error e hr
    | ok hr => exact ih hr

theorem prepare_alike (h : r.Alike r') : EndAlike (prepare d r) (prepare d r') := by
  unfold prepare
  rw [h.migrator_eq, h.database_eq]
  by_cases hready : r'.migrator.ready = true
  · rw [if_pos hready, if_pos hready]
    exact .ok h
  · rw [if_neg hready, if_neg hready]
    obtain ⟨answer, records, state⟩ := r'.migrator.table.ensure d r'.database
    cases answer with
    | error e => exact .error e ⟨h.migrator_eq, rfl⟩
    | ok _ => exact .ok ⟨rfl, rfl⟩

end

/-! ### How steps end -/

/-- How a run ends: whether it has failed, and the migrator and the database that it leaves. -/
def ending {α : Type} (x : Except EngineError α × Run σ) : Except EngineError Unit × Migrator × σ :=
  (x.1.map fun _ => (), x.2.migrator, x.2.database)

theorem EndAlike.ending_eq {x y : Except EngineError Unit × Run σ} (h : EndAlike x y) :
    ending x = ending y := by
  cases h with
  | error e hr => rw [ending, ending, hr.migrator_eq, hr.database_eq]
  | ok hr => rw [ending, ending, hr.migrator_eq, hr.database_eq]

/-- A run of a migrator with nothing written down. -/
def Run.blank (m : Migrator) (s : σ) : Run σ where
  migrator := m
  log := []
  report := ⟨m.version, m.version, none, []⟩
  database := s

/-- How steps end that a migrator carries out; before the first of them the version table is made if
it is not known to exist. -/
def perform (d : Database σ) (m : Migrator) (steps : List Step) (s : σ) :
    Except EngineError Unit × Migrator × σ :=
  if steps = [] then (.ok (), m, s)
  else match prepare d (Run.blank m s) with
    | (.error e, r) => (.error e, r.migrator, r.database)
    | (.ok _, r) => ending (runSteps d steps r)

/-- A migration ends as the steps of its plan do. -/
theorem ending_migrate (d : Database σ) (m : Migrator) (target : Int) (s : σ) :
    ending (migrate d m target s) = perform d m (m.plan target).steps s := by
  unfold migrate perform
  by_cases hsteps : (m.plan target).steps = []
  · have hempty : (m.plan target).isEmpty = true := List.isEmpty_iff.mpr hsteps
    rw [if_pos hsteps]
    simp only [hempty, if_true]
    rfl
  · have hempty : ¬ (m.plan target).isEmpty = true := fun h => hsteps (List.isEmpty_iff.mp h)
    have hstart : (startRun m target s).Alike (Run.blank m s) := ⟨rfl, rfl⟩
    rw [if_neg hsteps]
    simp only [hempty]
    have hprepare := prepare_alike (d := d) hstart
    generalize prepare d (startRun m target s) = x, prepare d (Run.blank m s) = y at hprepare
    cases hprepare with
    | error e hr => exact congrArg (Except.error e, ·) (Prod.ext hr.migrator_eq hr.database_eq)
    | @ok r r' hr =>
      -- what is written down at the end does not matter to how it ends
      have hending := (runSteps_alike (d := d) hr (m.plan target).steps).ending_eq
      simp only
      rw [← hending]
      obtain ⟨answer, r₁⟩ := runSteps d (m.plan target).steps r
      cases answer <;> rfl

theorem runSteps_append (xs ys : List Step) (r : Run σ) :
    runSteps d (xs ++ ys) r =
      match runSteps d xs r with
      | (.error e, r) => (.error e, r)
      | (.ok _, r) => runSteps d ys r := by
  induction xs generalizing r with
  | nil => rfl
  | cons step rest ih =>
    rw [List.cons_append, runSteps, runSteps]
    obtain ⟨answer, r₁⟩ := runStep d step r
    cases answer with
    | error e => rfl
    | ok _ => exact ih r₁

/-- A migrator that knows the table has nothing to make, and goes on with the steps. -/
theorem perform_of_ready {r : Run σ} (steps : List Step) (h : r.migrator.ready = true) :
    perform d r.migrator steps r.database = ending (runSteps d steps r) := by
  have hprepared : prepare d (Run.blank r.migrator r.database) =
      (.ok (), Run.blank r.migrator r.database) := by
    rw [prepare]
    exact if_pos h
  by_cases hsteps : steps = []
  · rw [hsteps, perform, if_pos rfl]
    rfl
  · have halike : (Run.blank r.migrator r.database).Alike r := ⟨rfl, rfl⟩
    rw [perform, if_neg hsteps, hprepared]
    exact (runSteps_alike halike steps).ending_eq

/-- **Going from part to part**: steps end as their first part does if that fails, and otherwise as
the rest does where the first part has led to. -/
theorem perform_append (d : Database σ) (m : Migrator) (xs ys : List Step) (s : σ) :
    perform d m (xs ++ ys) s =
      match perform d m xs s with
      | (.error e, m', s') => (.error e, m', s')
      | (.ok _, m', s') => perform d m' ys s' := by
  by_cases hxs : xs = []
  · rw [hxs, List.nil_append, perform.eq_1 d m [], if_pos rfl]
  · have hne : xs ++ ys ≠ [] := by simp [hxs]
    rw [perform, perform, if_neg hne, if_neg hxs]
    cases hprepare : prepare d (Run.blank m s) with
    | mk answer r =>
      cases answer with
      | error e => rfl
      | ok _ =>
        simp only [runSteps_append]
        cases hsteps : runSteps d xs r with
        | mk answer r₁ =>
          cases answer with
          | error e => rfl
          | ok _ =>
            -- the first part has made the table, so the rest goes on with its steps
            have hready : r₁.migrator.ready = true := by
              obtain ⟨-, hm, -⟩ | ⟨e, habs, -⟩ := prepare_cases hprepare
              · rw [(runSteps_cases hsteps).1, hm]
                rfl
              · cases habs
            exact (perform_of_ready ys hready).symm

/-! ### By way of another version -/

/-- Moves the database to the version nearest to `via` and, if this succeeds, from there to the one
nearest to `target`. -/
def migrateVia (d : Database σ) (m : Migrator) (via target : Int) (s : σ) :
    Except EngineError Report × Run σ :=
  match migrate d m via s with
  | (.error e, r) => (.error e, r)
  | (.ok _, r) => migrate d r.migrator target r.database

/-- A migration that succeeds leaves the version nearest to its target. -/
theorem Outcome.version_of_ok {report : Report} (h : Outcome d m target s (.ok report) done m' s') :
    m'.version = m.clamp target := by
  by_cases hplan : (m.plan target).steps = []
  · rw [(h.eq_of_nil hplan).1]
    exact ((steps_eq_nil_iff m target).mp hplan).symm
  · cases h with
    | idle habs => exact absurd habs hplan
    | unprepared _ _ _ habs => cases habs
    | complete _ _ _ _ hdone hm =>
      rw [hm, hdone]
      exact Plan.reached_build ..
    | stopped _ _ _ _ habs => cases habs

/-- A migration by way of a version that lies between ends as the one that goes straight. -/
theorem ending_migrateVia (d : Database σ) (m : Migrator) (s : σ)
    (hvia : m.version ≤ m.clamp via ∧ m.clamp via ≤ m.clamp target ∨
      m.clamp target ≤ m.clamp via ∧ m.clamp via ≤ m.version) :
    ending (migrateVia d m via target s) = ending (migrate d m target s) := by
  have hsteps : (m.plan target).steps = (m.plan via).steps ++
      (Plan.build m.descriptors (m.clamp via) (m.clamp target)).steps :=
    (Plan.build_append hvia).symm
  have hfirst := ending_migrate d m via s
  rw [ending_migrate, hsteps, perform_append, ← hfirst, migrateVia]
  cases hmigrate : migrate d m via s with
  | mk answer r =>
    cases answer with
    | error e => rfl
    | ok report =>
      -- the second migration begins at the version where the plan has been cut
      have houtcome := migrate_outcome hmigrate
      have hplan : (r.migrator.plan target).steps =
          (Plan.build m.descriptors (m.clamp via) (m.clamp target)).steps := by
        rw [plan, clamp, latest, houtcome.descriptors_eq, houtcome.version_of_ok]
        rfl
      show ending (migrate d r.migrator target r.database) = perform d r.migrator _ r.database
      rw [ending_migrate, hplan]

/-! ### Taking up a migration -/

/-- A migration that fails after it has completed steps stops in the next step of its plan. -/
theorem Outcome.stopped_of_error {e : EngineError} (h : Outcome d m target s (.error e) done m' s')
    (hdone : done ≠ []) :
    ∃ step rest, (m.plan target).steps = done ++ step :: rest ∧
      (∃ before sql cause, step.Blames m.table before sql cause e) ∧ m' = m.readied.after done := by
  cases h with
  | idle _ habs => cases habs
  | unprepared _ _ _ _ habs => exact absurd habs hdone
  | complete _ _ _ habs => cases habs
  | stopped _ hplan _ hblames hresult hm =>
    obtain rfl := Except.error.inj hresult
    exact ⟨_, _, hplan, ⟨_, _, _, hblames⟩, hm⟩

/-- What is left of a plan is the plan from the version that its first steps lead to. -/
theorem plan_after {rest : List Step} (h : (m.plan target).steps = done ++ rest) :
    ((m.readied.after done).plan target).steps = rest := by
  obtain ⟨b, -, hdone, hrest⟩ := Plan.build_eq_append h
  have hversion : (m.readied.after done).version = b := by
    show reached done m.version = b
    rw [hdone]
    exact Plan.reached_build ..
  rw [hrest, plan, hversion]
  rfl

/-- Where no call is refused, a migrator that knows the table sends its plan, once and in order, and
gets to the version nearest to the target. -/
theorem transcript_of_accepted (hready : m.ready = true)
    (haccepted : ∀ y ∈ transcript d m target s, y.refusal = none) :
    transcript d m target s = ((m.plan target).steps.flatMap (Step.sql m.table)).map .accepted ∧
      ∃ report r, migrate d m target s = (.ok report, r) ∧ r.migrator.version = m.clamp target := by
  cases h : migrate d m target s with
  | mk result r =>
    obtain ⟨r', h', hmigrator, hdatabase⟩ := migrate_transcribed h
    have houtcome := migrate_outcome h'
    rw [hmigrator, hdatabase] at houtcome
    obtain ⟨rfl, -, haccepts⟩ | ⟨_, _, before, sql, cause, _, -, -, hstops, -⟩ :=
      houtcome.cases_of_ready hready
    · exact ⟨haccepts.transcript.2, _, r, rfl, houtcome.version_of_ok⟩
    · -- a refused call would be in the transcript
      have hrefused : Exchange.refused sql cause ∈ transcript d m target s := by
        have htranscript := hstops.transcript.2
        simp only at htranscript
        rw [htranscript]
        exact List.mem_append_right _ (List.mem_singleton_self _)
      cases haccepted _ hrefused

/-- **Migrations in parts.**  On any database, going by way of a version that lies between makes the
same calls with the same answers as going straight, and ends in the same way.  And when a migration
fails after it has completed steps, the next one to the same target, on a database that refuses
nothing, sends what the step that failed and those after it send, once and in order. -/
theorem migrate_resumes (d : Database σ) (m : Migrator) (target : Int) (s : σ) :
    (∀ via, (m.version ≤ m.clamp via ∧ m.clamp via ≤ m.clamp target ∨
        m.clamp target ≤ m.clamp via ∧ m.clamp via ≤ m.version) →
      ending (migrateVia d.transcribed m via target (s, [])) =
        ending (migrate d.transcribed m target (s, []))) ∧
    (∀ e r, migrate d m target s = (.error e, r) → completedBy d m target s ≠ [] →
      ∃ step rest, (m.plan target).steps = completedBy d m target s ++ step :: rest ∧
        (∃ before sql cause, step.Blames m.table before sql cause e) ∧
        ∀ {τ : Type} (d' : Database τ) (s' : τ),
          (∀ y ∈ transcript d' r.migrator target s', y.refusal = none) →
          transcript d' r.migrator target s' =
            ((step :: rest).flatMap (Step.sql m.table)).map .accepted ∧
          ∃ report r', migrate d' r.migrator target s' = (.ok report, r') ∧
            r'.migrator.version = m.clamp target) := by
  constructor
  · intro via hvia
    exact ending_migrateVia d.transcribed m (s, []) hvia
  · intro e r h hdone
    obtain ⟨step, rest, hplan, hblames, hm⟩ := (migrate_outcome h).stopped_of_error hdone
    refine ⟨step, rest, hplan, hblames, fun d' s' haccepted => ?_⟩
    have hready : r.migrator.ready = true := by rw [hm]; rfl
    obtain ⟨htranscript, hok⟩ := transcript_of_accepted hready haccepted
    rw [hm, plan_after hplan] at htranscript
    rw [hm] at hok ⊢
    exact ⟨htranscript, hok⟩

/-- In memory, the second of two migrations is refused, by way of version one as by the straight
way; when nothing is refused any more, only the second is sent. -/
theorem migrate_resumes_after_refused_statement :
    let d := MemoryDatabase.strict.disrupted fun call =>
      if call = 2 then some ⟨.execution, "refused"⟩ else none
    let m : Migrator := ⟨⟨"SchemaInfo"⟩, [Descriptor.probe, Descriptor.probe], 0, true⟩
    let s : MemoryDatabase := { tables := [("SchemaInfo", [.nat 0])] }
    let x := migrate d m 2 (s, 0)
    let calls := transcript MemoryDatabase.strict x.2.migrator 2 x.2.database.1
    ending (migrateVia d.transcribed m 1 2 ((s, 0), [])) =
        ending (migrate d.transcribed m 2 ((s, 0), [])) ∧
      x.1.toOption = none ∧ x.2.migrator.version = 1 ∧
      calls = [.accepted "SELECT 1", .accepted "UPDATE SchemaInfo SET Version = 2"] := by
  intro d m s x calls
  obtain ⟨hfails, hversion, hdone, hrest, haccepted⟩ :
      x.1.toOption = none ∧ x.2.migrator.version = 1 ∧
      completedBy d m 2 (s, 0) = [Plan.upStep m.descriptors 1] ∧
      (m.plan 2).steps = [Plan.upStep m.descriptors 1, Plan.upStep m.descriptors 2] ∧
      ∀ y ∈ calls, y.refusal = none := by decide +kernel
  have hsql : (Plan.upStep m.descriptors 2).sql m.table =
      ["SELECT 1", "UPDATE SchemaInfo SET Version = 2"] := by decide +kernel
  have hx : migrate d m 2 (s, 0) = x := rfl
  have hcalls : transcript MemoryDatabase.strict x.2.migrator 2 x.2.database.1 = calls := rfl
  obtain ⟨hvia, hresume⟩ := migrate_resumes d m 2 (s, 0)
  refine ⟨hvia 1 (by decide), hfails, hversion, ?_⟩
  -- from here on the migration that fails stands for itself
  clear_value calls x
  obtain ⟨result, r⟩ := x
  cases result with
  | ok report => cases hfails
  | error e =>
    obtain ⟨step, rest, hplan, -, hagain⟩ := hresume e r hx (by rw [hdone]; simp)
    rw [hrest, hdone] at hplan
    obtain ⟨rfl, rfl⟩ := List.cons.inj (List.cons.inj hplan).2
    rw [← hcalls] at haccepted ⊢
    rw [(hagain _ _ haccepted).1, List.flatMap_singleton, hsql]
    rfl

end SchemaMigration.Migrator
