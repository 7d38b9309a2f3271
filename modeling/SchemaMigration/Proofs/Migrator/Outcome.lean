import SchemaMigration.Proofs.Migrator.Steps
import SchemaMigration.Proofs.VersionTable

/-!
# What comes of a migration

`Migrator.Outcome` lists the four ways in which a migration ends on a database, whatever it
answers: nothing has to move; the version table cannot be made; all steps of the plan are
completed; or the database stops in one of them.  `migrate_outcome` says that these are all.
-/

namespace SchemaMigration.Migrator

variable {σ : Type} {d : Database σ} {m m' : Migrator} {target : Int} {s s' : σ}

/-- The steps that a migration completes. -/
def completedBy (d : Database σ) (m : Migrator) (target : Int) (s : σ) : List Step :=
  if (m.plan target).isEmpty then []
  else
    match prepare d (startRun m target s) with
    | (.error _, _) => []
    | (.ok _, r) => completed d (m.plan target).steps r

/-- The version table is made if it is not known to exist, and the database gets from `s` to
`s'`. -/
def Prepares (d : Database σ) (m : Migrator) (s s' : σ) : Prop :=
  m.ready = true ∧ s' = s ∨ m.ready = false ∧ ∃ made, m.table.Ensures d s (.ok made) s'

/-- The migrator for which the version table is known to exist. -/
def readied (m : Migrator) : Migrator := { m with ready := true }

theorem readied_of_ready (h : m.ready = true) : m.readied = m := by
  cases m
  simp only [readied, mk.injEq, true_and]
  exact h.symm

/-- What comes of a migration of `m` to `target` in state `s`: its result, the steps that are
completed, and the migrator and the state after it. -/
inductive Outcome (d : Database σ) (m : Migrator) (target : Int) (s : σ)
    (result : Except EngineError Report) (done : List Step) (m' : Migrator) (s' : σ) : Prop where
  /-- nothing has to move, and the database is not called -/
  | idle (hplan : (m.plan target).steps = []) (hresult : result = .ok (reportOf (m.plan target)))
      (hdone : done = []) (hm : m' = m) (hs : s' = s)
  /-- the version table cannot be made -/
  | unprepared {e : EngineError} (hplan : (m.plan target).steps ≠ []) (hready : m.ready = false)
      (hensures : m.table.Ensures d s (.error e) s') (hresult : result = .error e)
      (hdone : done = []) (hm : m' = m)
  /-- the database accepts all steps -/
  | complete {s₁ : σ} (hplan : (m.plan target).steps ≠ []) (hprepares : m.Prepares d s s₁)
      (haccepts : d.Accepts ((m.plan target).steps.flatMap (Step.sql m.table)) s₁ s')
      (hresult : result = .ok (reportOf (m.plan target))) (hdone : done = (m.plan target).steps)
      (hm : m' = m.readied.after done)
  /-- the database stops in the step after those that are completed -/
  | stopped {s₁ : σ} {step : Step} {rest : List Step} {before : List String} {sql : String}
      {cause : DatabaseError} {e : EngineError} (hprepares : m.Prepares d s s₁)
      (hplan : (m.plan target).steps = done ++ step :: rest)
      (hstops : d.StopsAt (done.flatMap (Step.sql m.table) ++ before) sql cause s₁ s')
      (hblames : step.Blames m.table before sql cause e) (hresult : result = .error e)
      (hm : m' = m.readied.after done)

/-! ### Preparing -/

theorem Prepares.eq_of_ready (h : m.Prepares d s s') (hready : m.ready = true) : s' = s := by
  obtain ⟨-, hs⟩ | ⟨habs, -⟩ := h
  · exact hs
  · rw [hready] at habs
    cases habs

theorem Prepares.ensures_of_unready (h : m.Prepares d s s') (hready : m.ready = false) :
    ∃ made, m.table.Ensures d s (.ok made) s' := by
  obtain ⟨habs, -⟩ | ⟨-, hmade⟩ := h
  · rw [hready] at habs
    cases habs
  · exact hmade

theorem prepare_cases {r r' : Run σ} {result : Except EngineError Unit}
    (h : prepare d r = (result, r')) :
    (result = .ok () ∧ r'.migrator = r.migrator.readied ∧
      r.migrator.Prepares d r.database r'.database) ∨
    ∃ e, result = .error e ∧ r.migrator.ready = false ∧ r'.migrator = r.migrator ∧
      r.migrator.table.Ensures d r.database (.error e) r'.database := by
  unfold prepare at h
  -- a migrator that knows the table does not look for it again
  by_cases hready : r.migrator.ready = true
  · rw [if_pos hready] at h
    obtain ⟨rfl, rfl⟩ := Prod.mk.inj h
    exact .inl ⟨rfl, (readied_of_ready hready).symm, .inl ⟨hready, rfl⟩⟩
  · rw [if_neg hready] at h
    have hready' := Bool.eq_false_iff.mpr hready
    split at h
    · next e log state hensure =>
      obtain ⟨rfl, rfl⟩ := Prod.mk.inj h
      exact .inr ⟨e, rfl, hready', rfl, VersionTable.ensure_cases hensure⟩
    · next made log state hensure =>
      obtain ⟨rfl, rfl⟩ := Prod.mk.inj h
      exact .inl ⟨rfl, rfl, .inr ⟨hready', made, VersionTable.ensure_cases hensure⟩⟩

theorem report_prepare (d : Database σ) (r : Run σ) : (prepare d r).2.report = r.report := by
  unfold prepare
  split
  · rfl
  · split <;> rfl

/-! ### Migrating -/

/-- **What comes of a migration**, on any database. -/
theorem migrate_outcome {r : Run σ} {result : Except EngineError Report}
    (h : migrate d m target s = (result, r)) :
    Outcome d m target s result (completedBy d m target s) r.migrator r.database := by
  unfold migrate at h
  simp only [Run.note] at h
  by_cases hempty : (m.plan target).isEmpty = true
  · rw [if_pos hempty] at h
    obtain ⟨rfl, rfl⟩ := Prod.mk.inj h
    have hsteps := List.isEmpty_iff.mp hempty
    have hreport := after_startReport (m.plan target)
    rw [hsteps] at hreport
    exact .idle hsteps (congrArg Except.ok hreport) (by simp [completedBy, hempty]) rfl rfl
  · rw [if_neg hempty] at h
    have hplan : (m.plan target).steps ≠ [] := fun hsteps => hempty (List.isEmpty_iff.mpr hsteps)
    have hreport := report_prepare d (startRun m target s)
    cases hprepare : prepare d (startRun m target s) with
    | mk prepared r₁ =>
      rw [hprepare] at h hreport
      obtain ⟨rfl, hm₁, hprepares⟩ | ⟨e, rfl, hready, hm₁, hensures⟩ := prepare_cases hprepare
      · have hdone : completedBy d m target s = completed d (m.plan target).steps r₁ := by
          simp [completedBy, hempty, hprepare]
        simp only at h
        cases hsteps : runSteps d (m.plan target).steps r₁ with
        | mk outcome r₂ =>
          rw [hsteps] at h
          obtain ⟨hm₂, ⟨rfl, hall, haccepts⟩ |
            ⟨step, rest, before, sql, cause, e, rfl, hcut, hstops, hblames⟩⟩ :=
              runSteps_cases hsteps
          · obtain ⟨rfl, rfl⟩ := Prod.mk.inj h
            rw [hm₁] at haccepts hm₂
            -- all steps have been reported, so the report is the one of the plan
            have hresult : r₂.report = reportOf (m.plan target) := by
              rw [report_runSteps hsteps, hreport]
              exact after_startReport (m.plan target)
            exact .complete hplan hprepares haccepts (congrArg Except.ok hresult)
              (hdone.trans hall) (hdone ▸ hm₂)
          · obtain ⟨rfl, rfl⟩ := Prod.mk.inj h
            rw [hm₁] at hstops hblames hm₂
            rw [← hdone] at hcut hstops hm₂
            exact .stopped hprepares hcut hstops hblames rfl hm₂
      · obtain ⟨rfl, rfl⟩ := Prod.mk.inj h
        exact .unprepared hplan hready hensures rfl (by simp [completedBy, hprepare]) hm₁

/-! ### Migrators that know the table, and those that do not -/

namespace Outcome

theorem eq_of_nil (h : Outcome d m target s result done m' s')
    (hplan : (m.plan target).steps = []) : m' = m ∧ s' = s := by
  cases h with
  | idle _ _ _ hm hs => exact ⟨hm, hs⟩
  | unprepared habs => exact absurd hplan habs
  | complete habs => exact absurd hplan habs
  | stopped _ hcut =>
    rw [hplan] at hcut
    exact absurd hcut (by simp)

/-- A migrator that knows the table sends the steps of its plan, and nothing else. -/
theorem cases_of_ready (h : Outcome d m target s result done m' s') (hready : m.ready = true) :
    (result = .ok (reportOf (m.plan target)) ∧ done = (m.plan target).steps ∧
      d.Accepts ((m.plan target).steps.flatMap (Step.sql m.table)) s s') ∨
    ∃ step later before sql cause e, result = .error e ∧
      (m.plan target).steps = done ++ step :: later ∧
      d.StopsAt (done.flatMap (Step.sql m.table) ++ before) sql cause s s' ∧
      step.Blames m.table before sql cause e := by
  cases h with
  | idle hplan hresult hdone _ hs =>
    refine .inl ⟨hresult, hdone.trans hplan.symm, ?_⟩
    rw [hplan, hs]
    exact .nil s
  | unprepared _ hunready =>
    rw [hready] at hunready
    cases hunready
  | complete _ hprepares haccepts hresult hdone =>
    rw [hprepares.eq_of_ready hready] at haccepts
    exact .inl ⟨hresult, hdone, haccepts⟩
  | stopped hprepares hplan hstops hblames hresult =>
    rw [hprepares.eq_of_ready hready] at hstops
    exact .inr ⟨_, _, _, _, _, _, hresult, hplan, hstops, hblames⟩

/-- A migration that has steps to run on a table that is not known to exist makes the table first,
and then is one of a migrator that knows it. -/
theorem cases_of_unready (h : Outcome d m target s result done m' s') (hready : m.ready = false)
    (hplan : (m.plan target).steps ≠ []) :
    (∃ e, result = .error e ∧ m.table.Ensures d s (.error e) s' ∧ m' = m) ∨
    ∃ made s₁, m.table.Ensures d s (.ok made) s₁ ∧
      Outcome d m.readied target s₁ result done m' s' := by
  cases h with
  | idle habs => exact absurd habs hplan
  | unprepared _ _ hensures hresult _ hm => exact .inl ⟨_, hresult, hensures, hm⟩
  | complete _ hprepares haccepts hresult hdone hm =>
    obtain ⟨made, hensures⟩ := hprepares.ensures_of_unready hready
    exact .inr ⟨made, _, hensures, .complete hplan (.inl ⟨rfl, rfl⟩) haccepts hresult hdone hm⟩
  | stopped hprepares hcut hstops hblames hresult hm =>
    obtain ⟨made, hensures⟩ := hprepares.ensures_of_unready hready
    exact .inr ⟨made, _, hensures, .stopped (.inl ⟨rfl, rfl⟩) hcut hstops hblames hresult hm⟩

/-- A migration that has steps to run and succeeds leaves a migrator that takes the table for ready
and has the version that is reported. -/
theorem of_ok {report : Report} (h : Outcome d m target s (.ok report) done m' s')
    (hplan : (m.plan target).steps ≠ []) : m'.ready = true ∧ m'.version = report.goal := by
  cases h with
  | idle habs => exact absurd habs hplan
  | unprepared _ _ _ hresult => cases hresult
  | complete _ _ _ hresult hdone hm =>
    rw [hm, hdone, Except.ok.inj hresult]
    exact ⟨rfl, rfl⟩
  | stopped _ _ _ _ hresult => cases hresult

end Outcome
end SchemaMigration.Migrator
