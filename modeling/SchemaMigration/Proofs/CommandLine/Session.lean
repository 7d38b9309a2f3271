import SchemaMigration.CommandLine.Session

/-!
# Sessions

A remark neither prints anything nor changes a file or a database, and so does loading a project
(`tree_of_loadProject`).  `opened?` is what a command on a database works on: the project, the
database and the migrations, if all of them can be opened.  Then what comes of opening a migrator is
what comes of binding the migrations (`exists_openMigrator`).
-/

namespace SchemaMigration.CommandLine

variable {σ : Type}

@[simp]
theorem Session.tree_remark (s : Session σ) (verbose : Bool) (text : String) :
    (s.remark verbose text).tree = s.tree := by
  unfold remark
  split <;> rfl

@[simp]
theorem Session.database_remark (s : Session σ) (verbose : Bool) (text : String) :
    (s.remark verbose text).database = s.database := by
  unfold remark
  split <;> rfl

@[simp]
theorem Session.output_remark (s : Session σ) (verbose : Bool) (text : String) :
    (s.remark verbose text).output = s.output := by
  unfold remark
  split <;> rfl

section
variable {i : Invocation} {s s₀ : Session σ} {result : Except Failure Project}

theorem tree_of_loadProject (h : loadProject i s = (result, s₀)) : s₀.tree = s.tree := by
  unfold loadProject at h
  split at h
  · rw [(Prod.mk.inj h).2]
  · rw [← (Prod.mk.inj h).2, Session.tree_remark]

/-- Loading a project prints nothing. -/
theorem output_of_loadProject (h : loadProject i s = (result, s₀)) : s₀.output = s.output := by
  unfold loadProject at h
  split at h
  · rw [(Prod.mk.inj h).2]
  · rw [← (Prod.mk.inj h).2, Session.output_remark]

end

/-! ### Opening -/

section
variable {b : Backend σ} {p : Project} {name : Option String} {state : σ} {s s' : Session σ}

/-- The database of a project is one that is opened at a path, and nothing is printed. -/
theorem connect_eq_ok (h : connect b p name s = (.ok state, s')) :
    (∃ path, b.open s.tree path = .ok state) ∧ s'.output = s.output := by
  unfold connect at h
  split at h
  · cases h
  · simp only [Session.tree_remark] at h
    split at h
    · cases h
    · next hopen =>
      obtain ⟨hstate, rfl⟩ := Prod.mk.inj h
      exact ⟨⟨_, Except.ok.inj hstate ▸ hopen⟩, Session.output_remark ..⟩

/-- Opening a migrator comes to what binding the migrations comes to. -/
theorem openMigrator_of_bind {bootstrap : Bool} {ds : List Descriptor} {log log' : List LogRecord}
    {state' : σ} {result : Except EngineError Migrator}
    (hconnect : connect b p name s = (.ok state, s'))
    (hload : Descriptor.load s'.tree p.migrationsDirectory = (.ok ds, log))
    (hbind : Migrator.bind b.database ds ⟨p.config.versionTable⟩ bootstrap state =
      (result, log', state')) :
    ∃ s₁, openMigrator b p name bootstrap s =
        ((result.mapError fun e => "Failed to load migrations" :: e.chain).map (·, state'), s₁) ∧
      s₁.database = some state' ∧ s₁.output = s.output := by
  have houtput := (connect_eq_ok hconnect).2
  simp only [openMigrator, hconnect, hload, Migrator.bindLoaded, hbind]
  -- whether or not a migrator comes of it, the session has the database as it is then
  cases result with
  | error e => exact ⟨_, rfl, rfl, houtput⟩
  | ok m => exact ⟨_, rfl, Session.database_remark .., (Session.output_remark ..).trans houtput⟩

end

/-- What an invocation works on, if it can be opened: its project, the database, the migrations and
the session then. -/
def opened? (b : Backend σ) (i : Invocation) (s : Session σ) :
    Option (Project × σ × List Descriptor × Session σ) :=
  match loadProject i s with
  | (.error _, _) => none
  | (.ok p, s) =>
    match connect b p i.target s with
    | (.error _, _) => none
    | (.ok state, s) =>
      match Descriptor.load s.tree p.migrationsDirectory with
      | (.error _, _) => none
      | (.ok ds, _) => some (p, state, ds, s)

/-- What an invocation works on is opened in three steps, the project first and the migrations
last. -/
theorem exists_of_opened {b : Backend σ} {i : Invocation} {s s₁ : Session σ} {p : Project}
    {state : σ} {ds : List Descriptor} (h : opened? b i s = some (p, state, ds, s₁)) :
    ∃ s₀ log, loadProject i s = (.ok p, s₀) ∧ connect b p i.target s₀ = (.ok state, s₁) ∧
      Descriptor.load s₁.tree p.migrationsDirectory = (.ok ds, log) := by
  unfold opened? at h
  split at h
  · cases h
  · next hproject =>
    split at h
    · cases h
    · next hconnect =>
      split at h
      · cases h
      · next hload =>
        cases h
        exact ⟨_, _, hproject, hconnect, hload⟩

section
variable {b : Backend σ} {i : Invocation} {p : Project} {state state' : σ} {ds : List Descriptor}
  {s s₁ : Session σ}

theorem output_of_opened (hopens : opened? b i s = some (p, state, ds, s₁)) :
    s₁.output = s.output := by
  obtain ⟨s₀, log, hproject, hconnect, -⟩ := exists_of_opened hopens
  exact (connect_eq_ok hconnect).2.trans (output_of_loadProject hproject)

/-- A command opens the migrator of what it works on. -/
theorem exists_openMigrator (hopens : opened? b i s = some (p, state, ds, s₁)) {bootstrap : Bool}
    {log : List LogRecord} {result : Except EngineError Migrator}
    (hbind : Migrator.bind b.database ds ⟨p.config.versionTable⟩ bootstrap state =
      (result, log, state')) :
    ∃ s₀ s₂, loadProject i s = (.ok p, s₀) ∧ openMigrator b p i.target bootstrap s₀ =
        ((result.mapError fun e => "Failed to load migrations" :: e.chain).map (·, state'), s₂) ∧
      s₂.database = some state' ∧ s₂.output = s.output := by
  obtain ⟨s₀, log', hproject, hconnect, hload⟩ := exists_of_opened hopens
  obtain ⟨s₂, hopen, hdatabase, houtput⟩ := openMigrator_of_bind hconnect hload hbind
  exact ⟨s₀, s₂, hproject, hopen, hdatabase, houtput.trans (output_of_loadProject hproject)⟩

end

end SchemaMigration.CommandLine
