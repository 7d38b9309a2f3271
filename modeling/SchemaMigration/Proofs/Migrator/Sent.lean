import SchemaMigration.Database.Memory
import SchemaMigration.Proofs.Migrator.Outcome
import SchemaMigration.Proofs.Migrator.Projection

/-!
# What a migration sends

The statements that are `due` for a migration can be told before it begins: those that make the
version table, if the database says that it is missing, and then what the steps of the plan send.
`migrate_sends_due` says that a migration sends them in order, on any database, up to the first that
is refused.
-/

namespace SchemaMigration.Migrator

variable {σ : Type} {d : Database σ} {m : Migrator} {target : Int} {s : σ}

/-! ### The statements that are due -/

/-- The statements that make the version table, where it is not known to exist and the database does
not count it either. -/
def bootstrapSql (d : Database σ) (m : Migrator) (s : σ) : List String :=
  if m.ready then []
  else match (d.query m.table.existsSql s).1 with
    | .ok count => if 0 < count.getD 0 then [] else [m.table.createSql, m.table.initSql]
    | .error _ => []

/-- The statements that are due for a migration; where nothing has to move there are none. -/
def due (d : Database σ) (m : Migrator) (target : Int) (s : σ) : List String :=
  if (m.plan target).steps = [] then []
  else bootstrapSql d m s ++ (m.plan target).steps.flatMap (Step.sql m.table)

theorem due_of_nil (h : (m.plan target).steps = []) : due d m target s = [] := by
  rw [due, if_pos h]

theorem due_of_ne_nil (h : (m.plan target).steps ≠ []) :
    due d m target s = bootstrapSql d m s ++ (m.plan target).steps.flatMap (Step.sql m.table) := by
  rw [due, if_neg h]

/-! ### Transcripts of migrations -/

/-- What has been called when the version table is made or known to exist: a query at most, and the
statements that make it. -/
theorem Prepares.transcript {y : σ × List Exchange} (h : m.Prepares d.transcribed (s, []) y) :
    ∃ asked, Exchange.Answered asked ∧
      y.2 = asked ++ (bootstrapSql d m s).map .accepted := by
  -- nothing is asked when the table is known, and else only whether it is there
  obtain ⟨hready, rfl⟩ | ⟨hready, made, hensures⟩ := h
  · exact ⟨[], Exchange.answered_nil, by simp [bootstrapSql, hready]⟩
  · cases hensures with
    | unknown _ hresult => cases hresult
    | present hquery hcount =>
      obtain ⟨hanswer, htranscript⟩ := Database.query_of_transcribed hquery
      refine ⟨y.2, htranscript ▸ Exchange.answered_query _, ?_⟩
      simp [bootstrapSql, hready, hanswer, hcount]
    | @created count z hquery hcount haccepts =>
      obtain ⟨hanswer, htranscript⟩ := Database.query_of_transcribed hquery
      refine ⟨z.2, htranscript ▸ Exchange.answered_query _, ?_⟩
      rw [haccepts.transcript.2]
      simp [bootstrapSql, hready, hanswer, hcount]
    | uncreated _ _ _ hresult => cases hresult
    | unfilled _ _ _ hresult => cases hresult

/-- What has been called when the version table cannot be made. -/
theorem transcript_of_unprepared {y : σ × List Exchange} {e : EngineError}
    (hready : m.ready = false) (h : m.table.Ensures d.transcribed (s, []) (.error e) y) :
    (∃ cause, y.2 = [⟨.query m.table.existsSql, some cause⟩]) ∨
    ∃ asked before sql after cause, Exchange.Answered asked ∧
      bootstrapSql d m s = before ++ sql :: after ∧
      y.2 = asked ++ before.map .accepted ++ [.refused sql cause] := by
  cases h with
  | unknown hquery =>
    obtain ⟨-, htranscript⟩ := Database.query_of_transcribed hquery
    exact .inl ⟨_, htranscript⟩
  | present _ _ hresult => cases hresult
  | created _ _ _ hresult => cases hresult
  | @uncreated count z cause hquery hcount hstops =>
    obtain ⟨hanswer, htranscript⟩ := Database.query_of_transcribed hquery
    refine .inr ⟨z.2, [], m.table.createSql, [m.table.initSql], cause, ?_, ?_, hstops.transcript.2⟩
    · exact htranscript ▸ Exchange.answered_query _
    · simp [bootstrapSql, hready, hanswer, hcount]
  | @unfilled count z cause hquery hcount hstops =>
    obtain ⟨hanswer, htranscript⟩ := Database.query_of_transcribed hquery
    refine .inr ⟨z.2, [m.table.createSql], m.table.initSql, [], cause, ?_, ?_, hstops.transcript.2⟩
    · exact htranscript ▸ Exchange.answered_query _
    · simp [bootstrapSql, hready, hanswer, hcount]

/-- **What a migration sends**, on any database: the statements that are due, up to the first that
is refused, and before them at most the query for the version table. -/
theorem migrate_transcript {result : Except EngineError Report} {r : Run σ}
    (h : migrate d m target s = (result, r)) :
    (∃ report asked, result = .ok report ∧ Exchange.Answered asked ∧
      transcript d m target s = asked ++ (due d m target s).map .accepted ∧
      ((m.plan target).steps = [] → asked = [])) ∨
    (∃ e, result = .error e) ∧ (m.plan target).steps ≠ [] ∧
      ((∃ cause, transcript d m target s = [⟨.query m.table.existsSql, some cause⟩]) ∨
      ∃ asked before sql after cause, Exchange.Answered asked ∧
        due d m target s = before ++ sql :: after ∧
        transcript d m target s = asked ++ before.map .accepted ++ [.refused sql cause]) := by
  obtain ⟨r', h', -, hdatabase⟩ := migrate_transcribed h
  have houtcome := migrate_outcome h'
  rw [hdatabase] at houtcome
  cases houtcome with
  | idle hplan hresult _ _ hs =>
    refine .inl ⟨_, [], hresult, Exchange.answered_nil, ?_, fun _ => rfl⟩
    rw [(Prod.mk.inj hs).2, due_of_nil hplan]
    rfl
  | unprepared hplan hready hensures hresult =>
    refine .inr ⟨⟨_, hresult⟩, hplan, ?_⟩
    obtain hquery | ⟨asked, before, sql, after, cause, hasked, hsql, htranscript⟩ :=
      transcript_of_unprepared hready hensures
    · exact .inl hquery
    · refine .inr ⟨asked, before, sql, after ++ (m.plan target).steps.flatMap (Step.sql m.table),
        cause, hasked, ?_, htranscript⟩
      rw [due_of_ne_nil hplan, hsql, List.append_assoc, List.cons_append]
  | @complete y hplan hprepares haccepts hresult =>
    obtain ⟨asked, hasked, htranscript⟩ := hprepares.transcript
    refine .inl ⟨_, asked, hresult, hasked, ?_, fun hnil => absurd hnil hplan⟩
    have hall : transcript d m target s = y.2 ++ _ := haccepts.transcript.2
    rw [hall, htranscript, due_of_ne_nil hplan, List.map_append, List.append_assoc]
  | @stopped y step rest before sql cause e hprepares hplan hstops hblames hresult =>
    have hne : (m.plan target).steps ≠ [] := by rw [hplan]; simp
    obtain ⟨asked, hasked, htranscript⟩ := hprepares.transcript
    -- what the failing step would have sent comes next, and then the steps that are left
    obtain ⟨after, hafter⟩ := hblames.isPrefix
    refine .inr ⟨⟨e, hresult⟩, hne, .inr ⟨asked, bootstrapSql d m s ++
      ((completedBy d.transcribed m target (s, [])).flatMap (Step.sql m.table) ++ before), sql,
      after ++ rest.flatMap (Step.sql m.table), cause, hasked, ?_, ?_⟩⟩
    · rw [due_of_ne_nil hne, hplan, List.flatMap_append, List.flatMap_cons, ← hafter]
      simp
    · have hall : transcript d m target s = y.2 ++ _ ++ _ := hstops.transcript.2
      rw [hall, htranscript, List.map_append]
      simp

/-- **A migration does what its plan says.**  On any database, what it sends begins the statements
that are due.  It succeeds exactly when all of them are sent and none is refused; otherwise the last
call is the one that was refused.  Where nothing has to move there is no call at all. -/
theorem migrate_sends_due (d : Database σ) (m : Migrator) (target : Int) (s : σ) :
    let result := (migrate d m target s).1
    let calls := transcript d m target s
    Exchange.sent calls <+: due d m target s ∧
    ((∃ report, result = .ok report) ↔
      Exchange.sent calls = due d m target s ∧ ∀ y ∈ calls, y.refusal = none) ∧
    (∀ e, result = .error e →
      (∃ cause, calls = [⟨.query m.table.existsSql, some cause⟩]) ∨
      ∃ before sql cause, calls = before ++ [.refused sql cause] ∧
        ∀ y ∈ before, y.refusal = none) ∧
    ((m.plan target).steps = [] → calls = []) := by
  intro result calls
  have hmigrate : migrate d m target s = (result, (migrate d m target s).2) := rfl
  have hcalls : transcript d m target s = calls := rfl
  -- only the transcript matters from here on
  clear_value result calls
  have haccepted {sqls : List String} {asked : List Exchange} (hasked : Exchange.Answered asked) :
      ∀ y ∈ asked ++ sqls.map .accepted, y.refusal = none := by
    intro y hy
    rcases List.mem_append.mp hy with hy | hy
    · exact (hasked y hy).2
    · exact Exchange.refusal_of_mem_accepted hy
  have houtcome := migrate_transcript hmigrate
  rw [hcalls] at houtcome
  obtain ⟨report, asked, rfl, hasked, rfl, hidle⟩ | ⟨⟨e, rfl⟩, hplan, hstopped⟩ := houtcome
  · have hsent : Exchange.sent (asked ++ (due d m target s).map .accepted) = due d m target s := by
      rw [Exchange.sent_append, hasked.sent_eq_nil, Exchange.sent_accepted, List.nil_append]
    refine ⟨?_, ⟨fun _ => ⟨hsent, haccepted hasked⟩, fun _ => ⟨report, rfl⟩⟩, ?_, fun hnil => ?_⟩
    · exact ⟨[], (List.append_nil _).trans hsent⟩
    · intro e he
      cases he
    · rw [hidle hnil, due_of_nil hnil]
      rfl
  · have hfails : ¬ ∃ report, Except.error e = (Except.ok report : Except EngineError Report) := by
      rintro ⟨report, habs⟩
      cases habs
    obtain ⟨cause, rfl⟩ | ⟨asked, before, sql, after, cause, hasked, hdue, rfl⟩ := hstopped
    · refine ⟨List.nil_prefix, ⟨fun hok => absurd hok hfails, ?_⟩, fun _ _ => .inl ⟨cause, rfl⟩,
        fun hnil => absurd hnil hplan⟩
      rintro ⟨-, hall⟩
      cases hall _ (List.mem_singleton_self _)
    · refine ⟨?_, ⟨fun hok => absurd hok hfails, ?_⟩,
        fun _ _ => .inr ⟨_, sql, cause, rfl, haccepted hasked⟩, fun hnil => absurd hnil hplan⟩
      · rw [Exchange.sent_append, Exchange.sent_append, hasked.sent_eq_nil, Exchange.sent_accepted,
          Exchange.sent_refused, List.nil_append, hdue]
        exact ⟨after, by simp⟩
      · rintro ⟨-, hall⟩
        cases hall _ (List.mem_append_right _ (List.mem_singleton_self _))

/-- Sending all that is due is not enough: the statement that records the last version may be
refused when it has been sent. -/
theorem migrate_fails_after_sending_all :
    let s : MemoryDatabase :=
      { tables := [("SchemaInfo", [.nat 1])], rules := [{ pattern := "UPDATE" }] }
    let m : Migrator := ⟨⟨"SchemaInfo"⟩, [], 1, true⟩
    ¬ ((∃ report, (migrate MemoryDatabase.database m 0 s).1 = .ok report) ↔
      Exchange.sent (transcript MemoryDatabase.database m 0 s) =
        due MemoryDatabase.database m 0 s) := by
  intro s m hiff
  have hsent : Exchange.sent (transcript MemoryDatabase.database m 0 s) =
      due MemoryDatabase.database m 0 s := by decide +kernel
  obtain ⟨report, hok⟩ := hiff.mpr hsent
  have hfails : (migrate MemoryDatabase.database m 0 s).1.toOption = none := by decide +kernel
  rw [hok] at hfails
  cases hfails

end SchemaMigration.Migrator
