import SchemaMigration.Proofs.Migrator.Binding
import SchemaMigration.Proofs.Migrator.Recorded

/-!
# Opening a migrator again

Where there is no version table, a migrator is opened in four calls, and each of them may be
refused.  `VersionTable.opening` lists them together with the rows that the table has when each is
made, and `bind_interrupted` says that an opening that fails has stopped at one of them.  Another
attempt succeeds unless that was the statement that puts in the first version
(`reopening_succeeds_iff`): this leaves the table without a row, and a table that is there is never
filled.
-/

namespace SchemaMigration

/-- The calls that open a migrator where there is no version table, in order, each with the rows
that the table has when the call is made. -/
def VersionTable.opening (t : VersionTable) : List (DatabaseCall × Option (List Json)) :=
  [(.query t.existsSql, none), (.execute t.createSql, none), (.execute t.initSql, some []),
    (.query t.readSql, some [.nat 0])]

namespace Migrator

variable {σ : Type} {d : Database σ} {t : VersionTable} {rows : σ → Option (List Json)}
  {ds : List Descriptor} {s : σ} {x : σ × List Exchange} {log : List LogRecord} {e : EngineError}

/-! ### Where an opening stops -/

/-- An opening that fails where there is no version table has stopped at one of its calls, with all
calls before it accepted, and the rows are those that the call has found. -/
theorem bind_interrupted (hd : t.Served d rows) (hrows : rows s = none)
    (h : bind d.transcribed ds t true (s, []) = (.error e, log, x)) :
    ∃ before call cells after cause, t.opening = before ++ (call, cells) :: after ∧
      x.2 = before.map (fun c => ⟨c.1, none⟩) ++ [⟨call, some cause⟩] ∧ rows x.1 = cells ∧
      e = t.engineError cause := by
  have hasked {answer : Except DatabaseError (Option Int)} {y : σ × List Exchange}
      (hquery : d.transcribed.query t.existsSql (s, []) = (answer, y)) :
      rows y.1 = none ∧ y.2 = [⟨.query t.existsSql, Database.refusal? answer⟩] :=
    ⟨(hd.transcribed.rows_query hquery).trans hrows, (Database.query_of_transcribed hquery).2⟩
  obtain ⟨e', he, hensures⟩ | ⟨made, y, hensures, hread⟩ := bind_cases h
  · -- the table has not been made, so the calls go as far as its second statement
    obtain rfl := Except.error.inj he
    cases hensures with
    | @unknown cause hquery hresult =>
      obtain ⟨hrows₁, hcalls⟩ := hasked hquery
      exact ⟨[], _, _, _, cause, rfl, hcalls, hrows₁, Except.error.inj hresult⟩
    | present _ _ hresult => cases hresult
    | created _ _ _ hresult => cases hresult
    | @uncreated count y cause hquery _ hstops hresult =>
      obtain ⟨hrows₁, hcalls⟩ := hasked hquery
      refine ⟨[_], _, _, _, cause, rfl, ?_, ?_, Except.error.inj hresult⟩
      · rw [hstops.transcript.2, hcalls]
        rfl
      · exact (hd.transcribed.rows_stopsAt (by simp) hstops).trans hrows₁
    | @unfilled count y cause hquery _ hstops hresult =>
      obtain ⟨hrows₁, hcalls⟩ := hasked hquery
      refine ⟨[_, _], _, _, _, cause, rfl, ?_, ?_, Except.error.inj hresult⟩
      · rw [hstops.transcript.2, hcalls]
        rfl
      · obtain ⟨z, _ | ⟨hcreate, _ | _⟩, hinit⟩ := hstops
        rw [hd.transcribed.rows_refused hinit, hd.transcribed.rows_create hrows₁ hcreate]
  · -- the table has been made with version zero in it, so only the query for it can fail
    have hfilled : rows y.1 = some [.nat 0] := by
      obtain ⟨-, hfilled⟩ | ⟨⟨e', habs⟩, -⟩ := hd.transcribed.rows_ensure_none hensures hrows
      · exact hfilled
      · cases habs
    have hcalls : y.2 = [⟨.query t.existsSql, none⟩, .accepted t.createSql,
        .accepted t.initSql] := by
      cases hensures with
      | unknown _ hresult => cases hresult
      | present hquery hcount =>
        rw [hd.transcribed.count_pos hquery, hrows] at hcount
        cases hcount
      | created hquery _ haccepts =>
        rw [haccepts.transcript.2, (hasked hquery).2]
        rfl
      | uncreated _ _ _ hresult => cases hresult
      | unfilled _ _ _ hresult => cases hresult
    obtain ⟨e', he, hread⟩ | ⟨v, habs, -⟩ := hread
    · obtain rfl := Except.error.inj he
      obtain ⟨value, hquery, hresult⟩ | ⟨cause, hquery, hresult⟩ := VersionTable.read_cases hread
      · have hvalue : value = some ((0 : Nat) : Int) := hd.transcribed.value_eq hfilled hquery
        rw [VersionTable.version_eq_ok.mpr hvalue] at hresult
        cases hresult
      · refine ⟨[_, _, _], _, _, _, cause, rfl, ?_, ?_, Except.error.inj hresult⟩
        · rw [(Database.query_of_transcribed hquery).2, hcalls]
          rfl
        · exact (hd.transcribed.rows_query hquery).trans hfilled
    · cases habs

/-! ### The next attempt -/

/-- Where there is no version table, a migrator at version zero is opened unless a call is
refused. -/
theorem bind_succeeds_fresh (hd : t.Served d rows) {result : Except EngineError Migrator}
    (h : bind d.transcribed ds t true (s, []) = (result, log, x)) (hrows : rows s = none)
    (haccepted : ∀ y ∈ x.2, y.refusal = none) :
    result = .ok ⟨t, ds, 0, true⟩ ∧ rows x.1 = some [.nat 0] := by
  cases result with
  | error e =>
    obtain ⟨before, call, cells, after, cause, -, hcalls, -, -⟩ := bind_interrupted hd hrows h
    have hrefused : (⟨call, some cause⟩ : Exchange) ∈ x.2 := by rw [hcalls]; simp
    cases haccepted _ hrefused
  | ok m =>
    obtain ⟨⟨e, habs⟩, -⟩ | ⟨hfilled, hm⟩ := bind_rows_fresh hd.transcribed h (.inl hrows)
    · cases habs
    · exact ⟨congrArg Except.ok (hm m rfl), hfilled⟩

/-- Where the version table has no row, no migrator is opened, and unless a call is refused this is
what the error says. -/
theorem bind_fails_empty (hd : t.Served d rows) {result : Except EngineError Migrator}
    (h : bind d.transcribed ds t true (s, []) = (result, log, x)) (hrows : rows s = some [])
    (haccepted : ∀ y ∈ x.2, y.refusal = none) :
    result = .error (.corruptVersion t.name "no version row") ∧ rows x.1 = some [] := by
  refine ⟨?_, (bind_rows_some hd.transcribed h hrows).1⟩
  -- no call is refused, so what goes wrong is that the query for the version has no answer
  obtain ⟨cause, hquery, -⟩ | ⟨count, y, hquery, hread⟩ :=
    bind_cases_of_rows_some hd.transcribed h hrows
  · rw [(Database.query_of_transcribed hquery).2] at haccepted
    cases haccepted _ (List.mem_append_right _ (List.mem_singleton_self _))
  · have hempty : rows y.1 = some [] := (hd.transcribed.rows_query hquery).trans hrows
    obtain ⟨e, rfl, hread⟩ | ⟨v, -, hread⟩ := hread
    · obtain ⟨value, hvalue, he⟩ | ⟨cause, hcause, -⟩ := VersionTable.read_cases hread
      · have hnone : value = none := hd.transcribed.value_eq hempty hvalue
        rw [hnone] at he
        exact congrArg Except.error (Except.error.inj he)
      · rw [(Database.query_of_transcribed hcause).2] at haccepted
        cases haccepted _ (List.mem_append_right _ (List.mem_singleton_self _))
    · cases hd.transcribed.read_version hread hempty

/-- **Opening again.**  Let an opening fail where there was no version table.  It has stopped at one
of its four calls, and with no further refusal the next opening gives a migrator at version zero,
and a table with that version in its one row, exactly if that call was not the statement that puts
in the first version.  After that statement the next opening fails because the table has no row, and
leaves it so. -/
theorem reopening_succeeds_iff (hd : t.Served d rows) (hrows : rows s = none)
    (h : bind d.transcribed ds t true (s, []) = (.error e, log, x)) :
    ∃ before call cells after cause, t.opening = before ++ (call, cells) :: after ∧
      x.2 = before.map (fun c => ⟨c.1, none⟩) ++ [⟨call, some cause⟩] ∧ rows x.1 = cells ∧
      e = t.engineError cause ∧
      let b := bind d.transcribed ds t true (x.1, [])
      (∀ y ∈ b.2.2.2, y.refusal = none) →
        (b.1 = .ok ⟨t, ds, 0, true⟩ ∧ rows b.2.2.1 = some [.nat 0] ↔
          call ≠ .execute t.initSql) ∧
        (call = .execute t.initSql →
          b.1 = .error (.corruptVersion t.name "no version row") ∧ rows b.2.2.1 = some []) := by
  obtain ⟨before, call, cells, after, cause, hopening, hcalls, hcells, he⟩ :=
    bind_interrupted hd hrows h
  refine ⟨before, call, cells, after, cause, hopening, hcalls, hcells, he, ?_⟩
  intro b haccepted
  have hb : bind d.transcribed ds t true (x.1, []) = (b.1, b.2.1, b.2.2) := rfl
  have hmem : (call, cells) ∈ t.opening := by rw [hopening]; simp
  simp only [VersionTable.opening, List.mem_cons, List.not_mem_nil, or_false,
    Prod.mk.injEq] at hmem
  -- what comes of the next opening depends on the rows that the refused call has found
  obtain ⟨rfl, rfl⟩ | ⟨rfl, rfl⟩ | ⟨rfl, rfl⟩ | ⟨rfl, rfl⟩ := hmem
  · have hopened := bind_succeeds_fresh hd hb hcells haccepted
    have hcall : DatabaseCall.query t.existsSql ≠ .execute t.initSql := by simp
    exact ⟨⟨fun _ => hcall, fun _ => hopened⟩, fun habs => absurd habs hcall⟩
  · have hopened := bind_succeeds_fresh hd hb hcells haccepted
    have hcall : DatabaseCall.execute t.createSql ≠ .execute t.initSql := by
      intro habs
      exact t.createSql_ne_initSql (DatabaseCall.execute.inj habs)
    exact ⟨⟨fun _ => hcall, fun _ => hopened⟩, fun habs => absurd habs hcall⟩
  · have hfails := bind_fails_empty hd hb hcells haccepted
    refine ⟨⟨?_, fun habs => absurd rfl habs⟩, fun _ => hfails⟩
    rintro ⟨habs, -⟩
    rw [hfails.1] at habs
    cases habs
  · have hopened := bind_succeeds hd hb hcells (v := 0) rfl haccepted
    have hfilled := (bind_rows_some hd.transcribed hb hcells).1
    have hcall : DatabaseCall.query t.readSql ≠ .execute t.initSql := by simp
    exact ⟨⟨fun _ => hcall, fun _ => ⟨hopened, hfilled⟩⟩, fun habs => absurd habs hcall⟩

/-- In memory, the query for the version is refused, and the next opening succeeds. -/
theorem reopening_after_refused_read :
    let d := MemoryDatabase.strict.disrupted fun call =>
      if call = 3 then some ⟨.connection, "refused"⟩ else none
    let t : VersionTable := ⟨"SchemaInfo"⟩
    let a := bind d.transcribed [Descriptor.probe] t true ((({} : MemoryDatabase), 0), [])
    let b := bind d.transcribed [Descriptor.probe] t true (a.2.2.1, [])
    a.1.toOption = none ∧
      a.2.2.2.getLast? = some ⟨.query t.readSql, some ⟨.connection, "refused"⟩⟩ ∧
      b.1 = .ok ⟨t, [Descriptor.probe], 0, true⟩ ∧
      b.2.2.1.1.rows? "SchemaInfo" = some [.nat 0] := by
  intro d t a b
  obtain ⟨hfails, hlast, haccepted⟩ : a.1.toOption = none ∧
      a.2.2.2.getLast? = some ⟨.query t.readSql, some ⟨.connection, "refused"⟩⟩ ∧
      ∀ y ∈ b.2.2.2, y.refusal = none := by decide +kernel
  -- from here on the first opening stands for itself
  have ha : bind d.transcribed [Descriptor.probe] t true ((({} : MemoryDatabase), 0), []) = a := rfl
  have hb : bind d.transcribed [Descriptor.probe] t true (a.2.2.1, []) = b := rfl
  clear_value b a
  obtain ⟨result, log, x⟩ := a
  cases result with
  | ok m => cases hfails
  | error e =>
    have hserved := (MemoryDatabase.served_strict (t := t) (by decide +kernel)).disrupted
      fun call => if call = 3 then some ⟨.connection, "refused"⟩ else none
    obtain ⟨before, call, cells, after, cause, -, hcalls, -, -, hagain⟩ :=
      reopening_succeeds_iff hserved (s := (({} : MemoryDatabase), 0)) rfl ha
    have hcall : call ≠ .execute t.initSql := by
      rw [hcalls, List.getLast?_concat] at hlast
      rintro rfl
      cases congrArg Exchange.call (Option.some.inj hlast)
    rw [hb] at hagain
    exact ⟨hfails, hlast, (hagain haccepted).1.mpr hcall⟩

/-- In memory, the statement that puts in the first version is refused, and although nothing is
refused after it, no migrator is opened on this database. -/
theorem refused_init_is_final :
    let d := MemoryDatabase.strict.disrupted fun call =>
      if call = 2 then some ⟨.execution, "refused"⟩ else none
    let t : VersionTable := ⟨"SchemaInfo"⟩
    let a := bind d.transcribed [Descriptor.probe] t true ((({} : MemoryDatabase), 0), [])
    let b := bind d.transcribed [Descriptor.probe] t true (a.2.2.1, [])
    a.1.toOption = none ∧
      a.2.2.2.getLast? = some (.refused t.initSql ⟨.execution, "refused"⟩) ∧
      (∀ y ∈ b.2.2.2, y.refusal = none) ∧ b.1.toOption = none ∧
      (b.2.2.1.1.rows? "SchemaInfo").map List.length = some 0 := by
  decide +kernel

end Migrator
end SchemaMigration
