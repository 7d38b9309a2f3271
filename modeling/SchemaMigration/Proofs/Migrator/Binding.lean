import SchemaMigration.Migrator
import SchemaMigration.Proofs.Result
import SchemaMigration.Proofs.VersionTable

/-!
# What comes of opening a migrator

`bind_cases` and `bind_without_cases` list what comes of opening a migrator on any database, with
and without making the version table.  Over a database that serves the table, `bind_rows_some` and
`bind_rows_fresh` say which version the migrator has and what becomes of the rows.
-/

namespace SchemaMigration

namespace Migrator

variable {σ : Type} {d : Database σ} {t : VersionTable} {rows : σ → Option (List Json)}
  {ds : List Descriptor} {s s' : σ} {log : List LogRecord} {result : Except EngineError Migrator}
  {cells : List Json}

/-- A migrator is opened by making the table and reading it. -/
theorem bind_cases (h : bind d ds t true s = (result, log, s')) :
    (∃ e, result = .error e ∧ t.Ensures d s (.error e) s') ∨
    ∃ made s₁, t.Ensures d s (.ok made) s₁ ∧
      ((∃ e, result = .error e ∧ t.read d s₁ = (.error e, s')) ∨
        ∃ v, result = .ok ⟨t, ds, v, true⟩ ∧ t.read d s₁ = (.ok v, s')) := by
  unfold bind storedVersion at h
  simp only [if_true] at h
  -- the version is read only from a table that has been made or found
  cases hensure : t.ensure d s with
  | mk ensured rest =>
    obtain ⟨log₁, s₁⟩ := rest
    rw [hensure] at h
    have hensures := VersionTable.ensure_cases hensure
    cases ensured with
    | error e =>
      obtain ⟨rfl, hrest⟩ := Prod.mk.inj h
      obtain ⟨-, rfl⟩ := Prod.mk.inj hrest
      exact .inl ⟨e, rfl, hensures⟩
    | ok made =>
      refine .inr ⟨made, s₁, hensures, ?_⟩
      cases hread : t.read d s₁ with
      | mk version s₂ =>
        simp only [hread] at h
        cases version with
        | error e =>
          obtain ⟨rfl, hrest⟩ := Prod.mk.inj h
          obtain ⟨-, rfl⟩ := Prod.mk.inj hrest
          exact .inl ⟨e, rfl, rfl⟩
        | ok v =>
          obtain ⟨rfl, hrest⟩ := Prod.mk.inj h
          obtain ⟨-, rfl⟩ := Prod.mk.inj hrest
          exact .inr ⟨v, rfl, rfl⟩

/-- A migrator that is opened without making the table counts a missing table as version zero. -/
theorem bind_without_cases (h : bind d ds t false s = (result, log, s')) :
    (∃ cause, d.query t.existsSql s = (.error cause, s') ∧
      result = .error (t.engineError cause)) ∨
    (∃ count, d.query t.existsSql s = (.ok count, s') ∧ ¬ 0 < count.getD 0 ∧
      result = .ok ⟨t, ds, 0, false⟩) ∨
    ∃ count s₁, d.query t.existsSql s = (.ok count, s₁) ∧ 0 < count.getD 0 ∧
      ((∃ e, result = .error e ∧ t.read d s₁ = (.error e, s')) ∨
        ∃ v, result = .ok ⟨t, ds, v, true⟩ ∧ t.read d s₁ = (.ok v, s')) := by
  unfold bind storedVersion VersionTable.isThere VersionTable.ask at h
  simp only [Bool.false_eq_true, if_false] at h
  cases hquery : d.query t.existsSql s with
  | mk answer s₁ =>
    rw [hquery] at h
    cases answer with
    | error cause =>
      obtain ⟨rfl, hrest⟩ := Prod.mk.inj h
      obtain ⟨-, rfl⟩ := Prod.mk.inj hrest
      exact .inl ⟨cause, rfl, rfl⟩
    | ok count =>
      -- a table that is missing stands for version zero, and no version is asked for
      by_cases hcount : 0 < count.getD 0
      · simp only [hcount, decide_true] at h
        refine .inr (.inr ⟨count, s₁, rfl, hcount, ?_⟩)
        cases hread : t.read d s₁ with
        | mk version s₂ =>
          simp only [hread] at h
          cases version with
          | error e =>
            obtain ⟨rfl, hrest⟩ := Prod.mk.inj h
            obtain ⟨-, rfl⟩ := Prod.mk.inj hrest
            exact .inl ⟨e, rfl, rfl⟩
          | ok v =>
            obtain ⟨rfl, hrest⟩ := Prod.mk.inj h
            obtain ⟨-, rfl⟩ := Prod.mk.inj hrest
            exact .inr ⟨v, rfl, rfl⟩
      · simp only [hcount, decide_false] at h
        obtain ⟨rfl, hrest⟩ := Prod.mk.inj h
        obtain ⟨-, rfl⟩ := Prod.mk.inj hrest
        exact .inr (.inl ⟨count, rfl, hcount, rfl⟩)

/-- Where the table is there it is read, whether a missing table would be made or not. -/
theorem bind_cases_of_rows_some (hd : t.Served d rows) {bootstrap : Bool}
    (h : bind d ds t bootstrap s = (result, log, s')) (hrows : rows s = some cells) :
    (∃ cause, d.query t.existsSql s = (.error cause, s') ∧
      result = .error (t.engineError cause)) ∨
    ∃ count s₁, d.query t.existsSql s = (.ok count, s₁) ∧
      ((∃ e, result = .error e ∧ t.read d s₁ = (.error e, s')) ∨
        ∃ v, result = .ok ⟨t, ds, v, true⟩ ∧ t.read d s₁ = (.ok v, s')) := by
  -- a table that has rows is counted, so nothing is made
  have hcount {count : Option Int} {s₁ : σ} (hquery : d.query t.existsSql s = (.ok count, s₁)) :
      0 < count.getD 0 := by
    rw [hd.count_pos hquery, hrows]
    rfl
  cases bootstrap with
  | false =>
    obtain hrefused | ⟨count, hquery, habs, -⟩ | ⟨count, s₁, hquery, -, hread⟩ :=
      bind_without_cases h
    · exact .inl hrefused
    · exact absurd (hcount hquery) habs
    · exact .inr ⟨count, s₁, hquery, hread⟩
  | true =>
    obtain ⟨e, hresult, hensures⟩ | ⟨made, s₁, hensures, hread⟩ := bind_cases h
    · cases hensures with
      | unknown hquery he => exact .inl ⟨_, hquery, by rw [hresult, Except.error.inj he]⟩
      | present _ _ he => cases he
      | created _ _ _ he => cases he
      | uncreated hquery habs => exact absurd (hcount hquery) habs
      | unfilled hquery habs => exact absurd (hcount hquery) habs
    · cases hensures with
      | unknown _ he => cases he
      | present hquery => exact .inr ⟨_, s₁, hquery, hread⟩
      | created hquery habs => exact absurd (hcount hquery) habs
      | uncreated _ _ _ he => cases he
      | unfilled _ _ _ he => cases he

/-- Opening a migrator where the table is there reads its first row and changes nothing. -/
theorem bind_rows_some (hd : t.Served d rows) {bootstrap : Bool}
    (h : bind d ds t bootstrap s = (result, log, s')) (hrows : rows s = some cells) :
    rows s' = some cells ∧ ∀ m, result = .ok m →
      ∃ v : Nat, m = ⟨t, ds, v, true⟩ ∧ cells.head?.bind Json.int? = some (v : Int) := by
  obtain ⟨cause, hquery, rfl⟩ | ⟨count, s₁, hquery, hread⟩ := bind_cases_of_rows_some hd h hrows
  · exact ⟨(hd.rows_query hquery).trans hrows, fun m hm => by cases hm⟩
  · have hrows₁ := (hd.rows_query hquery).trans hrows
    obtain ⟨e, rfl, hread⟩ | ⟨v, rfl, hread⟩ := hread
    · exact ⟨(hd.rows_read hread).trans hrows₁, fun m hm => by cases hm⟩
    · refine ⟨(hd.rows_read hread).trans hrows₁, fun m hm => ⟨v, ?_, hd.read_version hread hrows₁⟩⟩
      exact (Except.ok.inj hm).symm

/-- Where the first row is a version, a migrator is opened unless a call is refused. -/
theorem bind_succeeds (hd : t.Served d rows) {bootstrap : Bool} {y : σ × List Exchange}
    (h : bind d.transcribed ds t bootstrap (s, []) = (result, log, y)) (hrows : rows s = some cells)
    {v : Nat} (hv : cells.head?.bind Json.int? = some (v : Int))
    (haccepted : ∀ x ∈ y.2, x.refusal = none) : result = .ok ⟨t, ds, v, true⟩ := by
  obtain ⟨cause, hquery, -⟩ | ⟨count, z, hquery, hread⟩ :=
    bind_cases_of_rows_some hd.transcribed h hrows
  · rw [(Database.query_of_transcribed hquery).2] at haccepted
    cases haccepted _ (List.mem_append_right _ (List.mem_singleton_self _))
  · have hrows₁ : rows z.1 = some cells := (hd.transcribed.rows_query hquery).trans hrows
    obtain ⟨e, -, hread⟩ | ⟨v', rfl, hread⟩ := hread
    · -- the version has been fetched, or else its query was refused, and that has not happened
      obtain ⟨value, hvalue, he⟩ | ⟨cause, hcause, -⟩ := VersionTable.read_cases hread
      · have hversion : t.version value = .ok v := by
          rw [VersionTable.version_eq_ok, ← hv]
          exact hd.transcribed.value_eq hrows₁ hvalue
        rw [hversion] at he
        cases he
      · rw [(Database.query_of_transcribed hcause).2] at haccepted
        cases haccepted _ (List.mem_append_right _ (List.mem_singleton_self _))
    · have hvalue := hd.transcribed.read_version hread hrows₁
      have heq : (v' : Int) = v := Option.some.inj (hvalue.symm.trans hv)
      rw [show v' = v by omega]

/-- Opening a migrator where no version is recorded either fails and records none, or makes the
table with version zero. -/
theorem bind_rows_fresh (hd : t.Served d rows) (h : bind d ds t true s = (result, log, s'))
    (hrows : rows s = none ∨ rows s = some []) :
    ((∃ e, result = .error e) ∧ (rows s' = none ∨ rows s' = some [])) ∨
      (rows s' = some [.nat 0] ∧ ∀ m, result = .ok m → m = ⟨t, ds, 0, true⟩) := by
  obtain hnone | hempty := hrows
  · obtain ⟨e, rfl, hensures⟩ | ⟨made, s₁, hensures, hread⟩ := bind_cases h
    · obtain ⟨habs, -⟩ | ⟨-, hrows'⟩ := hd.rows_ensure_none hensures hnone
      · cases habs
      · exact .inl ⟨⟨e, rfl⟩, hrows'⟩
    · obtain ⟨-, hrows₁⟩ | ⟨⟨e, habs⟩, -⟩ := hd.rows_ensure_none hensures hnone
      · -- the table has been made, and only reading it can fail
        refine .inr ?_
        obtain ⟨e, rfl, hread⟩ | ⟨v, rfl, hread⟩ := hread
        · exact ⟨(hd.rows_read hread).trans hrows₁, fun m hm => by cases hm⟩
        · refine ⟨(hd.rows_read hread).trans hrows₁, fun m hm => ?_⟩
          have hvalue := hd.read_version hread hrows₁
          have hv : (0 : Int) = v := Option.some.inj hvalue
          rw [← Except.ok.inj hm, show v = 0 by omega]
      · cases habs
  · obtain ⟨hrows', hok⟩ := bind_rows_some hd h hempty
    cases result with
    | error e => exact .inl ⟨⟨e, rfl⟩, .inr hrows'⟩
    | ok m =>
      obtain ⟨v, -, hvalue⟩ := hok m rfl
      cases hvalue

end Migrator
end SchemaMigration
