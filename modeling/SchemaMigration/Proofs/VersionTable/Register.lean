import SchemaMigration.Proofs.Database.Tables
import SchemaMigration.Proofs.Result
import Mathlib.Data.List.Induction

/-!
# The version table is a register

Over a database that gives statements and queries on tables their usual meaning, the version table
is a register: what is read is what has been written last, and other tables keep their rows, however
much their names have in common with that of the version table (`is_register`).  One call gives the
answer that is expected of it and leaves the version that is expected (`Stands.perform`), and so a
sequence of calls leaves the version that was written last (`stands_after`).
-/

namespace SchemaMigration

theorem Config.isIdentifier_of_validate {c : Config} (h : c.validate = .ok c) :
    isIdentifier c.versionTable = true := by
  refine Bool.not_eq_false _ ▸ fun hbad => ?_
  have hsome : c.badSetting?.isSome = true := by
    unfold badSetting?
    split
    · rfl
    · split
      · rfl
      · simp [hbad]
  unfold validate at h
  split at h
  · cases h
  · next hnone =>
    rw [hnone] at hsome
    cases hsome

namespace VersionTable

/-! ### Calls -/

/-- A use of the version table. -/
inductive Call where
  | ensure
  | isThere
  | read
  | write (version : Nat)
  deriving DecidableEq, Repr

/-- What a use of the version table gives. -/
inductive Answer where
  | ensured (made : Bool)
  | there (there : Bool)
  | version (version : Nat)
  | written
  deriving DecidableEq, Repr

variable {σ : Type}

/-- Makes a call. -/
def perform (d : Database σ) (t : VersionTable) (call : Call) (s : σ) :
    Except EngineError Answer × σ :=
  match call with
  | .ensure =>
    let (result, _, s') := t.ensure d s
    (result.map .ensured, s')
  | .isThere =>
    let (result, s') := t.isThere d s
    (result.map .there, s')
  | .read =>
    let (result, s') := t.read d s
    (result.map .version, s')
  | .write version =>
    let (result, s') := t.write d version s
    (result.map fun _ => .written, s')

/-- The state after calls made one after the other. -/
def after (d : Database σ) (t : VersionTable) (calls : List Call) (s : σ) : σ :=
  calls.foldl (fun s call => (t.perform d call s).2) s

namespace Call

/-- The version that a call writes. -/
def written? : Call → Option Nat
  | write version => some version
  | _ => none

/-- The version that the calls have written last, or zero if they have written none. -/
def latest (calls : List Call) : Nat := (calls.filterMap written?).getLast?.getD 0

/-- The answer of a table that is there and holds a version. -/
def reply (version : Nat) : Call → Answer
  | ensure => .ensured false
  | isThere => .there true
  | read => .version version
  | write _ => .written

/-- The answer that is expected of a call after earlier ones: only the first time is a table made,
and what is read has been written last. -/
def answer (before : List Call) : Call → Answer
  | ensure => .ensured (ensure ∉ before)
  | isThere => .there true
  | read => .version (latest before)
  | write _ => .written

theorem answer_eq_reply {before : List Call} (h : ensure ∈ before) (call : Call) :
    call.answer before = call.reply (latest before) := by
  cases call <;> simp [answer, reply, h]

theorem latest_concat (calls : List Call) (call : Call) :
    latest (calls ++ [call]) = call.written?.getD (latest calls) := by
  rw [latest, latest, List.filterMap_append]
  cases call <;> simp [written?]

end Call

/-! ### One call -/

section
variable {d : Database σ} {tables : σ → Tables} {calm : σ → Prop} {t : VersionTable} {s : σ}
  (hd : d.Tabulates tables calm) (ht : Config.isIdentifier t.name = true)
include hd ht

theorem isThere_eq (hs : calm s) :
    ∃ s', t.isThere d s = (.ok (tables s t.name).isSome, s') ∧ calm s' ∧ tables s' = tables s := by
  obtain ⟨s', hquery, hcalm, htables⟩ := hd.query hs (reads_existsSql ht) rfl
  refine ⟨s', ?_, hcalm, htables⟩
  simp only [isThere, ask, hquery]
  cases tables s t.name <;> rfl

/-- Where the table is missing it is made, with the version zero. -/
theorem ensure_of_missing (hs : calm s) (hmissing : tables s t.name = none) :
    ∃ log s', t.ensure d s = (.ok true, log, s') ∧ calm s' ∧
      tables s' = Function.update (tables s) t.name (some [.nat 0]) := by
  obtain ⟨s₁, hthere, hcalm₁, htables₁⟩ := isThere_eq hd ht hs
  rw [hmissing] at hthere
  rw [← htables₁] at hmissing ⊢
  obtain ⟨_, s₂, hcreate, hcalm₂, htables₂⟩ :=
    hd.execute hcalm₁ (reads_createSql ht) (TableStatement.run?_create hmissing)
  have hempty : tables s₂ t.name = some [] := by rw [htables₂, Function.update_self]
  obtain ⟨_, s₃, hinit, hcalm₃, htables₃⟩ :=
    hd.execute hcalm₂ (reads_initSql ht) (TableStatement.run?_insertZero hempty)
  refine ⟨[t.createRecord], s₃, ?_, hcalm₃, ?_⟩
  · simp only [ensure, hthere, Option.isSome_none, create, send, hcreate, hinit]
  · rw [htables₃, htables₂, Function.update_idem, List.nil_append]

/-- Where the table is there, nothing is made. -/
theorem ensure_of_present (hs : calm s) (hthere : (tables s t.name).isSome = true) :
    ∃ s', t.ensure d s = (.ok false, [], s') ∧ calm s' ∧ tables s' = tables s := by
  obtain ⟨s', heq, hcalm, htables⟩ := isThere_eq hd ht hs
  refine ⟨s', ?_, hcalm, htables⟩
  rw [hthere] at heq
  simp only [ensure, heq]

theorem read_eq (hs : calm s) {version : Nat} (hfits : version < 2 ^ 63)
    (hrows : tables s t.name = some [.nat version]) :
    ∃ s', t.read d s = (.ok version, s') ∧ calm s' ∧ tables s' = tables s := by
  obtain ⟨s', hquery, hcalm, htables⟩ :=
    hd.query hs (reads_readSql ht) (TableQuery.answer?_version hrows hfits)
  refine ⟨s', ?_, hcalm, htables⟩
  simp only [read, ask, hquery]
  rw [version_eq_ok.mpr rfl]

theorem write_eq (hs : calm s) {rows : List Json} (hrows : tables s t.name = some rows)
    {version : Nat} (hfits : version < 2 ^ 63) :
    ∃ s', t.write d version s = (.ok (), s') ∧ calm s' ∧
      tables s' = Function.update (tables s) t.name (some (rows.map fun _ => .nat version)) := by
  obtain ⟨_, s', hexecute, hcalm, htables⟩ :=
    hd.execute hs (reads_updateSql ht hfits) (TableStatement.run?_update hrows version)
  refine ⟨s', ?_, hcalm, htables⟩
  simp only [write, send, hexecute]

end

/-! ### Sequences of calls -/

theorem after_concat (d : Database σ) (t : VersionTable) (calls : List Call) (call : Call) (s : σ) :
    t.after d (calls ++ [call]) s = (t.perform d call (t.after d calls s)).2 := by
  rw [after, after, List.foldl_append, List.foldl_cons, List.foldl_nil]

/-- The tables are those of the start, but the version table holds the one version. -/
structure Stands (tables : σ → Tables) (calm : σ → Prop) (t : VersionTable) (start : Tables)
    (version : Nat) (s : σ) : Prop where
  calm : calm s
  tables_eq : tables s = Function.update start t.name (some [.nat version])
  fits : version < 2 ^ 63

section
variable {d : Database σ} {tables : σ → Tables} {calm : σ → Prop} {t : VersionTable} {s : σ}
  {start : Tables} {version : Nat}
  (hd : d.Tabulates tables calm) (ht : Config.isIdentifier t.name = true)
include hd ht

/-- The first call makes the table. -/
theorem perform_ensure_of_missing (hs : calm s) (hmissing : tables s t.name = none) :
    ∃ s', t.perform d .ensure s = (.ok (.ensured true), s') ∧
      Stands tables calm t (tables s) 0 s' := by
  obtain ⟨log, s', hensure, hcalm, htables⟩ := ensure_of_missing hd ht hs hmissing
  refine ⟨s', ?_, hcalm, htables, by decide⟩
  simp only [perform, hensure]
  rfl

/-- A call leaves the version that it writes, or else the version as it is. -/
theorem Stands.perform (h : Stands tables calm t start version s) {call : Call}
    (hfits : ∀ n, call = .write n → n < 2 ^ 63) :
    ∃ s', t.perform d call s = (.ok (call.reply version), s') ∧
      Stands tables calm t start (call.written?.getD version) s' := by
  have hrows : tables s t.name = some [.nat version] := by rw [h.tables_eq, Function.update_self]
  -- only a write changes a table, and it changes none but this one
  cases call with
  | ensure =>
    obtain ⟨s', heq, hcalm, htables⟩ := ensure_of_present hd ht h.calm (by rw [hrows]; rfl)
    refine ⟨s', ?_, hcalm, htables.trans h.tables_eq, h.fits⟩
    simp only [VersionTable.perform, heq]
    rfl
  | isThere =>
    obtain ⟨s', heq, hcalm, htables⟩ := isThere_eq hd ht h.calm
    refine ⟨s', ?_, hcalm, htables.trans h.tables_eq, h.fits⟩
    simp only [VersionTable.perform, heq, hrows]
    rfl
  | read =>
    obtain ⟨s', heq, hcalm, htables⟩ := read_eq hd ht h.calm h.fits hrows
    refine ⟨s', ?_, hcalm, htables.trans h.tables_eq, h.fits⟩
    simp only [VersionTable.perform, heq]
    rfl
  | write n =>
    obtain ⟨s', heq, hcalm, htables⟩ := write_eq hd ht h.calm hrows (hfits n rfl)
    refine ⟨s', ?_, hcalm, ?_, hfits n rfl⟩
    · simp only [VersionTable.perform, heq]
      rfl
    · rw [htables, h.tables_eq, Function.update_idem]
      rfl

/-- Calls that begin with making the table leave what has been written last. -/
theorem stands_after (hs : calm s) (hmissing : tables s t.name = none) (rest : List Call)
    (hfits : ∀ n, .write n ∈ rest → n < 2 ^ 63) :
    Stands tables calm t (tables s) (Call.latest (.ensure :: rest))
      (t.after d (.ensure :: rest) s) := by
  induction rest using List.reverseRecOn with
  | nil =>
    obtain ⟨s', hensure, hstands⟩ := perform_ensure_of_missing hd ht hs hmissing
    have hafter : t.after d [.ensure] s = s' := by
      rw [after, List.foldl_cons, hensure, List.foldl_nil]
    rw [hafter]
    exact hstands
  | append_singleton rest call ih =>
    have hbefore := ih fun n hn => hfits n (List.mem_append_left _ hn)
    have hcallFits : ∀ n, call = .write n → n < 2 ^ 63 := fun n hn => hfits n (by simp [hn])
    obtain ⟨s', hcall, hstands⟩ := hbefore.perform hd ht hcallFits
    rw [← List.cons_append, after_concat, hcall, Call.latest_concat]
    exact hstands

end

/-- **The version table is a register**, and it is the only table that its calls touch.  Take a
database that gives statements and queries on tables their usual meaning, a table name that the
configuration accepts and a state without such a table.  Of calls that begin with making the table,
each one gives the answer that is expected: the table is made the first time and not again, it is
there, and what is read is what has been written last, or zero.  After each call the table holds
what has been written last, and all other tables are as they were at the start.  Only the first call
and those that write change any table. -/
theorem is_register {d : Database σ} {tables : σ → Tables} {calm : σ → Prop}
    (hd : d.Tabulates tables calm) {c : Config} (hc : c.validate = .ok c) {s : σ} (hs : calm s)
    (hmissing : tables s c.versionTable = none) {calls : List Call}
    (hfirst : calls.head? = some .ensure) (hfits : ∀ n, .write n ∈ calls → n ≤ 2 ^ 63 - 1)
    {before rest : List Call} {call : Call} (hcalls : calls = before ++ call :: rest) :
    let t : VersionTable := ⟨c.versionTable⟩
    ∃ s', t.perform d call (t.after d before s) = (.ok (call.answer before), s') ∧
      tables s' t.name = some [.nat (Call.latest (before ++ [call]))] ∧
      (∀ other, other ≠ t.name → tables s' other = tables s other) ∧
      (before ≠ [] → call.written? = none → tables s' = tables (t.after d before s)) := by
  intro t
  have ht : Config.isIdentifier t.name = true := Config.isIdentifier_of_validate hc
  rw [hcalls] at hfirst hfits
  -- the first call makes the table, and all calls behind it find it
  cases before with
  | nil =>
    obtain rfl : call = .ensure := by simpa using hfirst
    obtain ⟨s', hensure, hstands⟩ := perform_ensure_of_missing hd ht hs hmissing
    refine ⟨s', hensure, ?_, fun other hother => ?_, fun hne => absurd rfl hne⟩
    · rw [hstands.tables_eq, Function.update_self]
      rfl
    · rw [hstands.tables_eq, Function.update_of_ne hother]
  | cons first before =>
    obtain rfl : first = .ensure := by simpa using hfirst
    have hbefore := stands_after hd ht hs hmissing before fun n hn =>
      Nat.lt_of_le_pred (by decide) (hfits n (by simp [hn]))
    have hcallFits : ∀ n, call = .write n → n < 2 ^ 63 := fun n hn =>
      Nat.lt_of_le_pred (by decide) (hfits n (by simp [hn]))
    obtain ⟨s', hcall, hstands⟩ := hbefore.perform hd ht hcallFits
    rw [← Call.answer_eq_reply (List.mem_cons_self ..)] at hcall
    refine ⟨s', hcall, ?_, fun other hother => ?_, fun _ hwrites => ?_⟩
    · rw [hstands.tables_eq, Function.update_self, Call.latest_concat]
    · rw [hstands.tables_eq, Function.update_of_ne hother]
    · rw [hstands.tables_eq, hbefore.tables_eq, hwrites, Option.getD_none]

/-- Among tables whose names have much in common with that of the version table, the greatest
version of 64 bits with a sign is read back. -/
theorem is_register_among_neighbours :
    let db : MemoryDatabase :=
      { tables := [("SchemaInfo2", [.nat 42]), ("Schema", []), ("_SchemaInfo", [.string "x"])] }
    let t : VersionTable := ⟨"SchemaInfo"⟩
    let before : List Call := [.ensure, .write 5, .write (2 ^ 63 - 1), .ensure]
    ∃ s', t.perform MemoryDatabase.database .read (t.after MemoryDatabase.database before db) =
        (.ok (.version (2 ^ 63 - 1)), s') ∧
      s'.rows? "SchemaInfo" = some [.nat (2 ^ 63 - 1)] ∧
      ∀ other, other ≠ "SchemaInfo" → s'.rows? other = db.rows? other := by
  intro db t before
  let c : Config := { name := "app" }
  let calls : List Call := before ++ [.read]
  have hc : c.validate = .ok c := Except.eq_ok_of_toOption (by decide +kernel)
  have hmissing : db.rows? c.versionTable = none := by decide +kernel
  have hfits : ∀ n, Call.write n ∈ calls → n ≤ 2 ^ 63 - 1 := by
    intro n hn
    simp only [calls, before, List.mem_cons, List.mem_append, reduceCtorEq, Call.write.injEq,
      List.not_mem_nil, or_false, false_or] at hn
    omega
  have hlatest : Call.latest before = 2 ^ 63 - 1 := rfl
  obtain ⟨s', hread, hrows, hothers, -⟩ :=
    is_register MemoryDatabase.tabulates hc rfl hmissing rfl hfits rfl
  rw [Call.latest_concat, hlatest] at hrows
  rw [Call.answer, hlatest] at hread
  exact ⟨s', hread, hrows, hothers⟩

end VersionTable
end SchemaMigration
