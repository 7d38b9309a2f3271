import SchemaMigration.Database

/-!
# Calls and their answers

`Database.Accepts d sqls s s'` says that the database takes the statements `sqls` one after the
other from the state `s` to `s'`, and `Database.StopsAt` that it takes some and refuses the next.
Two databases are built over any other: `transcribed` keeps a transcript of the calls with their
answers, so that `Accepts` and `StopsAt` can be read off it (`Accepts.transcript`,
`StopsAt.transcript`), and `disrupted` refuses calls that the other would serve.
-/

namespace SchemaMigration

/-- A call on a database with its answer: the error, if the call is refused. -/
structure Exchange where
  call : DatabaseCall
  refusal : Option DatabaseError
  deriving DecidableEq, Repr

namespace Exchange

/-- A statement that is accepted. -/
def accepted (sql : String) : Exchange := ⟨.execute sql, none⟩

/-- A statement that is refused. -/
def refused (sql : String) (cause : DatabaseError) : Exchange := ⟨.execute sql, some cause⟩

/-- The statement that is sent, unless the call is a query. -/
def sql? (x : Exchange) : Option String :=
  match x.call with
  | .execute sql => some sql
  | .query _ => none

/-- The statements that are sent in a transcript, accepted or not. -/
def sent (transcript : List Exchange) : List String := transcript.filterMap sql?

@[simp]
theorem sent_append (xs ys : List Exchange) : sent (xs ++ ys) = sent xs ++ sent ys :=
  List.filterMap_append

@[simp]
theorem sent_accepted (sqls : List String) : sent (sqls.map accepted) = sqls := by
  rw [sent, List.filterMap_map]
  exact List.filterMap_some

@[simp]
theorem sent_refused (sql : String) (cause : DatabaseError) :
    sent [refused sql cause] = [sql] := rfl

theorem refusal_of_mem_accepted {x : Exchange} {sqls : List String} (h : x ∈ sqls.map accepted) :
    x.refusal = none := by
  obtain ⟨sql, -, rfl⟩ := List.mem_map.mp h
  rfl

/-- Only queries, none of which is refused. -/
def Answered (transcript : List Exchange) : Prop :=
  ∀ x ∈ transcript, x.sql? = none ∧ x.refusal = none

theorem answered_nil : Answered [] := by
  intro x hx
  cases hx

theorem answered_query (sql : String) : Answered [⟨.query sql, none⟩] := by
  intro x hx
  obtain rfl := List.mem_singleton.mp hx
  exact ⟨rfl, rfl⟩

theorem Answered.sent_eq_nil {transcript : List Exchange} (h : Answered transcript) :
    sent transcript = [] :=
  List.filterMap_eq_nil_iff.mpr fun x hx => (h x hx).1

end Exchange

namespace Database

variable {σ : Type}

/-! ### Sequences of statements -/

/-- The database accepts the statements in order, from one state to another. -/
inductive Accepts (d : Database σ) : List String → σ → σ → Prop
  | nil (s : σ) : Accepts d [] s s
  | cons {sql : String} {rest : List String} {s s₁ s₂ : σ} {n : Nat}
      (hfirst : d.execute sql s = (.ok n, s₁)) (hrest : Accepts d rest s₁ s₂) :
      Accepts d (sql :: rest) s s₂

/-- The database accepts the statements `before` and then refuses `sql`. -/
def StopsAt (d : Database σ) (before : List String) (sql : String) (cause : DatabaseError)
    (s s' : σ) : Prop :=
  ∃ s₁, d.Accepts before s s₁ ∧ d.execute sql s₁ = (.error cause, s')

variable {d : Database σ} {xs ys before : List String} {sql : String} {cause : DatabaseError}
  {s s₁ s₂ : σ} {n : Nat}

theorem Accepts.append (hx : d.Accepts xs s s₁) (hy : d.Accepts ys s₁ s₂) :
    d.Accepts (xs ++ ys) s s₂ := by
  induction hx with
  | nil => exact hy
  | cons hfirst _ ih => exact .cons hfirst (ih hy)

theorem Accepts.split (h : d.Accepts (xs ++ ys) s s₂) :
    ∃ s₁, d.Accepts xs s s₁ ∧ d.Accepts ys s₁ s₂ := by
  -- the statements that come first decide where the split is
  induction xs generalizing s with
  | nil => exact ⟨s, .nil s, h⟩
  | cons sql xs ih =>
    obtain _ | ⟨hfirst, hrest⟩ := h
    obtain ⟨s₁, hx, hy⟩ := ih hrest
    exact ⟨s₁, .cons hfirst hx, hy⟩

theorem Accepts.single (h : d.execute sql s = (.ok n, s₁)) : d.Accepts [sql] s s₁ :=
  .cons h (.nil s₁)

theorem Accepts.stopsAt (hx : d.Accepts xs s s₁) (h : d.StopsAt before sql cause s₁ s₂) :
    d.StopsAt (xs ++ before) sql cause s s₂ := by
  obtain ⟨t, hbefore, hsql⟩ := h
  exact ⟨t, hx.append hbefore, hsql⟩

theorem stopsAt_nil (h : d.execute sql s = (.error cause, s₁)) : d.StopsAt [] sql cause s s₁ :=
  ⟨s, .nil s, h⟩

/-! ### Transcripts -/

/-- The error of a call, if it is refused. -/
def refusal? {α : Type} : Except DatabaseError α → Option DatabaseError
  | .ok _ => none
  | .error e => some e

/-- A database that keeps a transcript of all calls, the oldest first. -/
def transcribed (d : Database σ) : Database (σ × List Exchange) where
  execute sql x :=
    let (result, next) := d.execute sql x.1
    (result, next, x.2 ++ [⟨.execute sql, refusal? result⟩])
  query sql x :=
    let (result, next) := d.query sql x.1
    (result, next, x.2 ++ [⟨.query sql, refusal? result⟩])

section

variable {x y : σ × List Exchange}

theorem execute_of_transcribed_ok (h : d.transcribed.execute sql x = (.ok n, y)) :
    d.execute sql x.1 = (.ok n, y.1) ∧ y.2 = x.2 ++ [.accepted sql] := by
  simp only [transcribed, Prod.mk.injEq] at h
  obtain ⟨hresult, rfl⟩ := h
  rw [hresult]
  exact ⟨Prod.ext hresult rfl, rfl⟩

theorem execute_of_transcribed_error (h : d.transcribed.execute sql x = (.error cause, y)) :
    d.execute sql x.1 = (.error cause, y.1) ∧ y.2 = x.2 ++ [.refused sql cause] := by
  simp only [transcribed, Prod.mk.injEq] at h
  obtain ⟨hresult, rfl⟩ := h
  rw [hresult]
  exact ⟨Prod.ext hresult rfl, rfl⟩

theorem query_of_transcribed {result : Except DatabaseError (Option Int)}
    (h : d.transcribed.query sql x = (result, y)) :
    d.query sql x.1 = (result, y.1) ∧ y.2 = x.2 ++ [⟨.query sql, refusal? result⟩] := by
  simp only [transcribed, Prod.mk.injEq] at h
  obtain ⟨hresult, rfl⟩ := h
  rw [hresult]
  exact ⟨Prod.ext hresult rfl, rfl⟩

/-- A database that accepts statements adds them to the transcript, and nothing else. -/
theorem Accepts.transcript (h : d.transcribed.Accepts xs x y) :
    d.Accepts xs x.1 y.1 ∧ y.2 = x.2 ++ xs.map .accepted := by
  induction h with
  | nil x => exact ⟨.nil x.1, (List.append_nil x.2).symm⟩
  | cons hfirst _ ih =>
    obtain ⟨hexecute, hfirst'⟩ := execute_of_transcribed_ok hfirst
    refine ⟨.cons hexecute ih.1, ?_⟩
    rw [ih.2, hfirst', List.map_cons, List.append_assoc, List.singleton_append]

/-- A database that stops has the refused statement at the end of the transcript. -/
theorem StopsAt.transcript (h : d.transcribed.StopsAt before sql cause x y) :
    d.StopsAt before sql cause x.1 y.1 ∧
      y.2 = x.2 ++ before.map .accepted ++ [.refused sql cause] := by
  obtain ⟨z, hbefore, hsql⟩ := h
  obtain ⟨hbefore', hz⟩ := hbefore.transcript
  obtain ⟨hsql', hy⟩ := execute_of_transcribed_error hsql
  exact ⟨⟨z.1, hbefore', hsql'⟩, by rw [hy, hz]⟩

end

/-! ### Disruptions -/

/-- A database whose state counts the calls, and which refuses those that `refuses` gives an error
for; a call that is refused in this way does not reach the database under it. -/
def disrupted (refuses : Nat → Option DatabaseError) (d : Database σ) : Database (σ × Nat) where
  execute sql x :=
    match refuses x.2 with
    | some e => (.error e, x.1, x.2 + 1)
    | none =>
      let (result, next) := d.execute sql x.1
      (result, next, x.2 + 1)
  query sql x :=
    match refuses x.2 with
    | some e => (.error e, x.1, x.2 + 1)
    | none =>
      let (result, next) := d.query sql x.1
      (result, next, x.2 + 1)

/-- A database that serves `k` calls and refuses all that come after them. -/
def lostAfter (k : Nat) (e : DatabaseError) (d : Database σ) : Database (σ × Nat) :=
  d.disrupted fun call => if call < k then none else some e

section

variable {refuses : Nat → Option DatabaseError} {x y : σ × Nat}

/-- A disrupted call either is the call of the database under it or changes nothing. -/
theorem execute_of_disrupted {result : Except DatabaseError Nat}
    (h : (d.disrupted refuses).execute sql x = (result, y)) :
    d.execute sql x.1 = (result, y.1) ∨ (∃ e, result = .error e) ∧ y.1 = x.1 := by
  simp only [disrupted] at h
  split at h
  · next e _ =>
    obtain ⟨rfl, rfl⟩ := Prod.mk.inj h
    exact .inr ⟨⟨e, rfl⟩, rfl⟩
  · obtain ⟨rfl, rfl⟩ := Prod.mk.inj h
    exact .inl rfl

theorem query_of_disrupted {result : Except DatabaseError (Option Int)}
    (h : (d.disrupted refuses).query sql x = (result, y)) :
    d.query sql x.1 = (result, y.1) ∨ (∃ e, result = .error e) ∧ y.1 = x.1 := by
  simp only [disrupted] at h
  split at h
  · next e _ =>
    obtain ⟨rfl, rfl⟩ := Prod.mk.inj h
    exact .inr ⟨⟨e, rfl⟩, rfl⟩
  · obtain ⟨rfl, rfl⟩ := Prod.mk.inj h
    exact .inl rfl

/-- A disrupted call that is accepted is the call of the database under it. -/
theorem execute_of_disrupted_ok (h : (d.disrupted refuses).execute sql x = (.ok n, y)) :
    d.execute sql x.1 = (.ok n, y.1) := by
  obtain h | ⟨⟨e, habs⟩, -⟩ := execute_of_disrupted h
  · exact h
  · cases habs

theorem query_of_disrupted_ok {answer : Option Int}
    (h : (d.disrupted refuses).query sql x = (.ok answer, y)) :
    d.query sql x.1 = (.ok answer, y.1) := by
  obtain h | ⟨⟨e, habs⟩, -⟩ := query_of_disrupted h
  · exact h
  · cases habs

end

end Database
end SchemaMigration
