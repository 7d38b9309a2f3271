import SchemaMigration.Operation.Reader
import SchemaMigration.Proofs.Result

/-!
# One operation for each mapping

A mapping is read by its operation keys: `value?` is the value that it gives under one of them, and
`givenKinds` lists those under which there is a value at all.  One of them makes an operation, which
depends on its value alone (`ofDocument_of_one`); none or several make an error that says so
(`ofDocument_of_none`, `ofDocument_of_several`), whatever the values are.  The first pass does not
look into the values, and the second blames nothing but the one key (`operation?_of_ofPayload`), so
that the two together sort all documents (`one_operation_per_mapping`).
-/

namespace SchemaMigration.Operation
open SchemaMigration.Except

variable {entries : List (Document × Document)} {kind : OperationKind} {value d : Document}
  {op : Operation} {e : OperationError}

/-! ### The keys that are given -/

/-- The value that a mapping gives under the key of a kind; a null is no value. -/
def value? (entries : List (Document × Document)) (kind : OperationKind) : Option Document :=
  (Document.lookup? kind.key entries).filter fun value => !value.isNull

/-- The kinds under whose keys a mapping gives values, in the order in which they are looked for. -/
def givenKinds (entries : List (Document × Document)) : List OperationKind :=
  OperationKind.keyed.filter fun kind => (value? entries kind).isSome

/-- **The operation keys** are ten, and they are looked for in this order; one is given when the
mapping has a value under it that is not null. -/
theorem map_key_givenKinds (entries : List (Document × Document)) :
    (givenKinds entries).map OperationKind.key =
      ["create_table", "drop_table", "add_column", "remove_column", "change_column", "foreign_key",
        "drop_constraint", "add_index", "remove_index", "execute"].filter fun key =>
          (Document.lookup? key entries).any fun value => !value.isNull := by
  have hkeys : ["create_table", "drop_table", "add_column", "remove_column", "change_column",
      "foreign_key", "drop_constraint", "add_index", "remove_index", "execute"] =
        OperationKind.keyed.map OperationKind.key := rfl
  rw [hkeys, List.filter_map, givenKinds]
  refine congrArg (List.map _) (List.filter_congr fun kind _ => ?_)
  rw [value?, Option.isSome_filter]
  rfl

theorem present_eq (entries : List (Document × Document)) :
    present entries = OperationKind.keyed.filterMap fun kind =>
      (value? entries kind).map (kind, ·) := by
  refine List.filterMap_congr fun kind _ => ?_
  rw [value?]
  match Document.lookup? kind.key entries with
  | none => rfl
  | some d => cases d <;> rfl

theorem map_fst_present (entries : List (Document × Document)) :
    (present entries).map Prod.fst = givenKinds entries := by
  rw [present_eq, List.map_filterMap, givenKinds, ← List.filterMap_eq_filter]
  refine List.filterMap_congr fun kind _ => ?_
  cases hvalue : value? entries kind <;> simp [Option.guard, hvalue]

theorem value?_of_mem_present (h : (kind, value) ∈ present entries) :
    value? entries kind = some value := by
  rw [present_eq, List.mem_filterMap] at h
  obtain ⟨other, -, hvalue⟩ := h
  obtain ⟨d, hd, heq⟩ := Option.map_eq_some_iff.mp hvalue
  obtain ⟨rfl, rfl⟩ := Prod.mk.inj heq
  exact hd

theorem present_eq_singleton (hkinds : givenKinds entries = [kind])
    (hvalue : value? entries kind = some value) : present entries = [(kind, value)] := by
  rw [← map_fst_present] at hkinds
  obtain ⟨⟨k, d⟩, hpresent, rfl⟩ := List.map_eq_singleton_iff.mp hkinds
  have hd := value?_of_mem_present (hpresent ▸ List.mem_singleton_self (k, d))
  rw [hpresent, Option.some.inj (hd.symm.trans hvalue)]

theorem exists_value?_of_givenKinds (h : givenKinds entries = [kind]) :
    ∃ value, value? entries kind = some value := by
  have hkind : kind ∈ givenKinds entries := h ▸ List.mem_singleton_self kind
  exact Option.isSome_iff_exists.mp (List.mem_filter.mp hkind).2

/-! ### The verdict on a mapping -/

/-- Under one operation key a mapping is read as its value says, whatever else it has. -/
theorem ofDocument_of_one (hkinds : givenKinds entries = [kind])
    (hvalue : value? entries kind = some value) :
    ofDocument (.mapping entries) = ofPayload kind value := by
  rw [ofDocument, present_eq_singleton hkinds hvalue]

theorem ofDocument_of_none (h : givenKinds entries = []) :
    ofDocument (.mapping entries) = .error (.noOperation (entries.map fun e => keyText e.1)) := by
  rw [← map_fst_present, List.map_eq_nil_iff] at h
  rw [ofDocument, h]

theorem ofDocument_of_several (h : 2 ≤ (givenKinds entries).length) :
    ofDocument (.mapping entries) = .error (.severalOperations (givenKinds entries)) := by
  rw [← map_fst_present] at h ⊢
  rw [ofDocument]
  split
  · next heq => simp [heq] at h
  · next heq => simp [heq] at h
  · rfl

/-! ### The verdict on a payload -/

/-- What is read is of the kind whose key is given. -/
theorem kind_of_ofPayload (h : ofPayload kind d = .ok op) : op.kind = kind := by
  cases kind with
  | raw => cases h
  | _ =>
    obtain ⟨_, -, rfl⟩ := map_eq_ok_iff.mp h
    rfl

theorem operation?_of_payload {α : Type} {reader : Payload.Reader α}
    (h : payload kind reader d = .error e) : e.operation? = some kind.key := by
  obtain ⟨fault, -, rfl⟩ := mapError_eq_error_iff.mp h
  rfl

/-- A payload is refused in the name of its kind and of no other. -/
theorem operation?_of_ofPayload (h : ofPayload kind d = .error e) :
    e.operation? = some kind.key := by
  cases kind with
  | raw =>
    obtain rfl := Except.error.inj h
    rfl
  | createTable | removeColumn | dropConstraint =>
    exact operation?_of_payload (map_eq_error_iff.mp h)
  | dropTable =>
    have hname := map_eq_error_iff.mp h
    cases d with
    | string s =>
      obtain ⟨-, rfl⟩ := checked_eq_error_iff.mp hname
      rfl
    | _ =>
      obtain rfl := Except.error.inj hname
      rfl
  | addColumn | changeColumn | addForeignKey | addIndex | removeIndex =>
    -- a record is read first, and then its lists of columns are looked at
    obtain hpayload | ⟨_, -, hchecked⟩ := bind_eq_error_iff.mp (map_eq_error_iff.mp h)
    · exact operation?_of_payload hpayload
    · obtain ⟨-, rfl⟩ := checked_eq_error_iff.mp hchecked
      rfl
  | execute =>
    have hsql := map_eq_error_iff.mp h
    cases d with
    | string s => cases hsql
    | sequence items =>
      obtain ⟨fault, -, rfl⟩ := mapError_eq_error_iff.mp hsql
      rfl
    | _ =>
      obtain rfl := Except.error.inj hsql
      rfl

/-! ### Operations and their documents -/

theorem ofDocument_eq_ok_iff :
    ofDocument d = .ok op ↔ (∃ sql, d = .string sql ∧ op = .raw sql) ∨
      ∃ entries value, d = .mapping entries ∧ givenKinds entries = [op.kind] ∧
        value? entries op.kind = some value ∧ ofPayload op.kind value = .ok op := by
  constructor
  · intro h
    cases d with
    | string sql => exact .inl ⟨sql, rfl, (Except.ok.inj h).symm⟩
    | mapping entries =>
      refine .inr ⟨entries, ?_⟩
      -- an operation comes of a mapping only if it gives exactly one kind
      match hkinds : givenKinds entries with
      | [] =>
        rw [ofDocument_of_none hkinds] at h
        cases h
      | [kind] =>
        obtain ⟨value, hvalue⟩ := exists_value?_of_givenKinds hkinds
        rw [ofDocument_of_one hkinds hvalue] at h
        obtain rfl := kind_of_ofPayload h
        exact ⟨value, rfl, rfl, hvalue, h⟩
      | _ :: _ :: _ =>
        rw [ofDocument_of_several (by simp [hkinds])] at h
        cases h
    | _ => cases h
  · rintro (⟨sql, rfl, rfl⟩ | ⟨entries, value, rfl, hkinds, hvalue, h⟩)
    · rfl
    · rw [ofDocument_of_one hkinds hvalue, h]

/-! ### Main theorem -/

/-- **One operation for each mapping.**  There are ten operation keys, and a mapping gives those
under which it has a value that is not null.  A document that is read as an operation is a string,
and then the operation is this SQL, or a mapping that gives the key of the operation's kind and no
other, and then the operation is read from the value there.  So two mappings that give one key with
one value are read alike, whatever else they have.  Several keys are refused in the name of all of
them, in the order in which they are looked for; a document that gives none is refused as no
operation; and where one is given, whatever is refused is refused in its name.  A list is read item
by item: it has the operations of its items, in order, or the error of the first that has one. -/
theorem one_operation_per_mapping (d : Document) (items : List Document) :
    (∀ entries, (givenKinds entries).map OperationKind.key =
      ["create_table", "drop_table", "add_column", "remove_column", "change_column", "foreign_key",
        "drop_constraint", "add_index", "remove_index", "execute"].filter fun key =>
          (Document.lookup? key entries).any fun value => !value.isNull) ∧
    (∀ op, ofDocument d = .ok op ↔ (∃ sql, d = .string sql ∧ op = .raw sql) ∨
      ∃ entries value, d = .mapping entries ∧ givenKinds entries = [op.kind] ∧
        value? entries op.kind = some value ∧ ofPayload op.kind value = .ok op) ∧
    (∀ entries others kind, givenKinds entries = [kind] → givenKinds others = [kind] →
      value? others kind = value? entries kind →
      ofDocument (.mapping others) = ofDocument (.mapping entries)) ∧
    (∀ entries, d = .mapping entries → 2 ≤ (givenKinds entries).length →
      ∃ e, ofDocument d = .error e ∧
        e.operation? = some (Text.joinWith "+" ((givenKinds entries).map OperationKind.key))) ∧
    ((∀ sql, d ≠ .string sql) → (∀ entries, d = .mapping entries → givenKinds entries = []) →
      ∃ e, ofDocument d = .error e ∧ e.operation? = none) ∧
    (∀ entries kind e, d = .mapping entries → givenKinds entries = [kind] →
      ofDocument d = .error e → e.operation? = some kind.key) ∧
    (∀ ops, listOfDocument (.sequence items) = .ok ops ↔
      List.Forall₂ (fun d op => ofDocument d = .ok op) items ops) ∧
    ∀ e, listOfDocument (.sequence items) = .error e ↔
      ∃ before d after, items = before ++ d :: after ∧
        (∀ d ∈ before, ∃ op, ofDocument d = .ok op) ∧ ofDocument d = .error e := by
  refine ⟨map_key_givenKinds, fun op => ofDocument_eq_ok_iff, ?_, ?_, ?_, ?_,
    fun _ => mapM_eq_ok_iff, fun _ => mapM_eq_error_iff⟩
  · intro entries others kind hkinds hkinds' hvalues
    obtain ⟨value, hvalue⟩ := exists_value?_of_givenKinds hkinds
    rw [ofDocument_of_one hkinds hvalue, ofDocument_of_one hkinds' (hvalues.trans hvalue)]
  · rintro entries rfl hseveral
    exact ⟨_, ofDocument_of_several hseveral, rfl⟩
  · intro hstring hmapping
    cases d with
    | string sql => exact absurd rfl (hstring sql)
    | mapping entries => exact ⟨_, ofDocument_of_none (hmapping entries rfl), rfl⟩
    | _ => exact ⟨_, rfl, rfl⟩
  · rintro entries kind e rfl hkinds herror
    obtain ⟨value, hvalue⟩ := exists_value?_of_givenKinds hkinds
    rw [ofDocument_of_one hkinds hvalue] at herror
    exact operation?_of_ofPayload herror

/-- Two operation keys, neither with a payload that could be read, the later one first; and a list
in which they come after an operation. -/
theorem one_operation_per_mapping_of_two_keys :
    let drop : Document := .mapping [(.string "create_table", .null),
      (.number (.int 7), .string "note"), (.string "drop_table", .string "Users")]
    let both : List (Document × Document) :=
      [(.string "execute", .bool true), (.string "note", .null),
        (.string "add_index", .sequence [])]
    givenKinds both = [.addIndex, .execute] ∧
      ∃ e, ofDocument (.mapping both) = .error e ∧ e.operation? = some "add_index+execute" ∧
        listOfDocument (.sequence [drop, .mapping both, .null]) = .error e := by
  intro drop both
  have hkinds : givenKinds both = [.addIndex, .execute] := by decide
  have hdrop : ofDocument drop = .ok (.dropTable "Users") := rfl
  obtain ⟨-, -, -, hseveral, -, -, -, hlist⟩ :=
    one_operation_per_mapping (.mapping both) [drop, .mapping both, .null]
  obtain ⟨e, he, hoperation⟩ := hseveral both rfl (by rw [hkinds]; decide)
  rw [hkinds] at hoperation
  refine ⟨hkinds, e, he, hoperation, (hlist e).mpr ⟨[drop], _, _, rfl, ?_, he⟩⟩
  rw [List.forall_mem_singleton]
  exact ⟨_, hdrop⟩

end SchemaMigration.Operation
