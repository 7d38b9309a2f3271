import Mathlib.Data.Finmap
import SchemaMigration.Operation.Inverse

/-!
# Schemas

A `Schema` tells of a database which tables it has, and of each table the names of its columns, its
indexes and its foreign keys.  Operations act on it: `Schema.Admits` says what an operation needs,
and `Schema.after` what it leaves.  A schema is `Consistent` when indexes and foreign keys speak of
columns that exist; every operation that it admits leaves it so (`Consistent.after`).
-/

namespace SchemaMigration

/-- A foreign key of a table, by its own columns and those that they refer to. -/
structure Reference where
  columns : List String
  target : KeyEnd
  deriving DecidableEq

/-- What a schema tells of a table. -/
structure Table where
  /-- the names of the columns -/
  columns : Finset String
  /-- the columns of each index, by its name -/
  indexes : Finmap fun _ : String => List String
  /-- the foreign keys by name -/
  keys : Finmap fun _ : String => Reference
  deriving DecidableEq

/-- The tables of a database by name. -/
abbrev Schema := Finmap fun _ : String => Table

/-! ### The columns of a new table -/

/-- The names of the audit columns. -/
def auditNames : List String := ["CreatedBy", "CreatedOn", "ModifiedBy", "ModifiedOn"]

/-- The names of the columns that a new table has: those that are declared, in front of them the
identity column if none of them declares it, and the audit columns if they are wanted. -/
def TableDefinition.columnNames (t : TableDefinition) : List String :=
  (if t.columns.any Operation.declaresIdentity then [] else ["Id"]) ++
    t.columns.map Column.name ++ (if t.timestamps then auditNames else [])

namespace Schema

/-! ### What a schema tells of a table -/

/-- The table is there and has a property. -/
def Holds (S : Schema) (table : String) (p : Table → Prop) : Prop := ∃ t ∈ S.lookup table, p t

/-- The table has the columns. -/
def Has (S : Schema) (table : String) (columns : List String) : Prop :=
  Holds S table fun t => ∀ c ∈ columns, c ∈ t.columns

/-- The table has an index of this name, over these columns. -/
def HasIndex (S : Schema) (table name : String) (columns : List String) : Prop :=
  Holds S table fun t => t.indexes.lookup name = some columns

/-- The table has a foreign key of this name. -/
def HasKey (S : Schema) (table name : String) (key : Reference) : Prop :=
  Holds S table fun t => t.keys.lookup name = some key

/-- The indexes and the foreign keys of a schema speak of columns that exist. -/
structure Consistent (S : Schema) : Prop where
  indexes {table name : String} {columns : List String} (h : HasIndex S table name columns) :
    Has S table columns
  sources {table name : String} {key : Reference} (h : HasKey S table name key) :
    Has S table key.columns
  targets {table name : String} {key : Reference} (h : HasKey S table name key) :
    Has S key.target.table key.target.columns

/-! ### What operations do -/

/-- The schema with a table changed, if it is there. -/
def modify (S : Schema) (name : String) (f : Table → Table) : Schema :=
  match S.lookup name with
  | some t => S.insert name (f t)
  | none => S

/-- What an operation needs.  Of those that change a column or are given as SQL a schema tells
nothing. -/
def Admits (S : Schema) : Operation → Prop
  | .createTable t => t.name ∉ S
  | .dropTable name =>
    name ∈ S ∧ ∀ table key reference, HasKey S table key reference → table ≠ name →
      reference.target.table ≠ name
  | .addColumn c =>
    Holds S c.table fun t => (c.columns.map Column.name).Nodup ∧
      ∀ column ∈ c.columns, column.name ∉ t.columns
  | .removeColumn m =>
    Has S m.table [m.name] ∧
      (∀ table index columns, HasIndex S table index columns → table = m.table →
        m.name ∉ columns) ∧
      ∀ table key reference, HasKey S table key reference →
        (table = m.table → m.name ∉ reference.columns) ∧
        (reference.target.table = m.table → m.name ∉ reference.target.columns)
  | .addIndex i => Has S i.table i.columns ∧ Holds S i.table fun t => i.name ∉ t.indexes
  | .removeIndex i => Holds S i.table fun t => i.name ∈ t.indexes
  | .addForeignKey k =>
    Has S k.source.table k.source.columns ∧ Has S k.target.table k.target.columns ∧
      Holds S k.source.table fun t => k.name ∉ t.keys
  | .dropConstraint m => Holds S m.table fun t => m.name ∈ t.keys
  | .changeColumn _ => False
  | .execute _ => False
  | .raw _ => False

/-- The schema after an operation. -/
def after (S : Schema) : Operation → Schema
  | .createTable t => S.insert t.name ⟨t.columnNames.toFinset, ∅, ∅⟩
  | .dropTable name => S.erase name
  | .addColumn c =>
    modify S c.table fun t =>
      { t with columns := t.columns ∪ (c.columns.map Column.name).toFinset }
  | .removeColumn m => modify S m.table fun t => { t with columns := t.columns.erase m.name }
  | .addIndex i => modify S i.table fun t => { t with indexes := t.indexes.insert i.name i.columns }
  | .removeIndex i => modify S i.table fun t => { t with indexes := t.indexes.erase i.name }
  | .addForeignKey k =>
    modify S k.source.table fun t =>
      { t with keys := t.keys.insert k.name ⟨k.source.columns, k.target⟩ }
  | .dropConstraint m => modify S m.table fun t => { t with keys := t.keys.erase m.name }
  | .changeColumn _ => S
  | .execute _ => S
  | .raw _ => S

/-! ### Tables of a changed schema -/

section

variable {α : Type} {a b : String} {x y : α} {s : Finmap fun _ : String => α}

theorem lookup_of_erase (h : (s.erase a).lookup b = some x) : s.lookup b = some x := by
  by_cases hb : b = a
  · rw [hb, Finmap.lookup_erase] at h
    cases h
  · rwa [Finmap.lookup_erase_ne hb] at h

theorem lookup_insert_cases (h : (s.insert a y).lookup b = some x) :
    x = y ∨ s.lookup b = some x := by
  by_cases hb : b = a
  · rw [hb, Finmap.lookup_insert] at h
    exact .inl (Option.some.inj h).symm
  · rw [Finmap.lookup_insert_of_ne _ hb] at h
    exact .inr h

end

section

variable {S : Schema} {name table : String} {t : Table} {f : Table → Table} {p : Table → Prop}

theorem lookup_modify :
    (modify S name f).lookup table =
      (S.lookup table).map fun t => if table = name then f t else t := by
  unfold modify
  by_cases htable : table = name
  · subst htable
    cases h : S.lookup table with
    | none => rw [h]; rfl
    | some t => simp
  · have hother : (fun t : Table => if table = name then f t else t) = id := by
      funext t
      exact if_neg htable
    rw [hother, Option.map_id]
    cases S.lookup name with
    | none => rfl
    | some t => exact Finmap.lookup_insert_of_ne S htable

theorem holds_modify :
    Holds (modify S name f) table p ↔
      Holds S table fun t => p (if table = name then f t else t) := by
  unfold Holds
  rw [lookup_modify]
  simp

theorem holds_modify_self (ht : t ∈ S.lookup name) (hp : p (f t)) :
    Holds (modify S name f) name p := by
  refine holds_modify.mpr ⟨t, ht, ?_⟩
  simp only [if_true]
  exact hp

theorem holds_insert :
    Holds (S.insert name t) table p ↔ table = name ∧ p t ∨ table ≠ name ∧ Holds S table p := by
  unfold Holds
  by_cases htable : table = name
  · subst htable
    simp
  · rw [Finmap.lookup_insert_of_ne S htable]
    simp [htable]

theorem holds_erase : Holds (S.erase name) table p ↔ table ≠ name ∧ Holds S table p := by
  unfold Holds
  by_cases htable : table = name
  · subst htable
    simp
  · rw [Finmap.lookup_erase_ne htable]
    simp [htable]

theorem mem_of_holds (h : Holds S table p) : table ∈ S := by
  obtain ⟨t, ht, -⟩ := h
  exact Finmap.mem_iff.mpr ⟨t, ht⟩

theorem Holds.mono {q : Table → Prop} (h : Holds S table p) (hpq : ∀ t, p t → q t) :
    Holds S table q := by
  obtain ⟨t, ht, hp⟩ := h
  exact ⟨t, ht, hpq t hp⟩

/-- Columns are found after a change that keeps them. -/
theorem Has.modify {columns : List String} (h : Has S table columns)
    (hf : ∀ t, t.columns ⊆ (f t).columns) : Has (modify S name f) table columns := by
  refine holds_modify.mpr (h.mono fun t ht column hcolumn => ?_)
  split
  · exact hf t (ht column hcolumn)
  · exact ht column hcolumn

/-- An index was there before a change that does not touch indexes. -/
theorem HasIndex.of_modify {index : String} {columns : List String}
    (h : HasIndex (Schema.modify S name f) table index columns)
    (hf : ∀ t, (f t).indexes = t.indexes) : HasIndex S table index columns := by
  refine (holds_modify.mp h).mono fun t ht => ?_
  split at ht
  · rwa [hf] at ht
  · exact ht

/-- A foreign key was there before a change that does not touch foreign keys. -/
theorem HasKey.of_modify {key : String} {reference : Reference}
    (h : HasKey (Schema.modify S name f) table key reference) (hf : ∀ t, (f t).keys = t.keys) :
    HasKey S table key reference := by
  refine (holds_modify.mp h).mono fun t ht => ?_
  split at ht
  · rwa [hf] at ht
  · exact ht

end

/-! ### Consistency -/

namespace Consistent

variable {S S' : Schema} {op : Operation}

/-- A schema in which every index and every foreign key either was there before or speaks of columns
that exist, and in which no column is missing that was there before. -/
theorem of_growth (hS : Consistent S)
    (hhas : ∀ {table columns}, Has S table columns → Has S' table columns)
    (hindex : ∀ {table name columns}, HasIndex S' table name columns →
      HasIndex S table name columns ∨ Has S' table columns)
    (hkey : ∀ {table name key}, HasKey S' table name key → HasKey S table name key ∨
      Has S' table key.columns ∧ Has S' key.target.table key.target.columns) :
    Consistent S' where
  indexes h := by
    obtain hold | hnew := hindex h
    · exact hhas (hS.indexes hold)
    · exact hnew
  sources h := by
    obtain hold | hnew := hkey h
    · exact hhas (hS.sources hold)
    · exact hnew.1
  targets h := by
    obtain hold | hnew := hkey h
    · exact hhas (hS.targets hold)
    · exact hnew.2

theorem empty : Consistent ∅ where
  indexes h := absurd (mem_of_holds h) Finmap.notMem_empty
  sources h := absurd (mem_of_holds h) Finmap.notMem_empty
  targets h := absurd (mem_of_holds h) Finmap.notMem_empty

theorem createTable (hS : Consistent S) {t : TableDefinition} (h : Admits S (.createTable t)) :
    Consistent (after S (.createTable t)) := by
  have hfresh : t.name ∉ S := h
  -- the new table has no indexes and no keys, and the others keep theirs
  apply hS.of_growth
  · intro table columns hhas
    refine holds_insert.mpr (.inr ⟨?_, hhas⟩)
    rintro rfl
    exact hfresh (mem_of_holds hhas)
  · intro table name columns hindex
    obtain ⟨-, habs⟩ | ⟨-, hold⟩ := holds_insert.mp hindex
    · cases habs
    · exact .inl hold
  · intro table name key hkey
    obtain ⟨-, habs⟩ | ⟨-, hold⟩ := holds_insert.mp hkey
    · cases habs
    · exact .inl hold

theorem dropTable (hS : Consistent S) {name : String} (h : Admits S (.dropTable name)) :
    Consistent (after S (.dropTable name)) := by
  obtain ⟨-, hunused⟩ := h
  constructor
  · intro table index columns hindex
    obtain ⟨hne, hold⟩ := holds_erase.mp hindex
    exact holds_erase.mpr ⟨hne, hS.indexes hold⟩
  · intro table key reference hkey
    obtain ⟨hne, hold⟩ := holds_erase.mp hkey
    exact holds_erase.mpr ⟨hne, hS.sources hold⟩
  · intro table key reference hkey
    obtain ⟨hne, hold⟩ := holds_erase.mp hkey
    exact holds_erase.mpr ⟨hunused table key reference hold hne, hS.targets hold⟩

theorem addColumn (hS : Consistent S) (c : ColumnList) : Consistent (after S (.addColumn c)) := by
  apply hS.of_growth
  · intro table columns hhas
    exact hhas.modify fun _ => Finset.subset_union_left
  · intro table name columns hindex
    exact .inl (hindex.of_modify fun _ => rfl)
  · intro table name key hkey
    exact .inl (hkey.of_modify fun _ => rfl)

theorem removeColumn (hS : Consistent S) {m : Member} (h : Admits S (.removeColumn m)) :
    Consistent (after S (.removeColumn m)) := by
  obtain ⟨-, hindexes, hkeys⟩ := h
  -- columns without the one that is removed stay where they are
  have hhas {table : String} {columns : List String} (hhas : Has S table columns)
      (hunused : table = m.table → m.name ∉ columns) :
      Has (after S (.removeColumn m)) table columns := by
    refine holds_modify.mpr (hhas.mono fun t ht column hcolumn => ?_)
    split
    · next htable =>
      refine Finset.mem_erase.mpr ⟨?_, ht column hcolumn⟩
      rintro rfl
      exact hunused htable hcolumn
    · exact ht column hcolumn
  constructor
  · intro table index columns hindex
    have hold := hindex.of_modify fun _ => rfl
    exact hhas (hS.indexes hold) (hindexes table index columns hold)
  · intro table key reference hkey
    have hold := hkey.of_modify fun _ => rfl
    exact hhas (hS.sources hold) (hkeys table key reference hold).1
  · intro table key reference hkey
    have hold := hkey.of_modify fun _ => rfl
    exact hhas (hS.targets hold) (hkeys table key reference hold).2

theorem addIndex (hS : Consistent S) {i : Index} (h : Admits S (.addIndex i)) :
    Consistent (after S (.addIndex i)) := by
  have hhas {table : String} {columns : List String} (hhas : Has S table columns) :
      Has (after S (.addIndex i)) table columns := hhas.modify fun _ => Finset.Subset.refl _
  apply hS.of_growth hhas
  · intro table name columns hindex
    obtain ⟨t, ht, hcolumns⟩ := holds_modify.mp hindex
    split at hcolumns
    · next htable =>
      obtain rfl := htable
      -- an index of this table is the new one or was there before
      obtain rfl | hold := lookup_insert_cases hcolumns
      · exact .inr (hhas h.1)
      · exact .inl ⟨t, ht, hold⟩
    · exact .inl ⟨t, ht, hcolumns⟩
  · intro table name key hkey
    exact .inl (hkey.of_modify fun _ => rfl)

theorem removeIndex (hS : Consistent S) (i : Index) : Consistent (after S (.removeIndex i)) := by
  apply hS.of_growth
  · intro table columns hhas
    exact hhas.modify fun _ => Finset.Subset.refl _
  · intro table name columns hindex
    refine .inl ((holds_modify.mp hindex).mono fun t ht => ?_)
    split at ht
    · exact lookup_of_erase ht
    · exact ht
  · intro table name key hkey
    exact .inl (hkey.of_modify fun _ => rfl)

theorem addForeignKey (hS : Consistent S) {k : ForeignKey} (h : Admits S (.addForeignKey k)) :
    Consistent (after S (.addForeignKey k)) := by
  have hhas {table : String} {columns : List String} (hhas : Has S table columns) :
      Has (after S (.addForeignKey k)) table columns := hhas.modify fun _ => Finset.Subset.refl _
  apply hS.of_growth hhas
  · intro table name columns hindex
    exact .inl (hindex.of_modify fun _ => rfl)
  · intro table name key hkey
    obtain ⟨t, ht, hreference⟩ := holds_modify.mp hkey
    split at hreference
    · next htable =>
      obtain rfl := htable
      -- a key of this table is the new one or was there before
      obtain rfl | hold := lookup_insert_cases hreference
      · exact .inr ⟨hhas h.1, hhas h.2.1⟩
      · exact .inl ⟨t, ht, hold⟩
    · exact .inl ⟨t, ht, hreference⟩

theorem dropConstraint (hS : Consistent S) (m : Member) :
    Consistent (after S (.dropConstraint m)) := by
  apply hS.of_growth
  · intro table columns hhas
    exact hhas.modify fun _ => Finset.Subset.refl _
  · intro table name columns hindex
    exact .inl (hindex.of_modify fun _ => rfl)
  · intro table name key hkey
    refine .inl ((holds_modify.mp hkey).mono fun t ht => ?_)
    split at ht
    · exact lookup_of_erase ht
    · exact ht

/-- **Operations keep a schema consistent** that admits them. -/
protected theorem after (hS : Consistent S) (h : Admits S op) : Consistent (after S op) := by
  cases op with
  | createTable t => exact hS.createTable h
  | dropTable name => exact hS.dropTable h
  | addColumn c => exact hS.addColumn c
  | removeColumn m => exact hS.removeColumn h
  | addIndex i => exact hS.addIndex h
  | removeIndex i => exact hS.removeIndex i
  | addForeignKey k => exact hS.addForeignKey h
  | dropConstraint m => exact hS.dropConstraint m
  | changeColumn c => exact h.elim
  | execute sql => exact h.elim
  | raw sql => exact h.elim

end Consistent

/-! ### Running operations -/

section

variable {S T : Schema}

theorem forall_hasIndex_iff {q : String → List String → Prop} :
    (∀ table index columns, HasIndex S table index columns → q table columns) ↔
      ∀ e ∈ S.entries, ∀ i ∈ e.2.indexes.entries, q e.1 i.2 := by
  constructor
  · intro h e he i hi
    exact h e.1 i.1 i.2 ⟨e.2, Finmap.mem_lookup_iff.mpr he, Finmap.mem_lookup_iff.mpr hi⟩
  · rintro h table index columns ⟨t, ht, hindex⟩
    exact h ⟨table, t⟩ (Finmap.mem_lookup_iff.mp ht) ⟨index, columns⟩
      (Finmap.mem_lookup_iff.mp hindex)

theorem forall_hasKey_iff {q : String → Reference → Prop} :
    (∀ table key reference, HasKey S table key reference → q table reference) ↔
      ∀ e ∈ S.entries, ∀ k ∈ e.2.keys.entries, q e.1 k.2 := by
  constructor
  · intro h e he k hk
    exact h e.1 k.1 k.2 ⟨e.2, Finmap.mem_lookup_iff.mpr he, Finmap.mem_lookup_iff.mpr hk⟩
  · rintro h table key reference ⟨t, ht, hkey⟩
    exact h ⟨table, t⟩ (Finmap.mem_lookup_iff.mp ht) ⟨key, reference⟩
      (Finmap.mem_lookup_iff.mp hkey)

instance (table : String) (p : Table → Prop) [DecidablePred p] : Decidable (Holds S table p) :=
  inferInstanceAs (Decidable (∃ t ∈ S.lookup table, p t))

instance (table : String) (columns : List String) : Decidable (Has S table columns) :=
  inferInstanceAs (Decidable (Holds S table _))

instance (q : String → List String → Prop) [∀ table columns, Decidable (q table columns)] :
    Decidable (∀ table index columns, HasIndex S table index columns → q table columns) :=
  decidable_of_iff' _ forall_hasIndex_iff

instance (q : String → Reference → Prop) [∀ table reference, Decidable (q table reference)] :
    Decidable (∀ table key reference, HasKey S table key reference → q table reference) :=
  decidable_of_iff' _ forall_hasKey_iff

instance (op : Operation) : Decidable (Admits S op) :=
  match op with
  | .createTable t => inferInstanceAs (Decidable (t.name ∉ S))
  | .dropTable _ => inferInstanceAs (Decidable (_ ∧ _))
  | .addColumn c => inferInstanceAs (Decidable (Holds S c.table _))
  | .removeColumn _ => inferInstanceAs (Decidable (_ ∧ _ ∧ _))
  | .addIndex _ => inferInstanceAs (Decidable (_ ∧ _))
  | .removeIndex i => inferInstanceAs (Decidable (Holds S i.table _))
  | .addForeignKey _ => inferInstanceAs (Decidable (_ ∧ _ ∧ _))
  | .dropConstraint m => inferInstanceAs (Decidable (Holds S m.table _))
  | .changeColumn _ => inferInstanceAs (Decidable False)
  | .execute _ => inferInstanceAs (Decidable False)
  | .raw _ => inferInstanceAs (Decidable False)

/-- The schema after operations in order, if each of them is admitted in its turn. -/
def run (S : Schema) : List Operation → Option Schema
  | [] => some S
  | op :: rest => if Admits S op then run (after S op) rest else none

theorem run_append (xs ys : List Operation) :
    run S (xs ++ ys) = (run S xs).bind fun T => run T ys := by
  induction xs generalizing S with
  | nil => rfl
  | cons op rest ih =>
    rw [List.cons_append, run, run]
    split
    · exact ih
    · rfl

theorem run_cons_eq_some_iff {op : Operation} {rest : List Operation} :
    run S (op :: rest) = some T ↔ Admits S op ∧ run (after S op) rest = some T := by
  rw [run, Option.ite_none_right_eq_some]

/-- What operations lead to is consistent. -/
theorem Consistent.run {ops : List Operation} (hS : Consistent S) (h : run S ops = some T) :
    Consistent T := by
  induction ops generalizing S with
  | nil => exact Option.some.inj h ▸ hS
  | cons op rest ih =>
    obtain ⟨hop, hrest⟩ := run_cons_eq_some_iff.mp h
    exact ih (hS.after hop) hrest

end

end Schema
end SchemaMigration
