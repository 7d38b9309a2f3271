import SchemaMigration.ColumnType
import SchemaMigration.Proofs.Text.Replace

/-!
# Types that declare an identity

Whether the native clause of a column type declares a primary key or an identity can be told from
the type as it is written: it has the shorthand of a primary key, or one of the two native marks, in
it (`declaresIdentity_resolve_iff`).  The other shorthands, which are expanded later, neither make
such a mark nor spoil one, for they and the ends of their clauses have none of its characters.
-/

namespace SchemaMigration.ColumnType

/-- The words by which a native clause declares a primary key or an identity. -/
def marks : List String := ["PRIMARY KEY", "IDENTITY"]

/-- A type with the shorthand of a primary key, or with one of the native marks, in it. -/
def MarksIdentity (type : String) : Prop :=
  primaryKey.toList <:+: type.toList ∨ ∃ mark ∈ marks, mark.toList <:+: type.toList

instance : DecidablePred MarksIdentity := fun _ => inferInstanceAs (Decidable (_ ∨ _))

theorem declaresIdentity_iff {clause : String} :
    declaresIdentity clause = true ↔ ∃ mark ∈ marks, mark.toList <:+: clause.toList := by
  simp [declaresIdentity, marks, Text.contains_iff]

/-- The shorthands after that of a primary key are apart from the marks. -/
theorem apart_of_mem_shorthands : ∀ mark ∈ marks, ∀ pair ∈ shorthands.tail,
    Text.Apart mark.toList pair.1.toList pair.2.toList := by
  decide +kernel

/-- Expands one shorthand. -/
def expand (clause : String) (pair : String × String) : String :=
  Text.replace clause pair.1 pair.2

/-- The shorthand of a primary key is expanded first. -/
theorem resolve_eq (type : String) :
    resolve type =
      shorthands.tail.foldl expand (Text.replace type primaryKey primaryKeyClause) := by
  have hfirst : shorthands = (primaryKey, primaryKeyClause) :: shorthands.tail := rfl
  calc resolve type = shorthands.foldl expand type := rfl
    _ = ((primaryKey, primaryKeyClause) :: shorthands.tail).foldl expand type :=
      congrArg (List.foldl expand type) hfirst
    _ = shorthands.tail.foldl expand (expand type (primaryKey, primaryKeyClause)) :=
      List.foldl_cons ..

/-- Shorthands that are apart from a mark are expanded around it. -/
theorem infix_foldl_expand {mark : String} {pairs : List (String × String)}
    (h : ∀ pair ∈ pairs, Text.Apart mark.toList pair.1.toList pair.2.toList) (type : String) :
    mark.toList <:+: (pairs.foldl expand type).toList ↔ mark.toList <:+: type.toList := by
  induction pairs generalizing type with
  | nil => rfl
  | cons pair pairs ih =>
    obtain ⟨hpair, hpairs⟩ := List.forall_mem_cons.mp h
    rw [List.foldl_cons, ih hpairs, expand, Text.infix_replace_iff hpair]

/-- The clause of a type has a mark exactly if the type has it once the shorthand of a primary key
has been expanded. -/
theorem infix_resolve_iff {mark : String} (hmark : mark ∈ marks) (type : String) :
    mark.toList <:+: (resolve type).toList ↔
      mark.toList <:+: (Text.replace type primaryKey primaryKeyClause).toList := by
  rw [resolve_eq]
  exact infix_foldl_expand (apart_of_mem_shorthands mark hmark) _

/-- **Declaring an identity**: the clause of a type does so exactly if the type has the shorthand of
a primary key or a native mark in it. -/
theorem declaresIdentity_resolve_iff {type : String} :
    declaresIdentity (resolve type) = true ↔ MarksIdentity type := by
  have hresolve : declaresIdentity (resolve type) = true ↔ ∃ mark ∈ marks,
      mark.toList <:+: (Text.replace type primaryKey primaryKeyClause).toList := by
    rw [declaresIdentity_iff]
    exact exists_congr fun mark => and_congr_right fun hmark => infix_resolve_iff hmark type
  rw [hresolve, MarksIdentity, Text.toList_replace]
  by_cases hword : primaryKey.toList <:+: type.toList
  · -- the clause of a primary key stands in the text, and it has a mark in it
    have hne : primaryKey.toList ≠ [] := by decide
    have hclause : primaryKeyClause.toList <:+: Text.replaceAll primaryKey.toList
        primaryKeyClause.toList type.toList := Text.native_infix_replaceAll hne hword
    have hmark : "PRIMARY KEY".toList <:+: primaryKeyClause.toList := by decide +kernel
    exact ⟨fun _ => .inl hword, fun _ => ⟨_, .head _, hmark.trans hclause⟩⟩
  · rw [Text.replaceAll_of_absent hword]
    exact ⟨.inr, fun h => h.resolve_left hword⟩

end SchemaMigration.ColumnType
