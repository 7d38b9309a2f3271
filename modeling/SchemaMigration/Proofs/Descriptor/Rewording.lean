import SchemaMigration.Descriptor
import SchemaMigration.Proofs.Operation.Rewording
import Mathlib.Logic.Relation

/-!
# Reading descriptors leniently

A descriptor says the same thing however its document is worded (`reading_is_lenient`): the order of
entries does not count on any level, keys that are not recognised are passed over, and a null stands
for a missing member, a missing payload or a missing optional field.  The one null that does count
stands beside a value under a tagged key of the same name, which records read through its tag
(`null_beside_tagged_key_refused`).
-/

namespace SchemaMigration.Descriptor
open Document Operation SchemaMigration.Except

variable {D D' : Document} {es fs : List (Document × Document)} {key : MigrationKey} {path : String}

/-- The form of a descriptor: the operations under `up` and `down`, where a null stands for none.
All other keys are passed over. -/
def form : Form where
  nameOf := string?
  slots := [⟨"up", ListReworded, true⟩, ⟨"down", ListReworded, true⟩]
  skips key := key ≠ .string "up" ∧ key ≠ .string "down"
  distinct := by decide
  unread := by
    rintro key ⟨hup, hdown⟩
    simp [string?_eq_some_iff, hup, hdown]

/-- One change to the document of a descriptor.  The keys of a mapping are pairwise different. -/
inductive Reworded : Document → Document → Prop
  | mapping {es fs : List (Document × Document)} (distinct : (es.map Prod.fst).Nodup)
      (h : form.Step es fs) : Reworded (.mapping es) (.mapping fs)

/-- A change to the mapping of a descriptor rewords each member or leaves it as it is. -/
theorem part_of_step (distinct : (es.map Prod.fst).Nodup) (h : form.Step es fs) {name : String}
    (hname : name = "up" ∨ name = "down") :
    part name es = part name fs ∨ ListReworded (part name es) (part name fs) := by
  have hs : ⟨name, ListReworded, true⟩ ∈ form.slots := by
    obtain rfl | rfl := hname <;> simp [form]
  have hagrees := h.agrees hs (length_valuesUnder_le_one distinct)
  change Slot.Agrees _ (valuesUnder string? name es) (valuesUnder string? name fs) at hagrees
  simp only [part, lookup?_eq_head?]
  generalize valuesUnder string? name es = ds, valuesUnder string? name fs = ds' at hagrees
  cases hagrees with
  | same | nullAdded | nullRemoved => exact .inl rfl
  | within hd => exact .inr hd

theorem isNull_of_reworded (h : D = D' ∨ ListReworded D D') :
    D.untagged.isNull = D'.untagged.isNull := by
  obtain rfl | h := h
  · rfl
  · rw [h.not_isNull.1, h.not_isNull.2]

theorem downOf_keeps (h : D = D' ∨ ListReworded D D') : Keeps (downOf D) (downOf D') := by
  obtain rfl | h := h
  · exact .refl _
  · obtain ⟨hD, hD'⟩ := h.not_isNull
    simpa [downOf, hD, hD'] using (listOfDocument_keeps h).map some

/-- One change to a document leaves the descriptor as it is. -/
theorem ofDocument_keeps (h : Reworded D D') :
    Keeps (ofDocument key path D) (ofDocument key path D') := by
  obtain ⟨distinct, hstep⟩ := h
  have hup := part_of_step distinct hstep (.inl rfl)
  have hdown := part_of_step distinct hstep (.inr rfl)
  have hups : Keeps (listOfDocument (part "up" _)) (listOfDocument (part "up" _)) :=
    hup.elim (fun h => h ▸ .refl _) listOfDocument_keeps
  simp only [ofDocument, isNull_of_reworded hup, isNull_of_reworded hdown]
  split
  · exact nofun
  · exact (hups.mapError _).bind fun _ => ((downOf_keeps hdown).mapError _).bind fun _ => .refl _

/-- **Reading is lenient.**  A document that is read as a descriptor is read as the same descriptor
after any number of changes that say nothing new. -/
theorem reading_is_lenient (h : Relation.ReflTransGen Reworded D D') {a : Descriptor}
    (ha : ofDocument key path D = .ok a) : ofDocument key path D' = .ok a := by
  induction h with
  | refl => exact ha
  | tail _ hstep ih => exact ofDocument_keeps hstep a ih

/-- The case of a document that gains a comment, a null operation key and a null way down, and whose
members change places. -/
theorem reading_is_lenient_of_three_changes :
    let drop : Document × Document := (.string "drop_table", .string "Users")
    let create : Document × Document := (.string "create_table", .null)
    let note : Document × Document := (.string "note", .string "tidy up")
    let down : Document × Document := (.string "down", .null)
    let D : Document := .mapping [(.string "up", .mapping [drop])]
    let D' : Document := .mapping [note, (.string "up", .mapping [create, drop]), down]
    let a : Descriptor := ⟨⟨"001", by decide⟩, "001.yml", [.dropTable "Users"], none⟩
    Relation.ReflTransGen Reworded D D' ∧ ofDocument a.key a.path D = .ok a ∧
      ofDocument a.key a.path D' = .ok a := by
  intro drop create note down D D' a
  -- inside the operation a null is added under the name of another kind
  have hcreate : Operation.Reworded (.mapping [drop]) (.mapping [create, drop]) :=
    .mapping (by simp) (.nullAdded (List.mem_map_of_mem (.head _)) rfl rfl (by decide))
  have hwithin : form.Step [(.string "up", .mapping [drop])]
      [(.string "up", .mapping [create, drop])] :=
    @Form.Step.within form [] [] _ _ _ _ (.head _) rfl (.inr hcreate)
  -- then the field that is missing is added with a null
  have hdown : form.Step [(.string "up", .mapping [create, drop])]
      [down, (.string "up", .mapping [create, drop])] :=
    .nullAdded (.tail _ (.head _)) rfl rfl rfl
  have hskips : form.skips (.string "note") := ⟨by simp, by simp⟩
  -- and last, when the entries have changed places, one that nothing reads
  have hnote : form.Step [(.string "up", .mapping [create, drop]), down]
      [note, (.string "up", .mapping [create, drop]), down] := .added hskips _
  have hchain : Relation.ReflTransGen Reworded D D' :=
    .head (.mapping (by simp) hwithin) <| .head (.mapping (by simp) hdown) <|
      .head (.mapping (by simp [down]) (.permuted (.swap ..))) <|
      .single (.mapping (by simp [down]) hnote)
  have ha : ofDocument a.key a.path D = .ok a := rfl
  exact ⟨hchain, ha, reading_is_lenient hchain ha⟩

/-- A null under the key of a field is refused where the field has a value under a tagged key:
the two keys differ, but the record takes them for one field. -/
theorem null_beside_tagged_key_refused :
    let column : List (Document × Document) :=
      [(.string "name", .string "Age"), (.string "type", .string "int"),
        (.tagged "!known" (.string "nullable"), .bool true)]
    let withNull := (.string "nullable", .null) :: column
    let document (column : List (Document × Document)) : Document :=
      .mapping [(.string "up", .mapping [(.string "add_column",
        .mapping [(.string "table", .string "Users"),
          (.string "columns", .sequence [.mapping column])])])]
    let key : MigrationKey := ⟨"001_age", by decide⟩
    (withNull.map Prod.fst).Nodup ∧
      ofDocument key "m/001_age.yml" (document column) = .ok ⟨key, "m/001_age.yml",
        [.addColumn ⟨"Users", [⟨"Age", "int", some true, none⟩]⟩], none⟩ ∧
      ofDocument key "m/001_age.yml" (document withNull) = .error (.badOperation "m/001_age.yml"
        (.badPayload .addColumn (.repeatedField "nullable"))) := by
  refine ⟨by simp, rfl, rfl⟩

end SchemaMigration.Descriptor
