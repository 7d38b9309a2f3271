import SchemaMigration.Operation.Reader
import SchemaMigration.Proofs.Document.Form
import SchemaMigration.Proofs.Result

/-!
# Records

When the entries of a record pass (`checkFields_eq_ok_iff`): each stands under a name, and every
field has at most one value, which its reader reads.  Their order does not matter then, nor what
stands under other names.
-/

namespace SchemaMigration

namespace Payload
open Document Operation

variable {α : Type} {fields : List Field} {es : List (Document × Document)} {key d : Document}
  {name : String}

/-! ### The entries of a record -/

theorem keyText_eq_some_iff : keyText key = some name ↔ key.untagged = .string name := by
  rw [keyText]
  split <;> simp_all

theorem fieldName_of_keyText (h : keyText key = some name) : fieldName key = .ok name := by
  rw [fieldName, keyText_eq_some_iff.mp h]

theorem field?_eq_head? (name : String) (es : List (Document × Document)) :
    field? name es = (valuesUnder keyText name es).head? := by
  have hname : ∀ key : Document, key.untagged.isString name = true ↔ keyText key = some name := by
    intro key
    rw [keyText_eq_some_iff]
    cases key.untagged <;> simp [isString]
  exact (head?_valuesUnder hname).symm

/-- The values that a field may have in a record: none, or one that passes its check. -/
def Field.Admits (f : Field) (values : List Document) : Prop :=
  values = [] ∨ ∃ d, values = [d] ∧ f.check d = .ok ()

theorem Field.admits_cons_iff {f : Field} {ds : List Document} :
    f.Admits (d :: ds) ↔ f.check d = .ok () ∧ ds = [] := by
  simp [Admits, and_comm]

theorem Field.Admits.length_le_one {f : Field} {values : List Document} (h : f.Admits values) :
    values.length ≤ 1 := by
  obtain rfl | ⟨d, rfl, -⟩ := h <;> simp

theorem checkFields_cons_unnamed {seen : List String} (hkey : keyText key = none) :
    checkFields fields seen ((key, d) :: es) ≠ .ok () := by
  intro h
  obtain ⟨name, hname, -⟩ := Except.bind_eq_ok_iff.mp h
  rw [fieldName] at hname
  split at hname
  · rw [keyText_eq_some_iff.mpr ‹_›] at hkey
    cases hkey
  · cases hname

theorem checkFields_cons_unknown {seen : List String} (hkey : keyText key = some name)
    (hname : ∀ f ∈ fields, f.name ≠ name) :
    checkFields fields seen ((key, d) :: es) = checkFields fields seen es := by
  have hfind : fields.find? (fun f => f.name == name) = none := by
    simpa [List.find?_eq_none] using hname
  simp [checkFields, fieldName_of_keyText hkey, hfind]

theorem checkFields_cons_field (hfields : (fields.map Field.name).Nodup) {f : Field}
    (hf : f ∈ fields) {seen : List String} (hkey : keyText key = some f.name) :
    checkFields fields seen ((key, d) :: es) = .ok () ↔
      f.name ∉ seen ∧ f.check d = .ok () ∧ checkFields fields (f.name :: seen) es = .ok () := by
  have hfind : fields.find? (fun g => g.name == f.name) = some f := by
    obtain ⟨g, hg⟩ : ∃ g, fields.find? (fun g => g.name == f.name) = some g :=
      Option.isSome_iff_exists.mp (List.find?_isSome.mpr ⟨f, hf, by simp⟩)
    rw [hg, List.inj_on_of_nodup_map hfields (List.mem_of_find?_eq_some hg) hf
      (by simpa using List.find?_some hg)]
  by_cases hseen : f.name ∈ seen
  · simp [checkFields, fieldName_of_keyText hkey, hfind, hseen]
  · simp [checkFields, fieldName_of_keyText hkey, hfind, hseen, Except.bind_eq_ok_iff,
      Unique.exists_iff]

/-- The values that a field may have in the rest of a record when these fields have been given. -/
def Field.AdmitsAfter (f : Field) (seen : List String) (values : List Document) : Prop :=
  f.Admits values ∧ (f.name ∈ seen → values = [])

theorem Field.admitsAfter_cons_iff {f : Field} {seen : List String} {ds : List Document} :
    f.AdmitsAfter seen (d :: ds) ↔
      (f.name ∉ seen ∧ f.check d = .ok ()) ∧ f.AdmitsAfter (f.name :: seen) ds := by
  rw [AdmitsAfter, AdmitsAfter, admits_cons_iff]
  constructor
  · rintro ⟨⟨hcheck, rfl⟩, hseen⟩
    exact ⟨⟨fun h => List.cons_ne_nil _ _ (hseen h), hcheck⟩, .inl rfl, fun _ => rfl⟩
  · rintro ⟨⟨hseen, hcheck⟩, -, hnil⟩
    exact ⟨⟨hcheck, hnil (.head _)⟩, fun h => absurd h hseen⟩

/-- What has been given under another name does not matter to a field. -/
theorem Field.admitsAfter_of_ne {f : Field} {seen : List String} {values : List Document}
    (h : f.name ≠ name) : f.AdmitsAfter (name :: seen) values ↔ f.AdmitsAfter seen values := by
  rw [AdmitsAfter, AdmitsAfter, List.mem_cons, or_iff_right h]

/-- An entry under the name of a field is one more value of this field and of no other. -/
theorem admitsAfter_cons_field (hfields : (fields.map Field.name).Nodup) {f g : Field}
    (hf : f ∈ fields) (hg : g ∈ fields) {seen : List String} (hkey : keyText key = some f.name) :
    g.AdmitsAfter seen (valuesUnder keyText g.name ((key, d) :: es)) ↔
      (g = f → f.name ∉ seen ∧ f.check d = .ok ()) ∧
        g.AdmitsAfter (f.name :: seen) (valuesUnder keyText g.name es) := by
  by_cases hgf : g = f
  · subst hgf
    rw [valuesUnder_cons_of_eq hkey, Field.admitsAfter_cons_iff, forall_prop_of_true rfl]
  · have hname : g.name ≠ f.name := fun h => hgf (List.inj_on_of_nodup_map hfields hg hf h)
    have hother : keyText key ≠ some g.name := fun h => hname (Option.some.inj (h.symm.trans hkey))
    rw [valuesUnder_cons_of_ne hother, Field.admitsAfter_of_ne hname]
    exact ⟨fun h => ⟨fun heq => absurd heq hgf, h⟩, And.right⟩

/-- The rest of a record passes when each entry has a name and each field has values that it admits
after what has been given. -/
theorem checkFields_eq_ok_iff_after (hfields : (fields.map Field.name).Nodup)
    {seen : List String} :
    checkFields fields seen es = .ok () ↔ (∀ e ∈ es, (keyText e.1).isSome) ∧
      ∀ f ∈ fields, f.AdmitsAfter seen (valuesUnder keyText f.name es) := by
  induction es generalizing seen with
  | nil => simp [checkFields, Field.AdmitsAfter, Field.Admits]
  | cons e es ih =>
    obtain ⟨key, d⟩ := e
    rw [List.forall_mem_cons]
    cases hkey : keyText key with
    | none => simp [checkFields_cons_unnamed hkey]
    | some name =>
      -- an entry counts for the field of its name, and for no other
      by_cases hknown : ∃ f ∈ fields, f.name = name
      · obtain ⟨f, hf, rfl⟩ := hknown
        have hvalues : ∀ g ∈ fields,
            (g.AdmitsAfter seen (valuesUnder keyText g.name ((key, d) :: es)) ↔ _) :=
          fun g hg => admitsAfter_cons_field hfields hf hg hkey
        rw [checkFields_cons_field hfields hf hkey, ih, forall₂_congr hvalues]
        constructor
        · rintro ⟨hseen, hcheck, hnamed, hrest⟩
          exact ⟨⟨rfl, hnamed⟩, fun g hg => ⟨fun _ => ⟨hseen, hcheck⟩, hrest g hg⟩⟩
        · rintro ⟨⟨-, hnamed⟩, hall⟩
          obtain ⟨hseen, hcheck⟩ := (hall f hf).1 rfl
          exact ⟨hseen, hcheck, hnamed, fun g hg => (hall g hg).2⟩
      · have hunknown : ∀ f ∈ fields, f.name ≠ name := fun f hf h => hknown ⟨f, hf, h⟩
        rw [checkFields_cons_unknown hkey hunknown, ih]
        refine and_congr (by simp) (forall₂_congr fun f hf => ?_)
        have hother : keyText key ≠ some f.name := fun h =>
          hunknown f hf (Option.some.inj (h.symm.trans hkey))
        rw [valuesUnder_cons_of_ne hother]

/-- The entries of a record pass when each has a name and each field has values that it admits. -/
theorem checkFields_eq_ok_iff (hfields : (fields.map Field.name).Nodup) :
    checkFields fields [] es = .ok () ↔ (∀ e ∈ es, (keyText e.1).isSome) ∧
      ∀ f ∈ fields, f.Admits (valuesUnder keyText f.name es) := by
  rw [checkFields_eq_ok_iff_after hfields]
  simp [Field.AdmitsAfter]

end Payload
end SchemaMigration
