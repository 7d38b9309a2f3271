import SchemaMigration.Document
import Mathlib.Data.List.Nodup

/-!
# Rewording a mapping

A mapping is read by the names of its entries: some are members of what is read, others are passed
over.  `Form` says which are which, `Form.Step` lists the changes to a mapping that say nothing new,
and `Form.Step.agrees` what such a change leaves of the values of a member.  The order of the
entries and those that are passed over do not show there: a member that is given at most once keeps
its value, gets a reworded one, or gains or loses a null.
-/

namespace SchemaMigration

/-- A member that is read from a mapping. -/
structure Slot where
  name : String
  /-- how its value may be reworded -/
  value : Document → Document → Prop
  /-- whether a null stands for a missing member -/
  mayBeNull : Bool

/-- What is read from a mapping, and what is passed over. -/
structure Form where
  /-- the name that a key stands for -/
  nameOf : Document → Option String
  /-- the members that are read -/
  slots : List Slot
  /-- the keys that are passed over -/
  skips : Document → Prop
  distinct : (slots.map Slot.name).Nodup
  unread : ∀ {key}, skips key → ∀ s ∈ slots, nameOf key ≠ some s.name

/-! ### The values of a member -/

namespace Document

/-- The values that a mapping gives under a name; `nameOf` is the name that a key stands for. -/
def valuesUnder (nameOf : Document → Option String) (name : String)
    (entries : List (Document × Document)) : List Document :=
  entries.filterMap fun e => if nameOf e.1 = some name then some e.2 else none

variable {nameOf : Document → Option String} {name : String} {key : Document}
  {es fs : List (Document × Document)}

@[simp]
theorem valuesUnder_nil : valuesUnder nameOf name [] = [] := rfl

theorem valuesUnder_cons_of_eq (h : nameOf key = some name) (d : Document) :
    valuesUnder nameOf name ((key, d) :: es) = d :: valuesUnder nameOf name es := by
  simp [valuesUnder, h]

theorem valuesUnder_cons_of_ne (h : nameOf key ≠ some name) (d : Document) :
    valuesUnder nameOf name ((key, d) :: es) = valuesUnder nameOf name es := by
  simp [valuesUnder, h]

theorem valuesUnder_append :
    valuesUnder nameOf name (es ++ fs) = valuesUnder nameOf name es ++ valuesUnder nameOf name fs :=
  List.filterMap_append

theorem valuesUnder_perm (h : es.Perm fs) :
    (valuesUnder nameOf name es).Perm (valuesUnder nameOf name fs) :=
  h.filterMap _

theorem valuesUnder_eq_nil_iff :
    valuesUnder nameOf name es = [] ↔ ∀ e ∈ es, nameOf e.1 ≠ some name := by
  simp [valuesUnder]

/-- The first value under a name is the one that a search for its key finds. -/
theorem head?_valuesUnder {p : Document → Bool}
    (hp : ∀ key, p key = true ↔ nameOf key = some name) :
    (valuesUnder nameOf name es).head? = (es.find? fun e => p e.1).map Prod.snd := by
  induction es with
  | nil => rfl
  | cons e es ih =>
    obtain ⟨key, d⟩ := e
    by_cases hkey : nameOf key = some name
    · simp [valuesUnder_cons_of_eq hkey, (hp key).mpr hkey]
    · have hp' : p key = false := Bool.eq_false_iff.mpr (mt (hp key).mp hkey)
      simp [valuesUnder_cons_of_ne hkey, hp', ih]

/-- The string that a document is, if it is one. -/
def string? : Document → Option String
  | .string s => some s
  | _ => none

theorem string?_eq_some_iff {d : Document} {s : String} : d.string? = some s ↔ d = .string s := by
  cases d <;> simp [string?]

theorem lookup?_eq_head? (name : String) (es : List (Document × Document)) :
    lookup? name es = (valuesUnder string? name es).head? :=
  (head?_valuesUnder fun key => by cases key <;> simp [isString, string?]).symm

/-- Entries with different keys give at most one value under a name. -/
theorem length_valuesUnder_le_one (h : (es.map Prod.fst).Nodup) :
    (valuesUnder string? name es).length ≤ 1 := by
  induction es with
  | nil => simp
  | cons e es ih =>
    obtain ⟨key, d⟩ := e
    obtain ⟨hnew, hrest⟩ := List.nodup_cons.mp h
    by_cases hkey : key.string? = some name
    · -- keys are distinct, so no later entry has the name
      have hnil : valuesUnder string? name es = [] := by
        refine valuesUnder_eq_nil_iff.mpr fun e he hname => hnew ?_
        exact List.mem_map.mpr
          ⟨e, he, (string?_eq_some_iff.mp hname).trans (string?_eq_some_iff.mp hkey).symm⟩
      rw [valuesUnder_cons_of_eq hkey, hnil]
      simp
    · rw [valuesUnder_cons_of_ne hkey]
      exact ih hrest

end Document

/-! ### Rewording -/

/-- What a change leaves of the values of a member that is given at most once. -/
inductive Slot.Agrees (s : Slot) : List Document → List Document → Prop
  | same (values : List Document) : s.Agrees values values
  | nullAdded (h : s.mayBeNull = true) : s.Agrees [] [.null]
  | nullRemoved (h : s.mayBeNull = true) : s.Agrees [.null] []
  | within {d d' : Document} (h : s.value d d') : s.Agrees [d] [d']

theorem Slot.Agrees.length_le_one {s : Slot} {values values' : List Document}
    (h : s.Agrees values values') (hle : values.length ≤ 1) : values'.length ≤ 1 := by
  cases h with
  | same => exact hle
  | _ => simp

namespace Form
open Document

variable {F : Form} {s : Slot} {es fs : List (Document × Document)}

/-- A change to the entries of a mapping that says nothing new. -/
inductive Step (F : Form) : List (Document × Document) → List (Document × Document) → Prop
  | permuted {es fs : List (Document × Document)} (h : es.Perm fs) : F.Step es fs
  | added {es : List (Document × Document)} {key : Document} (h : F.skips key) (value : Document) :
    F.Step es ((key, value) :: es)
  | removed {es : List (Document × Document)} {key : Document} (h : F.skips key)
      (value : Document) : F.Step ((key, value) :: es) es
  /-- a null under the name of a member that is not given yet -/
  | nullAdded {es : List (Document × Document)} {s : Slot} {key : Document} (hs : s ∈ F.slots)
      (hnull : s.mayBeNull = true) (hkey : F.nameOf key = some s.name)
      (habsent : valuesUnder F.nameOf s.name es = []) : F.Step es ((key, .null) :: es)
  | nullRemoved {es : List (Document × Document)} {s : Slot} {key : Document} (hs : s ∈ F.slots)
      (hnull : s.mayBeNull = true) (hkey : F.nameOf key = some s.name) :
    F.Step ((key, .null) :: es) es
  | within {es fs : List (Document × Document)} {s : Slot} {key d d' : Document}
      (hs : s ∈ F.slots) (hkey : F.nameOf key = some s.name) (h : s.value d d') :
    F.Step (es ++ (key, d) :: fs) (es ++ (key, d') :: fs)

/-- A name stands for one member only. -/
theorem eq_of_nameOf {key : Document} {t : Slot} (hs : s ∈ F.slots) (ht : t ∈ F.slots)
    (hkey : F.nameOf key = some s.name) (hkey' : F.nameOf key = some t.name) : s = t :=
  List.inj_on_of_nodup_map F.distinct hs ht (Option.some.inj (hkey.symm.trans hkey'))

/-- **Rewording shows in a member's own value only.** -/
theorem Step.agrees (h : F.Step es fs) (hs : s ∈ F.slots)
    (hle : (valuesUnder F.nameOf s.name es).length ≤ 1) :
    s.Agrees (valuesUnder F.nameOf s.name es) (valuesUnder F.nameOf s.name fs) := by
  cases h with
  | permuted h =>
    have hvalues : (valuesUnder F.nameOf s.name es).Perm (valuesUnder F.nameOf s.name fs) :=
      valuesUnder_perm h
    -- a list of at most one value has only one order
    have heq : valuesUnder F.nameOf s.name es = valuesUnder F.nameOf s.name fs := by
      cases hes : valuesUnder F.nameOf s.name es with
      | nil => exact (List.nil_perm.mp (hes ▸ hvalues)).symm
      | cons d ds =>
        obtain rfl : ds = [] := List.eq_nil_of_length_eq_zero (by simpa [hes] using hle)
        exact List.singleton_perm.mp (hes ▸ hvalues)
    rw [← heq]
    exact .same _
  | added h value =>
    rw [valuesUnder_cons_of_ne (F.unread h s hs)]
    exact .same _
  | removed h value =>
    rw [valuesUnder_cons_of_ne (F.unread h s hs)]
    exact .same _
  | @nullAdded _ t key ht hnull hkey habsent =>
    by_cases hname : F.nameOf key = some s.name
    · obtain rfl := eq_of_nameOf hs ht hname hkey
      rw [valuesUnder_cons_of_eq hname, habsent]
      exact .nullAdded hnull
    · rw [valuesUnder_cons_of_ne hname]
      exact .same _
  | @nullRemoved _ t key ht hnull hkey =>
    by_cases hname : F.nameOf key = some s.name
    · obtain rfl := eq_of_nameOf hs ht hname hkey
      rw [valuesUnder_cons_of_eq hname] at hle ⊢
      have hes : valuesUnder F.nameOf s.name fs = [] :=
        List.eq_nil_of_length_eq_zero (by simpa using hle)
      rw [hes]
      exact .nullRemoved hnull
    · rw [valuesUnder_cons_of_ne hname]
      exact .same _
  | @within es fs t key d d' ht hkey h =>
    by_cases hname : F.nameOf key = some s.name
    · obtain rfl := eq_of_nameOf hs ht hname hkey
      simp only [valuesUnder_append, valuesUnder_cons_of_eq hname] at hle ⊢
      simp only [List.length_append, List.length_cons] at hle
      -- the value is the only one of its slot, so the slot has none before it and none behind it
      have hes : valuesUnder F.nameOf s.name es = [] := List.eq_nil_of_length_eq_zero (by omega)
      have hfs : valuesUnder F.nameOf s.name fs = [] := List.eq_nil_of_length_eq_zero (by omega)
      rw [hes, hfs]
      exact .within h
    · simp only [valuesUnder_append, valuesUnder_cons_of_ne hname]
      exact .same _

end Form
end SchemaMigration
