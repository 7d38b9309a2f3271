import SchemaMigration.Text.Blank

/-!
# Trimming texts

`Trims s core` says what it is to take the white space off the two ends of a text: what is left
begins and ends with other characters.  There is one such text, and it is `trimBlanks s`
(`trims_iff`).
-/

namespace SchemaMigration.Text

/-- The text `core` is what is left of `s` without the white space at its two ends. -/
structure Trims (s core : List Char) : Prop where
  exists_ends : ∃ before after, s = before ++ core ++ after ∧
    (∀ c ∈ before, isBlank c = true) ∧ ∀ c ∈ after, isBlank c = true
  head : ∀ c ∈ core.head?, isBlank c = false
  last : ∀ c ∈ core.getLast?, isBlank c = false

variable {s core blanks : List Char}

/-! ### The left end -/

theorem trimLeft_append (h : ∀ c ∈ blanks, isBlank c = true) (s : List Char) :
    trimLeft (blanks ++ s) = trimLeft s :=
  List.dropWhile_append_of_pos h

theorem trimLeft_eq_nil (h : ∀ c ∈ blanks, isBlank c = true) : trimLeft blanks = [] := by
  have happend := trimLeft_append h []
  rwa [List.append_nil] at happend

theorem trimLeft_eq_self (h : ∀ c ∈ s.head?, isBlank c = false) : trimLeft s = s := by
  cases s with
  | nil => rfl
  | cons c cs =>
    have hc := h c rfl
    exact List.dropWhile_cons_of_neg (by simp [hc])

theorem head?_trimLeft (s : List Char) : ∀ c ∈ (trimLeft s).head?, isBlank c = false := by
  intro c hc
  have hhead := List.head?_dropWhile_not isBlank s
  rw [← trimLeft, hc] at hhead
  simpa using hhead

theorem exists_append_trimLeft (s : List Char) :
    ∃ before, s = before ++ trimLeft s ∧ ∀ c ∈ before, isBlank c = true :=
  ⟨s.takeWhile isBlank, List.takeWhile_append_dropWhile.symm,
    List.all_eq_true.mp List.all_takeWhile⟩

/-! ### Both ends -/

/-- White space in front of a text is taken off with that at its ends. -/
theorem trimBlanks_append (h : ∀ c ∈ blanks, isBlank c = true) (s : List Char) :
    trimBlanks (blanks ++ s) = trimBlanks s := by
  rw [trimBlanks, trimLeft_append h, trimBlanks]

theorem trim_append {blanks : String} (h : ∀ c ∈ blanks.toList, isBlank c = true) (s : String) :
    trim (blanks ++ s) = trim s := by
  rw [trim, String.toList_append, trimBlanks_append h, trim]

theorem trimBlanks_eq_nil (h : ∀ c ∈ blanks, isBlank c = true) : trimBlanks blanks = [] := by
  rw [trimBlanks, trimLeft_eq_nil h]
  rfl

theorem Trims.eq_trimBlanks (h : Trims s core) : core = trimBlanks s := by
  obtain ⟨⟨before, after, rfl, hbefore, hafter⟩, hhead, hlast⟩ := h
  rw [List.append_assoc, trimBlanks_append hbefore]
  cases core with
  | nil => exact (trimBlanks_eq_nil hafter).symm
  | cons c cs =>
    have hleft : trimLeft (c :: cs ++ after) = c :: cs ++ after := trimLeft_eq_self hhead
    have hright : trimLeft (after.reverse ++ (c :: cs).reverse) = (c :: cs).reverse := by
      rw [trimLeft_append (by simpa using hafter)]
      refine trimLeft_eq_self ?_
      rwa [List.head?_reverse]
    rw [trimBlanks, hleft, List.reverse_append, hright, List.reverse_reverse]

theorem trims_trimBlanks (s : List Char) : Trims s (trimBlanks s) := by
  obtain ⟨before, hs, hbefore⟩ := exists_append_trimLeft s
  obtain ⟨after, hleft, hafter⟩ := exists_append_trimLeft (trimLeft s).reverse
  -- what is taken off the right end is a beginning of the reversed text
  have hcore : trimLeft s = trimBlanks s ++ after.reverse := by
    rw [trimBlanks, ← List.reverse_append, ← hleft, List.reverse_reverse]
  refine ⟨⟨before, after.reverse, ?_, hbefore, by simpa using hafter⟩, ?_, ?_⟩
  · rw [List.append_assoc, ← hcore, ← hs]
  · intro c hc
    refine head?_trimLeft s c ?_
    rw [hcore, List.head?_append, Option.mem_def.mp hc]
    rfl
  · rw [trimBlanks, List.getLast?_reverse]
    exact head?_trimLeft _

/-- **Trimming**: the white space at the ends can be taken off in one way only. -/
theorem trims_iff : Trims s core ↔ core = trimBlanks s :=
  ⟨Trims.eq_trimBlanks, fun h => h ▸ trims_trimBlanks s⟩

end SchemaMigration.Text
