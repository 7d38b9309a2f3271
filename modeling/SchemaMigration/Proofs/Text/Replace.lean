import SchemaMigration.Text.Search
import Mathlib.Data.List.Infix

/-!
# Occurrences and replacement

A text contains a pattern when the pattern is an infix of its characters (`contains_iff`).  When a
word is replaced, a mark that shares nothing with the word and nothing with the ends of its
replacement stays where it is, and none arises (`infix_replaceAll`): an occurrence of the mark would
have to reach over a place where the word or the replacement stands.  A text with the word has the
replacement afterwards (`native_infix_replaceAll`), and one without it is left alone
(`replaceAll_of_absent`).
-/

namespace SchemaMigration.Text

variable {mark word native s : List Char}

/-! ### Occurrence -/

/-- To occur in a text is to be an infix of it. -/
theorem occurs_iff {pattern : List Char} : occurs pattern s = true ↔ pattern <:+: s := by
  induction s with
  | nil => rw [occurs, List.isEmpty_iff, List.infix_nil]
  | cons c cs ih =>
    rw [occurs, Bool.or_eq_true, List.isPrefixOf_iff_prefix, ih, List.infix_cons_iff]

theorem contains_iff {text pattern : String} :
    contains text pattern = true ↔ pattern.toList <:+: text.toList := occurs_iff

/-! ### Replacement, place by place -/

theorem replaceFrom_eq_drop (word native : List Char) (skip : Nat) (s : List Char) :
    replaceFrom word native skip s = replaceAll word native (s.drop skip) := by
  induction s generalizing skip with
  | nil => rw [List.drop_nil]; cases skip <;> rfl
  | cons c cs ih =>
    cases skip with
    | zero => rfl
    | succ skip => exact ih skip

/-- At the word, the replacement is written and the search goes on behind the word. -/
theorem replaceAll_append (hword : word ≠ []) (s : List Char) :
    replaceAll word native (word ++ s) = native ++ replaceAll word native s := by
  obtain ⟨c, rest, rfl⟩ := List.exists_cons_of_ne_nil hword
  have hprefix : (c :: rest).isPrefixOf (c :: (rest ++ s)) = true :=
    List.isPrefixOf_iff_prefix.mpr ⟨s, rfl⟩
  have hskip : (c :: rest).length - 1 = rest.length := rfl
  show replaceFrom (c :: rest) native 0 (c :: (rest ++ s)) = _
  rw [replaceFrom, if_pos hprefix, replaceFrom_eq_drop, hskip, List.drop_left]

/-- Where the word does not begin, the character stays. -/
theorem replaceAll_cons {c : Char} (h : ¬ word <+: c :: s) :
    replaceAll word native (c :: s) = c :: replaceAll word native s := by
  rw [← List.isPrefixOf_iff_prefix] at h
  show replaceFrom word native 0 (c :: s) = _
  rw [replaceFrom, if_neg h]
  rfl

/-- To prove a fact of a text in which a word is replaced, look at the places where the word stands
and at the characters between them. -/
theorem replacement_induction (hword : word ≠ []) {motive : List Char → Prop} (nil : motive [])
    (at_word : ∀ s, motive s → motive (word ++ s))
    (between : ∀ c s, ¬ word <+: c :: s → motive s → motive (c :: s)) (s : List Char) :
    motive s := by
  induction hlength : s.length using Nat.strongRecOn generalizing s with
  | ind n ih =>
    cases s with
    | nil => exact nil
    | cons c cs =>
      -- an occurrence is skipped as a whole, so the induction is on the length
      by_cases hprefix : word <+: c :: cs
      · obtain ⟨rest, hrest⟩ := hprefix
        have hshorter : rest.length < n := by
          have hlengths := congrArg List.length hrest
          have hpositive := List.length_pos_iff.mpr hword
          rw [List.length_append] at hlengths
          omega
        rw [← hrest]
        exact at_word rest (ih _ hshorter rest rfl)
      · have hshorter : cs.length < n := by
          rw [List.length_cons] at hlength
          omega
        exact between c cs hprefix (ih _ hshorter cs rfl)

/-! ### Marks that are left alone -/

/-- A mark shares no character with a word, and none with the two ends of what the word is replaced
by, in which it does not stand either. -/
structure Apart (mark word native : List Char) : Prop where
  word_ne_nil : word ≠ []
  native_ne_nil : native ≠ []
  word_notMem : ∀ c ∈ word, c ∉ mark
  first_notMem : ∀ c ∈ native.head?, c ∉ mark
  last_notMem : ∀ c ∈ native.getLast?, c ∉ mark
  absent : ¬ mark <:+: native

theorem apart_iff : Apart mark word native ↔ word ≠ [] ∧ native ≠ [] ∧
    word.all (· ∉ mark) = true ∧ native.head?.all (· ∉ mark) = true ∧
      native.getLast?.all (· ∉ mark) = true ∧ ¬ mark <:+: native := by
  simp only [List.all_eq_true, Option.all_eq_true, decide_eq_true_eq]
  exact ⟨fun ⟨h₁, h₂, h₃, h₄, h₅, h₆⟩ => ⟨h₁, h₂, h₃, h₄, h₅, h₆⟩,
    fun ⟨h₁, h₂, h₃, h₄, h₅, h₆⟩ => ⟨h₁, h₂, h₃, h₄, h₅, h₆⟩⟩

-- only the characters of the texts are looked at, and not all that there are
instance : Decidable (Apart mark word native) := decidable_of_iff' _ apart_iff

/-- A text without characters of the first of two texts begins with nothing of the two. -/
theorem prefix_append_iff_of_head {first rest : List Char} (hfirst : first ≠ [])
    (h : ∀ c ∈ first.head?, c ∉ mark) : mark <+: first ++ rest ↔ mark = [] := by
  obtain ⟨c, first, rfl⟩ := List.exists_cons_of_ne_nil hfirst
  cases mark with
  | nil => simp
  | cons d mark =>
    have hcd : d ≠ c := fun hcd => h c rfl (hcd ▸ .head _)
    simp [hcd]

/-- Nothing at the start of a text changes when a word is replaced. -/
theorem prefix_replaceAll (h : Apart mark word native) {start : List Char} (hstart : start ⊆ mark) :
    start <+: replaceAll word native s ↔ start <+: s := by
  induction s using replacement_induction h.word_ne_nil generalizing start with
  | nil => rfl
  | at_word s ih =>
    -- neither the word nor what stands for it starts with a character of the mark
    have hnative : ∀ c ∈ native.head?, c ∉ start :=
      fun c hc hmem => h.first_notMem c hc (hstart hmem)
    have hword : ∀ c ∈ word.head?, c ∉ start := fun c hc hmem =>
      h.word_notMem c (List.mem_of_mem_head? hc) (hstart hmem)
    rw [replaceAll_append h.word_ne_nil, prefix_append_iff_of_head h.native_ne_nil hnative,
      prefix_append_iff_of_head h.word_ne_nil hword]
  | between c s hprefix ih =>
    rw [replaceAll_cons hprefix]
    cases start with
    | nil => simp
    | cons d start =>
      rw [List.cons_prefix_cons, List.cons_prefix_cons,
        ih (fun x hx => hstart (List.mem_cons_of_mem _ hx))]

/-- Behind a text with whose end a mark shares nothing, the mark stands in one of the two parts. -/
theorem infix_append_iff_of_last {before after : List Char}
    (h : ∀ c ∈ before.getLast?, c ∉ mark) :
    mark <:+: before ++ after ↔ mark <:+: before ∨ mark <:+: after := by
  rw [List.infix_append_iff]
  constructor
  · rintro (hbefore | hafter | ⟨left, right, rfl, hleft, hright⟩)
    · exact .inl hbefore
    · exact .inr hafter
    · -- what stands across the border would have the last character of the first part
      cases hlast : left.getLast? with
      | none =>
        obtain rfl := List.getLast?_eq_none_iff.mp hlast
        exact .inr hright.isInfix
      | some c =>
        have hmem := List.mem_of_getLast? hlast
        obtain ⟨rest, rfl⟩ := hleft
        have hend : c ∈ (rest ++ left).getLast? := by simp [List.getLast?_append, hlast]
        exact absurd (List.mem_append_left right hmem) (h c hend)
  · rintro (hbefore | hafter)
    · exact .inl hbefore
    · exact .inr (.inl hafter)

/-- **Replacing a word** leaves a mark apart from it where it is. -/
theorem infix_replaceAll (h : Apart mark word native) :
    mark <:+: replaceAll word native s ↔ mark <:+: s := by
  induction s using replacement_induction h.word_ne_nil with
  | nil => rfl
  | at_word s ih =>
    -- the word has no character of the mark, so no mark reaches into it
    have hword : ¬ mark <:+: word := by
      intro hmark
      cases mark with
      | nil => exact h.absent List.nil_infix
      | cons c mark => exact h.word_notMem c (hmark.subset (.head _)) (.head _)
    have hlast : ∀ c ∈ word.getLast?, c ∉ mark := fun c hc =>
      h.word_notMem c (List.mem_of_getLast? hc)
    rw [replaceAll_append h.word_ne_nil, infix_append_iff_of_last h.last_notMem,
      infix_append_iff_of_last hlast, ih]
    simp [h.absent, hword]
  | between c s hprefix ih =>
    have hhead : mark <+: replaceAll word native (c :: s) ↔ mark <+: c :: s :=
      prefix_replaceAll h (List.Subset.refl mark)
    rw [replaceAll_cons hprefix] at hhead ⊢
    rw [List.infix_cons_iff, List.infix_cons_iff, hhead, ih]

/-! ### The word itself -/

/-- A text without the word is left alone. -/
theorem replaceAll_of_absent (h : ¬ word <:+: s) : replaceAll word native s = s := by
  induction s with
  | nil => rfl
  | cons c s ih =>
    rw [List.infix_cons_iff, not_or] at h
    rw [replaceAll_cons h.1, ih h.2]

/-- A text with the word has the replacement afterwards. -/
theorem native_infix_replaceAll (hword : word ≠ []) (h : word <:+: s) :
    native <:+: replaceAll word native s := by
  induction s using replacement_induction hword with
  | nil => exact absurd (List.infix_nil.mp h) hword
  | at_word s _ =>
    rw [replaceAll_append hword]
    exact (List.prefix_append _ _).isInfix
  | between c s hprefix ih =>
    rw [replaceAll_cons hprefix]
    exact List.infix_cons (ih ((List.infix_cons_iff.mp h).resolve_left hprefix))

/-! ### Strings -/

theorem toList_replace (text pattern replacement : String) :
    (replace text pattern replacement).toList =
      replaceAll pattern.toList replacement.toList text.toList := String.toList_ofList

theorem infix_replace_iff {text pattern replacement m : String}
    (h : Apart m.toList pattern.toList replacement.toList) :
    m.toList <:+: (replace text pattern replacement).toList ↔ m.toList <:+: text.toList := by
  rw [toList_replace, infix_replaceAll h]

end SchemaMigration.Text
