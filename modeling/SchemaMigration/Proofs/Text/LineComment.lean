import SchemaMigration.Proofs.Text.Search
import Mathlib.Data.List.Infix

/-!
# Comments in lines

`uncommented` takes the comments out of a text, each of which goes from two dashes to the end of its
line.  It works on each line alone (`uncommented_append`).  What is put behind a text belongs to a
comment of the text if that is still open, which is what `EndsInComment` says: then a character at
the end is taken out with the comment (`uncommented_concat_of_endsInComment`), and otherwise it is
kept (`uncommented_concat`).
-/

namespace SchemaMigration.Text

/-- What stands in front of the first two dashes. -/
def beforeDashes : List Char → List Char
  | [] => []
  | c :: cs => if "--".toList.isPrefixOf (c :: cs) then [] else c :: beforeDashes cs

/-- The text without its comments. -/
def uncommented (text : String) : String :=
  joinWith "\n" ((split text '\n').map fun line => String.ofList (beforeDashes line.toList))

/-- Two dashes stand in the last line of the text. -/
def EndsInComment (text : String) : Prop :=
  ∃ before after, text.toList = before ++ "--".toList ++ after ∧ '\n' ∉ after

variable {s : List Char} {c : Char} {text line : String}

/-! ### Dashes -/

theorem beforeDashes_of_prefix (h : "--".toList <+: s) : beforeDashes s = [] := by
  cases s with
  | nil => rfl
  | cons c cs => rw [beforeDashes, if_pos (List.isPrefixOf_iff_prefix.mpr h)]

theorem beforeDashes_eq_self (h : ¬ "--".toList <:+: s) : beforeDashes s = s := by
  induction s with
  | nil => rfl
  | cons c cs ih =>
    have hprefix : ¬ "--".toList <+: c :: cs := fun hp => h hp.isInfix
    have hrest : ¬ "--".toList <:+: cs := fun hi => h (hi.trans (List.suffix_cons c cs).isInfix)
    rw [beforeDashes, if_neg (by rwa [List.isPrefixOf_iff_prefix]), ih hrest]

/-- What comes behind two dashes does not matter. -/
theorem beforeDashes_append (h : "--".toList <:+: s) (rest : List Char) :
    beforeDashes (s ++ rest) = beforeDashes s := by
  induction s with
  | nil => exact absurd (List.infix_nil.mp h) (by decide)
  | cons c cs ih =>
    rw [List.cons_append, beforeDashes, beforeDashes]
    obtain hprefix | hinfix := List.infix_cons_iff.mp h
    · have hlonger : "--".toList <+: c :: (cs ++ rest) :=
        hprefix.trans (List.prefix_append (c :: cs) rest)
      rw [if_pos (List.isPrefixOf_iff_prefix.mpr hprefix),
        if_pos (List.isPrefixOf_iff_prefix.mpr hlonger)]
    · -- two characters decide whether dashes come first
      have hsame : "--".toList.isPrefixOf (c :: (cs ++ rest)) =
          "--".toList.isPrefixOf (c :: cs) := by
        cases cs with
        | nil => exact absurd (List.infix_nil.mp hinfix) (by decide)
        | cons c' cs => simp [List.isPrefixOf]
      rw [hsame, ih hinfix]

/-- No other character at the end makes two dashes. -/
theorem dashes_infix_concat (hc : c ≠ '-') : "--".toList <:+: s ++ [c] ↔ "--".toList <:+: s := by
  rw [List.infix_concat_iff, or_iff_right]
  rintro ⟨before, hbefore⟩
  have hlast := congrArg List.getLast? hbefore
  rw [List.getLast?_concat, List.getLast?_append] at hlast
  exact hc (Option.some.inj hlast).symm

/-! ### Lines -/

theorem joinWith_append (sep : String) {xs ys : List String} (hx : xs ≠ []) (hy : ys ≠ []) :
    joinWith sep (xs ++ ys) = joinWith sep xs ++ sep ++ joinWith sep ys := by
  induction ys using List.reverseRecOn with
  | nil => exact absurd rfl hy
  | append_singleton ys y ih =>
    rw [← List.append_assoc, joinWith_concat sep y (by simp [hx])]
    cases ys with
    | nil => simp [joinWith]
    | cons y' ys =>
      rw [ih (by simp), joinWith_concat sep y (by simp)]
      simp only [String.append_assoc]

/-- **Line by line**: the comments of a line do not reach into the next. -/
theorem uncommented_append (s t : String) :
    uncommented (s ++ "\n" ++ t) = uncommented s ++ "\n" ++ uncommented t := by
  have hsplit : split (s ++ "\n" ++ t) '\n' = split s '\n' ++ split t '\n' := split_append s t '\n'
  rw [uncommented, hsplit, List.map_append, joinWith_append]
  · rfl
  · simp [split_ne_nil]
  · simp [split_ne_nil]

theorem uncommented_line (h : '\n' ∉ line.toList) :
    uncommented line = String.ofList (beforeDashes line.toList) := by
  rw [uncommented, split_eq_singleton h]
  rfl

theorem endsInComment_line (h : '\n' ∉ line.toList) :
    EndsInComment line ↔ "--".toList <:+: line.toList := by
  constructor
  · rintro ⟨before, after, hline, -⟩
    exact ⟨before, after, hline.symm⟩
  · rintro ⟨before, after, hline⟩
    refine ⟨before, after, hline.symm, fun hafter => h ?_⟩
    rw [← hline]
    exact List.mem_append_right _ hafter

/-- Only the last line matters to how a text ends. -/
theorem endsInComment_append (s line : String) :
    EndsInComment (s ++ "\n" ++ line) ↔ EndsInComment line := by
  constructor
  · rintro ⟨before, after, htext, hafter⟩
    have hlast : '\n' ∉ "--".toList ++ after := by simpa using hafter
    rw [String.toList_append, String.toList_append, List.append_assoc before,
      List.append_eq_append_iff] at htext
    -- the dashes stand behind the last line break
    obtain ⟨more, -, hdashes⟩ | ⟨more, hbreak, hdashes⟩ := htext
    · exact ⟨more, after, by rw [hdashes, List.append_assoc], hafter⟩
    · obtain rfl | ⟨more, c, rfl⟩ := List.eq_nil_or_concat' more
      · exact ⟨[], after, hdashes.symm, hafter⟩
      · have hend := congrArg List.getLast? hbreak
        rw [← List.append_assoc, List.getLast?_concat, List.getLast?_append] at hend
        have hc : '\n' = c := Option.some.inj hend
        rw [hdashes, ← hc] at hlast
        simp at hlast
  · rintro ⟨before, after, hline, hafter⟩
    refine ⟨(s ++ "\n").toList ++ before, after, ?_, hafter⟩
    rw [String.toList_append, hline]
    simp

/-! ### One more character -/

/-- A text is one line, or its last line stands behind a line break. -/
theorem exists_last_line (text : String) : ∃ line : String, '\n' ∉ line.toList ∧
    (text = line ∨ ∃ s : String, text = s ++ "\n" ++ line) := by
  by_cases h : '\n' ∈ text.toList
  · obtain ⟨s, line, htext, hline⟩ := exists_last_piece h
    exact ⟨line, hline, .inr ⟨s, htext⟩⟩
  · exact ⟨text, h, .inl rfl⟩

theorem uncommented_line_concat (h : '\n' ∉ line.toList) (hc : c ≠ '\n') :
    uncommented (line ++ String.singleton c) =
      String.ofList (beforeDashes (line.toList ++ [c])) := by
  have hline : '\n' ∉ (line ++ String.singleton c).toList := by simp [h, hc.symm]
  rw [uncommented_line hline, String.toList_append, String.toList_singleton]

/-- A character behind an open comment is taken out with it. -/
theorem uncommented_concat_of_endsInComment (h : EndsInComment text) (hc : c ≠ '\n') :
    uncommented (text ++ String.singleton c) = uncommented text := by
  have hlast {line : String} (hline : '\n' ∉ line.toList) (h : EndsInComment line) :
      uncommented (line ++ String.singleton c) = uncommented line := by
    rw [uncommented_line_concat hline hc, uncommented_line hline,
      beforeDashes_append ((endsInComment_line hline).mp h)]
  obtain ⟨line, hline, rfl | ⟨s, rfl⟩⟩ := exists_last_line text
  · exact hlast hline h
  · rw [String.append_assoc, uncommented_append, uncommented_append,
      hlast hline ((endsInComment_append s line).mp h)]

/-- A character behind a text with no open comment is kept, if it does not make one. -/
theorem uncommented_concat (h : ¬ EndsInComment text) (hc : c ≠ '\n') (hdash : c ≠ '-') :
    uncommented (text ++ String.singleton c) = uncommented text ++ String.singleton c := by
  have hlast {line : String} (hline : '\n' ∉ line.toList) (h : ¬ EndsInComment line) :
      uncommented (line ++ String.singleton c) = uncommented line ++ String.singleton c := by
    rw [endsInComment_line hline] at h
    rw [uncommented_line_concat hline hc, uncommented_line hline, beforeDashes_eq_self h,
      beforeDashes_eq_self (by rwa [dashes_infix_concat hdash]), String.ofList_append]
    rfl
  obtain ⟨line, hline, rfl | ⟨s, rfl⟩⟩ := exists_last_line text
  · exact hlast hline h
  · rw [endsInComment_append] at h
    rw [String.append_assoc, uncommented_append, uncommented_append, hlast hline h,
      ← String.append_assoc]

end SchemaMigration.Text
