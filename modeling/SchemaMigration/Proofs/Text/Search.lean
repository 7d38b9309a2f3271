import SchemaMigration.Text.Search

/-!
# Cutting and joining texts

A text is cut at every place where a separator stands, so cutting takes apart what joining puts
together (`split_concat`, `joinWith_split`).
-/

namespace SchemaMigration.Text

/-! ### Cutting -/

theorem splitOn_ne_nil (sep : Char) (s : List Char) : splitOn sep s ≠ [] := by
  cases s with
  | nil => simp [splitOn]
  | cons c cs =>
    rw [splitOn]
    split
    · simp
    · split <;> simp

/-- A text is one piece exactly if the separator does not stand in it. -/
theorem splitOn_eq_singleton_iff {sep : Char} {s : List Char} :
    splitOn sep s = [s] ↔ sep ∉ s := by
  induction s with
  | nil => simp [splitOn]
  | cons c cs ih =>
    rw [splitOn, List.mem_cons, not_or]
    by_cases hc : c = sep
    · -- the first piece is empty, and the text is not
      rw [if_pos hc]
      constructor
      · intro h
        cases (List.cons.inj h).1
      · intro h
        exact absurd hc.symm h.1
    · rw [if_neg hc]
      have hsep : sep ≠ c := fun h => hc h.symm
      cases hpieces : splitOn sep cs with
      | nil => exact absurd hpieces (splitOn_ne_nil sep cs)
      | cons piece pieces =>
        rw [hpieces] at ih
        rw [← ih]
        simp [hsep]

theorem map_toList_split (text : String) (sep : Char) :
    (split text sep).map String.toList = splitOn sep text.toList := by
  rw [split, List.map_map]
  have hid : (String.toList ∘ String.ofList) = id := by
    funext s
    exact String.toList_ofList
  rw [hid, List.map_id]

/-- A separator between two texts is a place where they are cut apart. -/
theorem splitOn_append_cons (sep : Char) (s t : List Char) :
    splitOn sep (s ++ sep :: t) = splitOn sep s ++ splitOn sep t := by
  induction s with
  | nil => simp [splitOn]
  | cons c cs ih =>
    rw [List.cons_append, splitOn, splitOn, ih]
    split
    · rfl
    · cases hpieces : splitOn sep cs with
      | nil => exact absurd hpieces (splitOn_ne_nil sep cs)
      | cons piece pieces => rfl

/-- A piece has characters of the text only, and no separator. -/
theorem notMem_of_mem_splitOn {sep : Char} {s piece : List Char} (h : piece ∈ splitOn sep s) :
    sep ∉ piece ∧ ∀ c ∈ piece, c ∈ s := by
  induction s generalizing piece with
  | nil => simp_all [splitOn]
  | cons c cs ih =>
    rw [splitOn] at h
    split at h
    · obtain rfl | h := List.mem_cons.mp h
      · simp
      · exact (ih h).imp_right fun hcs c hc => .tail _ (hcs c hc)
    · next hc =>
      -- `c` is put in front of the first piece, the others are pieces of `cs`
      cases hpieces : splitOn sep cs with
      | nil => exact absurd hpieces (splitOn_ne_nil sep cs)
      | cons first pieces =>
        simp only [hpieces, List.mem_cons] at h ih
        obtain rfl | h := h
        · obtain ⟨hsep, hcs⟩ := ih (.inl rfl)
          exact ⟨by simpa [Ne.symm hc] using hsep, by simpa using fun c hc => .inr (hcs c hc)⟩
        · exact (ih (.inr h)).imp_right fun hcs c hc => .tail _ (hcs c hc)

theorem notMem_of_mem_split {text piece : String} {sep : Char} (h : piece ∈ split text sep) :
    sep ∉ piece.toList ∧ ∀ c ∈ piece.toList, c ∈ text.toList := by
  refine notMem_of_mem_splitOn ?_
  rw [← map_toList_split]
  exact List.mem_map_of_mem h

theorem split_ne_nil (text : String) (sep : Char) : split text sep ≠ [] := by
  rw [split, ne_eq, List.map_eq_nil_iff]
  exact splitOn_ne_nil sep text.toList

theorem split_eq_singleton {text : String} {sep : Char} (h : sep ∉ text.toList) :
    split text sep = [text] := by
  rw [split, splitOn_eq_singleton_iff.mpr h, List.map_singleton, String.ofList_toList]

/-- Each separator gives one more piece. -/
theorem length_split (text : String) (sep : Char) :
    (split text sep).length = text.toList.count sep + 1 := by
  rw [split, List.length_map]
  induction text.toList with
  | nil => rfl
  | cons c cs ih =>
    rw [splitOn, List.count_cons]
    by_cases hc : c = sep
    · simp [hc, ih]
    · cases hpieces : splitOn sep cs with
      | nil => exact absurd hpieces (splitOn_ne_nil sep cs)
      | cons piece pieces =>
        rw [hpieces] at ih
        simpa [hc] using ih

theorem split_append (s t : String) (sep : Char) :
    split (s ++ String.singleton sep ++ t) sep = split s sep ++ split t sep := by
  simp [split, splitOn_append_cons]

/-- One more piece comes after a separator. -/
theorem split_concat (s : String) {t : String} {sep : Char} (h : sep ∉ t.toList) :
    split (s ++ String.singleton sep ++ t) sep = split s sep ++ [t] := by
  rw [split_append, split_eq_singleton h]

/-! ### Joining -/

theorem joinWith_cons_cons (sep s s' : String) (rest : List String) :
    joinWith sep (s :: s' :: rest) = s ++ sep ++ joinWith sep (s' :: rest) := rfl

/-- One more text is put at the end behind a separator. -/
theorem joinWith_concat (sep s : String) {texts : List String} (h : texts ≠ []) :
    joinWith sep (texts ++ [s]) = joinWith sep texts ++ sep ++ s := by
  induction texts with
  | nil => exact absurd rfl h
  | cons t rest ih =>
    cases rest with
    | nil => rfl
    | cons t' rest =>
      have hrest := ih (List.cons_ne_nil _ _)
      rw [List.cons_append, List.cons_append, joinWith_cons_cons, ← List.cons_append, hrest,
        joinWith_cons_cons, String.append_assoc, String.append_assoc, String.append_assoc,
        String.append_assoc, String.append_assoc]

/-- A text in which a separator stands ends with a separator and one last piece. -/
theorem exists_last_piece {text : String} {sep : Char} (h : sep ∈ text.toList) :
    ∃ s t : String, text = s ++ String.singleton sep ++ t ∧ sep ∉ t.toList := by
  -- the last separator is the first one from behind
  obtain ⟨after, before, hsplit, hafter⟩ :=
    List.eq_append_cons_of_mem (List.mem_reverse.mpr h)
  refine ⟨String.ofList before.reverse, String.ofList after.reverse, ?_, by simpa using hafter⟩
  apply String.toList_injective
  have hback := congrArg List.reverse hsplit
  simpa using hback

theorem splitOn_append_of_notMem {sep : Char} {s t first : List Char} {back : List (List Char)}
    (hs : sep ∉ s) (ht : splitOn sep t = first :: back) :
    splitOn sep (s ++ t) = (s ++ first) :: back := by
  induction s with
  | nil => exact ht
  | cons c cs ih =>
    rw [List.mem_cons, not_or] at hs
    rw [List.cons_append, splitOn, if_neg (Ne.symm hs.1), ih hs.2, List.cons_append]

/-- Where two texts meet, the last piece of one and the first piece of the other become one. -/
theorem split_append_eq {s t last first : String} {front back : List String} {sep : Char}
    (hs : split s sep = front ++ [last]) (ht : split t sep = first :: back) :
    split (s ++ t) sep = front ++ (last ++ first) :: back := by
  -- the last piece has no separator
  have hmem : last ∈ split s sep := by simp [hs]
  have hlast : sep ∉ last.toList := (notMem_of_mem_split hmem).1
  have hmeet : split (last ++ t) sep = (last ++ first) :: back := by
    have hpieces := congrArg (List.map String.toList) ht
    rw [map_toList_split, List.map_cons] at hpieces
    rw [split, String.toList_append, splitOn_append_of_notMem hlast hpieces, List.map_cons,
      ← String.toList_append, String.ofList_toList, List.map_map]
    have hid : (String.ofList ∘ String.toList) = id := by
      funext s
      exact String.ofList_toList
    rw [hid, List.map_id]
  by_cases hsep : sep ∈ s.toList
  · obtain ⟨a, b, rfl, hb⟩ := exists_last_piece hsep
    rw [split_concat a hb] at hs
    obtain ⟨hfront, hpiece⟩ := List.append_inj' hs rfl
    obtain rfl : b = last := by simpa using hpiece
    rw [String.append_assoc, split_append, hmeet, hfront]
  · rw [split_eq_singleton hsep, ← List.nil_append [s]] at hs
    obtain ⟨hfront, hpiece⟩ := List.append_inj' hs rfl
    obtain rfl : s = last := by simpa using hpiece
    rw [hmeet, ← hfront, List.nil_append]

/-- A piece between two texts is one with the pieces on either side. -/
theorem split_around {start piece finish before after : String} {front back : List String}
    {sep : Char} (hstart : split start sep = front ++ [before]) (hpiece : sep ∉ piece.toList)
    (hfinish : split finish sep = after :: back) :
    split (start ++ piece ++ finish) sep = front ++ (before ++ piece ++ after) :: back :=
  split_append_eq (split_append_eq hstart (split_eq_singleton hpiece)) hfinish

/-- What is cut at a separator is put together again by it. -/
theorem joinWith_split (text : String) (sep : Char) :
    joinWith (String.singleton sep) (split text sep) = text := by
  by_cases h : sep ∈ text.toList
  · -- what stands before the last separator is shorter
    obtain ⟨s, t, rfl, ht⟩ := exists_last_piece h
    rw [split_concat s ht, joinWith_concat _ _ (split_ne_nil s sep), joinWith_split s sep]
  · rw [split_eq_singleton h]
    rfl
termination_by text.length
decreasing_by
  subst_vars
  simp only [String.length_append, String.length_singleton]
  omega

/-- Texts with the same pieces are the same. -/
theorem eq_of_split_eq {s t : String} {sep : Char} (h : split s sep = split t sep) : s = t := by
  rw [← joinWith_split s sep, h, joinWith_split]

end SchemaMigration.Text
