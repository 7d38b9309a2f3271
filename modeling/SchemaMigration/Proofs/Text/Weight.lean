import SchemaMigration.Proofs.Text.Replace

/-!
# The weight of a text

The weight of a text is the sum of the weights of its characters.  A word that is replaced by
something heavier makes a text heavier if it stands in it (`weight_lt_replaceAll`), and no text
lighter (`weight_le_replaceAll`).
-/

namespace SchemaMigration.Text

variable {weigh : Char → Nat} {word native s : List Char}

/-- The sum of the weights of the characters of a text. -/
def weight (weigh : Char → Nat) : List Char → Nat
  | [] => 0
  | c :: s => weigh c + weight weigh s

theorem weight_cons (c : Char) (s : List Char) :
    weight weigh (c :: s) = weigh c + weight weigh s := rfl

theorem weight_append (s t : List Char) :
    weight weigh (s ++ t) = weight weigh s + weight weigh t := by
  induction s with
  | nil => exact (Nat.zero_add _).symm
  | cons c s ih => rw [List.cons_append, weight_cons, weight_cons, ih, Nat.add_assoc]

/-- Characters without weight may be taken out. -/
theorem weight_filter {keeps : Char → Bool} (h : ∀ c, keeps c = false → weigh c = 0)
    (s : List Char) : weight weigh (s.filter keeps) = weight weigh s := by
  induction s with
  | nil => rfl
  | cons c s ih =>
    cases hc : keeps c with
    | true => rw [List.filter_cons_of_pos hc, weight_cons, weight_cons, ih]
    | false =>
      rw [List.filter_cons_of_neg (by simp [hc]), weight_cons, ih, h c hc, Nat.zero_add]

/-! ### Replacing a word -/

/-- A word is replaced by something heavier. -/
structure Gains (weigh : Char → Nat) (word native : List Char) : Prop where
  word_ne_nil : word ≠ []
  weight_lt : weight weigh word < weight weigh native

theorem gains_iff : Gains weigh word native ↔
    word ≠ [] ∧ weight weigh word < weight weigh native :=
  ⟨fun ⟨hword, hlt⟩ => ⟨hword, hlt⟩, fun ⟨hword, hlt⟩ => ⟨hword, hlt⟩⟩

instance : Decidable (Gains weigh word native) := decidable_of_iff' _ gains_iff

/-- No text gets lighter. -/
theorem weight_le_replaceAll (h : Gains weigh word native) (s : List Char) :
    weight weigh s ≤ weight weigh (replaceAll word native s) := by
  induction s using replacement_induction h.word_ne_nil with
  | nil => exact Nat.le_refl _
  | at_word s ih =>
    rw [replaceAll_append h.word_ne_nil, weight_append, weight_append]
    exact Nat.add_le_add (Nat.le_of_lt h.weight_lt) ih
  | between c s hprefix ih =>
    rw [replaceAll_cons hprefix, weight_cons, weight_cons]
    exact Nat.add_le_add_left ih _

/-- **Replacing a word** by something heavier makes a text with the word in it heavier. -/
theorem weight_lt_replaceAll (h : Gains weigh word native) (hoccurs : word <:+: s) :
    weight weigh s < weight weigh (replaceAll word native s) := by
  induction s using replacement_induction h.word_ne_nil with
  | nil => exact absurd (List.infix_nil.mp hoccurs) h.word_ne_nil
  | at_word s _ =>
    -- the word that begins the text is enough, whatever stands behind it
    have hrest := weight_le_replaceAll h s
    rw [replaceAll_append h.word_ne_nil, weight_append, weight_append]
    exact Nat.add_lt_add_of_lt_of_le h.weight_lt hrest
  | between c s hprefix ih =>
    have hrest := ih ((List.infix_cons_iff.mp hoccurs).resolve_left hprefix)
    rw [replaceAll_cons hprefix, weight_cons, weight_cons]
    exact Nat.add_lt_add_left hrest _

end SchemaMigration.Text
