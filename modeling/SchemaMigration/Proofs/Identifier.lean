import SchemaMigration.Identifier
import SchemaMigration.Proofs.Text.Search

/-!
# Reading identifiers back

What `quote` writes is read as the identifier that it was written for, whatever characters that has,
unless a closing bracket comes next (`read?_quote`).  What `quoteQualified` writes is read as the
parts of the name, unless a closing bracket or a dot comes next
(`readQualified?_quoteQualified`).  Nothing else is read (`read?_eq_some_iff`,
`readQualified?_eq_some_iff`), so that quoting can be undone (`quoting_undone`).
-/

namespace SchemaMigration

/-! ### One identifier -/

namespace Identifier

variable {name rest : List Char}

theorem toList_quote (name : String) : (quote name).toList = bracketed name.toList :=
  String.toList_ofList

theorem escape_bracket (cs : List Char) : escape (']' :: cs) = ']' :: ']' :: escape cs :=
  if_pos rfl

theorem escape_cons {c : Char} (hc : c ≠ ']') (cs : List Char) :
    escape (c :: cs) = c :: escape cs := if_neg hc

/-- The inside of an identifier is read up to its closing bracket. -/
theorem readInside_escape (hrest : rest.head? ≠ some ']') :
    readInside (escape name ++ ']' :: rest) = some (name, rest) := by
  induction name with
  | nil =>
    -- the bracket stands alone, for none comes next
    show readInside (']' :: rest) = some ([], rest)
    cases rest with
    | nil => rfl
    | cons c rest =>
      have hc : c ≠ ']' := by simpa using hrest
      simp [readInside, hc]
  | cons c name ih =>
    by_cases hc : c = ']'
    · obtain rfl := hc
      rw [escape_bracket, List.cons_append, List.cons_append, readInside, ih]
      rfl
    · rw [escape_cons hc, List.cons_append]
      simp [readInside, hc, ih]

theorem read?_bracketed (hrest : rest.head? ≠ some ']') :
    read? (bracketed name ++ rest) = some (name, rest) := by
  show readInside (escape name ++ [']'] ++ rest) = some (name, rest)
  rw [List.append_assoc]
  exact readInside_escape hrest

/-- **Reading back**: a quoted identifier is read as the identifier. -/
theorem read?_quote {name : String} (hrest : rest.head? ≠ some ']') :
    read? ((quote name).toList ++ rest) = some (name.toList, rest) := by
  rw [toList_quote]
  exact read?_bracketed hrest

/-! ### Qualified names -/

/-- What may come behind a qualified name so that the name ends there. -/
def Ends (rest : List Char) : Prop := rest.head? ≠ some ']' ∧ rest.head? ≠ some '.'

theorem readParts_of_read? {s : List Char} {fuel : Nat} (h : read? s = some (name, rest))
    (hrest : rest.head? ≠ some '.') : readParts (fuel + 1) s = some ([name], rest) := by
  simp only [readParts, h, Option.bind_eq_bind, Option.bind_some]
  split
  · exact absurd rfl hrest
  · rfl

theorem readParts_of_read?_dot {s : List Char} {names : List (List Char)} {next : List Char}
    {fuel : Nat} (h : read? s = some (name, '.' :: next))
    (hnext : readParts fuel next = some (names, rest)) :
    readParts (fuel + 1) s = some (name :: names, rest) := by
  simp only [readParts, h, hnext, Option.bind_eq_bind, Option.bind_some]
  rfl

/-- The first of several parts is written with a dot behind it. -/
theorem toList_joinWith_quote (part : String) {parts : List String} (hparts : parts ≠ [])
    (rest : List Char) :
    (Text.joinWith "." ((part :: parts).map quote)).toList ++ rest =
      (quote part).toList ++ '.' :: ((Text.joinWith "." (parts.map quote)).toList ++ rest) := by
  obtain ⟨part', parts, rfl⟩ := List.exists_cons_of_ne_nil hparts
  rw [List.map_cons, List.map_cons, Text.joinWith_cons_cons, String.toList_append,
    String.toList_append, List.append_assoc, List.append_assoc]
  rfl

/-- Quoted parts with dots between them are read one by one. -/
theorem readParts_joinWith {parts : List String} (hparts : parts ≠ []) (hrest : Ends rest)
    {fuel : Nat} (hfuel : parts.length ≤ fuel) :
    readParts fuel ((Text.joinWith "." (parts.map quote)).toList ++ rest) =
      some (parts.map String.toList, rest) := by
  induction parts generalizing fuel with
  | nil => exact absurd rfl hparts
  | cons part parts ih =>
    obtain ⟨fuel, rfl⟩ : ∃ k, fuel = k + 1 := ⟨fuel - 1, by simp at hfuel; omega⟩
    cases parts with
    | nil => exact readParts_of_read? (read?_quote hrest.1) hrest.2
    | cons part' parts =>
      have hlength : (part' :: parts).length ≤ fuel := by simp at hfuel ⊢; omega
      rw [toList_joinWith_quote part (List.cons_ne_nil _ _)]
      exact readParts_of_read?_dot (read?_quote (by simp)) (ih (List.cons_ne_nil _ _) hlength)

/-- Quoted parts are at least as long as they are many. -/
theorem length_le_joinWith (parts : List String) :
    parts.length ≤ (Text.joinWith "." (parts.map quote)).toList.length := by
  -- the opening bracket of a part is one character already
  have hquote (part : String) : 1 ≤ (quote part).toList.length := by
    rw [toList_quote, bracketed, List.length_cons]
    omega
  induction parts with
  | nil => simp
  | cons part parts ih =>
    have hpart := hquote part
    cases parts with
    | nil => exact hpart
    | cons part' parts =>
      have hjoin := congrArg List.length
        (toList_joinWith_quote part (List.cons_ne_nil part' parts) [])
      simp only [List.append_nil, List.length_append, List.length_cons] at hjoin ih ⊢
      omega

theorem readQualified?_joinWith {parts : List String} (hparts : parts ≠ []) (hrest : Ends rest) :
    readQualified? ((Text.joinWith "." (parts.map quote)).toList ++ rest) =
      some (parts.map String.toList, rest) := by
  refine readParts_joinWith hparts hrest ?_
  have hlength := length_le_joinWith parts
  rw [List.length_append]
  omega

/-- A name that has been quoted as a whole is read as one part. -/
theorem readQualified?_quote {name : String} (hrest : Ends rest) :
    readQualified? ((quote name).toList ++ rest) = some ([name.toList], rest) := by
  have hparts : [name] ≠ [] := List.cons_ne_nil _ _
  have hread := readQualified?_joinWith hparts hrest
  exact hread

/-- **Reading back**: a name that has been quoted part by part is read as its parts. -/
theorem readQualified?_quoteQualified {name : String} (hrest : Ends rest) :
    readQualified? ((quoteQualified name).toList ++ rest) =
      some (Text.splitOn '.' name.toList, rest) := by
  rw [quoteQualified, readQualified?_joinWith (Text.split_ne_nil name '.') hrest,
    Text.map_toList_split]

/-- A quoted identifier behind a name that has been quoted part by part is read as one more
part. -/
theorem readQualified?_quoteQualified_dot {table name : String} (hrest : Ends rest) :
    readQualified? ((quoteQualified table ++ "." ++ quote name).toList ++ rest) =
      some (Text.splitOn '.' table.toList ++ [name.toList], rest) := by
  have hparts : Text.split table '.' ++ [name] ≠ [] := by simp
  have hread := readQualified?_joinWith hparts hrest
  rw [List.map_append, List.map_singleton,
    Text.joinWith_concat _ _ (by simpa using Text.split_ne_nil table '.'), List.map_append,
    Text.map_toList_split, List.map_singleton] at hread
  exact hread

/-! ### Nothing else is read -/

/-- The inside of an identifier ends at a closing bracket that stands alone. -/
theorem readInside_eq_some_iff {s : List Char} : readInside s = some (name, rest) ↔
    s = escape name ++ ']' :: rest ∧ rest.head? ≠ some ']' := by
  constructor
  · intro h
    fun_induction readInside s generalizing name with
    | case1 => cases h
    | case2 next ih =>
      -- two brackets are one character of the identifier
      obtain ⟨⟨inner, after⟩, hinner, hpair⟩ := Option.map_eq_some_iff.mp h
      obtain ⟨rfl, rfl⟩ := Prod.mk.inj hpair
      obtain ⟨rfl, hrest⟩ := ih hinner
      rw [escape_bracket]
      exact ⟨rfl, hrest⟩
    | case3 next hnext =>
      obtain ⟨rfl, rfl⟩ := Prod.mk.inj (Option.some.inj h)
      refine ⟨rfl, fun hhead => ?_⟩
      obtain ⟨tail, rfl⟩ := List.head?_eq_some_iff.mp hhead
      exact hnext tail rfl rfl
    | case4 c next _ hc ih =>
      obtain ⟨⟨inner, after⟩, hinner, hpair⟩ := Option.map_eq_some_iff.mp h
      obtain ⟨rfl, rfl⟩ := Prod.mk.inj hpair
      obtain ⟨rfl, hrest⟩ := ih hinner
      rw [escape_cons hc]
      exact ⟨rfl, hrest⟩
  · rintro ⟨rfl, hrest⟩
    exact readInside_escape hrest

/-- **Reading identifiers**: what is read as an identifier is what is written for it, up to a
character that is no closing bracket. -/
theorem read?_eq_some_iff {s : List Char} : read? s = some (name, rest) ↔
    s = bracketed name ++ rest ∧ rest.head? ≠ some ']' := by
  constructor
  · intro h
    unfold read? at h
    split at h
    · next inside =>
      obtain ⟨rfl, hrest⟩ := readInside_eq_some_iff.mp h
      refine ⟨?_, hrest⟩
      rw [bracketed, List.cons_append, List.append_assoc]
      rfl
    · cases h
  · rintro ⟨rfl, hrest⟩
    exact read?_bracketed hrest

/-- What is read part by part is what is written for the parts, with dots between them. -/
theorem exists_parts_of_readParts {s : List Char} {names : List (List Char)} {fuel : Nat}
    (h : readParts fuel s = some (names, rest)) : ∃ parts : List String, parts ≠ [] ∧
      names = parts.map String.toList ∧
      s = (Text.joinWith "." (parts.map quote)).toList ++ rest ∧ Ends rest := by
  induction fuel generalizing s names with
  | zero => cases h
  | succ fuel ih =>
    rw [readParts, Option.bind_eq_bind] at h
    obtain ⟨⟨name, after⟩, hread, hafter⟩ := Option.bind_eq_some_iff.mp h
    obtain ⟨hname, hbracket⟩ := read?_eq_some_iff.mp hread
    have hquote : (quote (String.ofList name)).toList = bracketed name := by
      rw [toList_quote, String.toList_ofList]
    dsimp only at hafter
    -- behind a dot there is one more part, and anything else ends the name
    split at hafter
    · next next =>
      rw [Option.bind_eq_bind] at hafter
      obtain ⟨⟨names', rest'⟩, hnext, hpair⟩ := Option.bind_eq_some_iff.mp hafter
      have hpair : some (name :: names', rest') = some (names, rest) := hpair
      obtain ⟨rfl, rfl⟩ := Prod.mk.inj (Option.some.inj hpair)
      obtain ⟨parts, hparts, rfl, rfl, hends⟩ := ih hnext
      refine ⟨String.ofList name :: parts, List.cons_ne_nil _ _, ?_, ?_, hends⟩
      · rw [List.map_cons, String.toList_ofList]
      · rw [hname, toList_joinWith_quote _ hparts, hquote]
    · next hdot =>
      obtain ⟨rfl, rfl⟩ := Prod.mk.inj (Option.some.inj hafter)
      refine ⟨[String.ofList name], List.cons_ne_nil _ _, ?_, ?_, hbracket, fun hhead => ?_⟩
      · rw [List.map_singleton, String.toList_ofList]
      · rw [hname, ← hquote]
        rfl
      · obtain ⟨tail, rfl⟩ := List.head?_eq_some_iff.mp hhead
        exact hdot tail rfl

/-- **Reading qualified names**: what is read as the parts of a name is what is written for them, up
to a character that is neither a closing bracket nor a dot. -/
theorem readQualified?_eq_some_iff {s : List Char} {parts : List String} :
    readQualified? s = some (parts.map String.toList, rest) ↔
      parts ≠ [] ∧ s = (Text.joinWith "." (parts.map quote)).toList ++ rest ∧ Ends rest := by
  constructor
  · intro h
    obtain ⟨parts', hparts, hmap, hs, hends⟩ := exists_parts_of_readParts h
    obtain rfl := (List.map_inj_right fun _ _ h => String.toList_injective h).mp hmap
    exact ⟨hparts, hs, hends⟩
  · rintro ⟨hparts, rfl, hends⟩
    exact readQualified?_joinWith hparts hends

/-! ### Main theorem -/

/-- **Quoting can be undone.**  A quoted identifier is read as the identifier, and what follows is
left, exactly if no closing bracket follows.  A name that is quoted part by part is read as its
parts, and what follows is left, exactly if neither a closing bracket nor a dot follows; the parts
have no dots, and with dots between them they are the name.  So different names are quoted
differently, in either way. -/
theorem quoting_undone :
    (∀ (name : String) (rest : List Char),
      read? ((quote name).toList ++ rest) = some (name.toList, rest) ↔ rest.head? ≠ some ']') ∧
    (∀ (name : String) (rest : List Char),
      readQualified? ((quoteQualified name).toList ++ rest) =
        some ((Text.split name '.').map String.toList, rest) ↔
          rest.head? ≠ some ']' ∧ rest.head? ≠ some '.') ∧
    (∀ name : String, Text.joinWith "." (Text.split name '.') = name ∧
      ∀ part ∈ Text.split name '.', '.' ∉ part.toList) ∧
    Function.Injective quote ∧ Function.Injective quoteQualified := by
  have hread (name : String) (rest : List Char) :
      read? ((quote name).toList ++ rest) = some (name.toList, rest) ↔
        rest.head? ≠ some ']' := by
    rw [read?_eq_some_iff, toList_quote]
    exact and_iff_right rfl
  have hparts (name : String) (rest : List Char) :
      readQualified? ((quoteQualified name).toList ++ rest) =
        some ((Text.split name '.').map String.toList, rest) ↔ Ends rest := by
    rw [readQualified?_eq_some_iff, and_iff_right (Text.split_ne_nil name '.')]
    exact and_iff_right rfl
  have hjoin (name : String) : Text.joinWith "." (Text.split name '.') = name :=
    Text.joinWith_split name '.'
  refine ⟨hread, hparts, fun name => ⟨hjoin name, fun part hpart => ?_⟩, ?_, ?_⟩
  · exact (Text.notMem_of_mem_split hpart).1
  · -- what two names have as their quoted form is read back as either of them
    intro name name' heq
    have hname := (hread name []).mpr (by simp)
    have hname' := (hread name' []).mpr (by simp)
    rw [heq, hname', Option.some.injEq, Prod.mk.injEq] at hname
    exact String.toList_injective hname.1.symm
  · intro name name' heq
    have hends : Ends [] := ⟨by simp, by simp⟩
    have hname := (hparts name []).mpr hends
    have hname' := (hparts name' []).mpr hends
    rw [heq, hname', Option.some.injEq, Prod.mk.injEq] at hname
    have hsplit := (List.map_inj_right fun _ _ h => String.toList_injective h).mp hname.1
    exact Text.eq_of_split_eq hsplit.symm

/-- Names with closing brackets next to the bracket that closes them, and one with an empty part. -/
theorem quoting_undone_of_brackets :
    read? "[a]]]]].b".toList = some ("a]]".toList, ".b".toList) ∧
    readQualified? "[d]]o].[]]].[] (".toList =
      some (["d]o".toList, "]".toList, "".toList], " (".toList) ∧
    Text.joinWith "." ["d]o", "]", ""] = "d]o.]." ∧ '.' ∉ "d]o".toList := by
  obtain ⟨hread, hparts, hsplit, -, -⟩ := quoting_undone
  have hname := (hread "a]]" ".b".toList).mpr (by decide)
  have hqualified := (hparts "d]o.]." " (".toList).mpr (by decide)
  obtain ⟨hjoin, hdot⟩ := hsplit "d]o.]."
  exact ⟨hname, hqualified, hjoin, hdot "d]o" (.head _)⟩

end Identifier
end SchemaMigration
