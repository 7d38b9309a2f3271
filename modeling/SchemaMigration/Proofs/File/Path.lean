import SchemaMigration.File.Path
import SchemaMigration.Proofs.Text.Search

/-!
# Paths into a directory

The path of an entry of a directory ends with the name of the entry (`split_join`,
`fileName?_join`), and a name with an extension is its stem, a dot and the extension
(`splitExtension_eq_iff`).
-/

namespace SchemaMigration.Path

/-- A text that can name an entry of a directory. -/
structure IsName (name : String) : Prop where
  ne_empty : name ≠ ""
  ne_here : name ≠ "."
  ne_up : name ≠ ".."
  no_slash : '/' ∉ name.toList
  no_null : '\x00' ∉ name.toList

variable {name : String}

/-! ### Joining -/

theorem isAbsolute_eq_false (h : '/' ∉ name.toList) : isAbsolute name = false := by
  cases hname : name.toList with
  | nil => simp [isAbsolute, hname]
  | cons c cs =>
    rw [hname, List.mem_cons, not_or] at h
    simpa [isAbsolute, hname] using Ne.symm h.1

/-- A name is put behind the directory, with a slash between them where there is none yet. -/
theorem exists_join (directory : String) (h : '/' ∉ name.toList) :
    ∃ slash, (slash = "" ∨ slash = "/") ∧ join directory name = directory ++ slash ++ name := by
  simp only [join, isAbsolute_eq_false h, Bool.false_eq_true, if_false]
  split
  · exact ⟨"", .inl rfl, by rw [String.append_empty]⟩
  · exact ⟨"/", .inr rfl, rfl⟩

/-- The parts of a path into a directory are those of the directory and the name; an empty part
after a slash at the end of the directory is dropped. -/
theorem split_join (directory : String) (h : '/' ∉ name.toList) :
    ∃ parts, Text.split (join directory name) '/' = parts ++ [name] ∧
      (directory ≠ "" →
        Text.split directory '/' = parts ∨ Text.split directory '/' = parts ++ [""]) := by
  simp only [join, isAbsolute_eq_false h, Bool.false_eq_true, if_false]
  split
  · next hends =>
    by_cases hempty : directory = ""
    · refine ⟨[], ?_, fun hne => absurd hempty hne⟩
      simpa [hempty] using Text.split_eq_singleton h
    · -- the directory ends with a slash
      have hlast : directory.toList.getLast? = some '/' := by simpa [hempty] using hends
      obtain ⟨cs, hcs⟩ := List.getLast?_eq_some_iff.mp hlast
      obtain rfl : directory = String.ofList cs ++ String.singleton '/' ++ "" :=
        String.toList_injective (by simpa using hcs)
      refine ⟨Text.split (String.ofList cs) '/', ?_, fun _ => .inr (Text.split_concat _ (by simp))⟩
      rw [String.append_empty, Text.split_concat _ h]
  · exact ⟨Text.split directory '/', Text.split_concat directory h, fun _ => .inl rfl⟩

/-- The path of an entry of a directory ends with the name of the entry. -/
theorem fileName?_join (directory : String) (h : IsName name) :
    fileName? (join directory name) = some name := by
  obtain ⟨parts, hparts, -⟩ := split_join directory h.no_slash
  have hname : component? name = some (.name name) := by
    simp [component?, h.ne_empty, h.ne_here, h.ne_up]
  simp [fileName?, components, hparts, hname]

theorem isAbsolute_join {directory : String} (hdirectory : directory ≠ "") (h : '/' ∉ name.toList) :
    isAbsolute (join directory name) = isAbsolute directory := by
  obtain ⟨slash, -, hjoin⟩ := exists_join directory h
  cases hchars : directory.toList with
  | nil => exact absurd (String.toList_eq_nil_iff.mp hchars) hdirectory
  | cons c cs => simp [isAbsolute, hjoin, hchars]

theorem notMem_join {directory : String} {c : Char} (hc : c ≠ '/')
    (hdirectory : c ∉ directory.toList) (hname : c ∉ name.toList) (h : '/' ∉ name.toList) :
    c ∉ (join directory name).toList := by
  obtain ⟨slash, hslash, hjoin⟩ := exists_join directory h
  obtain rfl | rfl := hslash <;> simp [hjoin, hc, hdirectory, hname]

/-- The characters of a name are in every path that ends with it. -/
theorem mem_join (directory : String) {c : Char} (h : '/' ∉ name.toList) (hc : c ∈ name.toList) :
    c ∈ (join directory name).toList := by
  obtain ⟨slash, -, hjoin⟩ := exists_join directory h
  simp [hjoin, hc]

theorem getLast?_join (directory : String) (hne : name ≠ "") (h : '/' ∉ name.toList) :
    (join directory name).toList.getLast? ≠ some '/' := by
  obtain ⟨slash, -, hjoin⟩ := exists_join directory h
  have hname : name.toList ≠ [] := mt String.toList_eq_nil_iff.mp hne
  rw [hjoin, String.toList_append, List.getLast?_append,
    List.getLast?_eq_some_getLast hname, Option.some_or]
  exact fun hlast => h (Option.some.inj hlast ▸ List.getLast_mem hname)

/-- A number of slashes. -/
def slashes : Nat → String
  | 0 => ""
  | n + 1 => slashes n ++ "/"

theorem utf8ByteSize_slashes (n : Nat) : (slashes n).utf8ByteSize = n := by
  induction n with
  | zero => rfl
  | succ n ih => rw [slashes, String.utf8ByteSize_append, ih]; rfl

/-! ### Extensions -/

theorem splitExtension_of_no_dot (h : '.' ∉ name.toList) : splitExtension name = (name, none) := by
  simp [splitExtension, Text.split_eq_singleton h]

theorem splitExtension_of_dot {stem extension : String} (hstem : stem ≠ "")
    (h : '.' ∉ extension.toList) :
    splitExtension (stem ++ "." ++ extension) = (stem, some extension) := by
  have hsplit : Text.split (stem ++ "." ++ extension) '.' = Text.split stem '.' ++ [extension] :=
    Text.split_concat stem h
  have hjoin : Text.joinWith "." (Text.split stem '.') = stem := Text.joinWith_split stem '.'
  rw [splitExtension, hsplit, List.reverse_concat]
  cases hparts : (Text.split stem '.').reverse with
  | nil => exact absurd (List.reverse_eq_nil_iff.mp hparts) (Text.split_ne_nil stem '.')
  | cons before rest =>
    have hback : (before :: rest).reverse = Text.split stem '.' := by
      rw [← hparts, List.reverse_reverse]
    -- only an empty stem is one empty piece, and then the dot would start the name
    have hcondition : (rest.isEmpty && before.isEmpty) = false := by
      refine Bool.eq_false_iff.mpr fun hne => ?_
      obtain ⟨rfl, rfl⟩ : rest = [] ∧ before = "" := by simpa using hne
      rw [← hback] at hjoin
      exact hstem hjoin.symm
    simp only [hcondition, Bool.false_eq_true, if_false]
    rw [hback, hjoin]

theorem splitExtension_of_leading_dot {extension : String} (h : '.' ∉ extension.toList) :
    splitExtension ("." ++ extension) = ("." ++ extension, none) := by
  have hsplit : Text.split ("" ++ "." ++ extension) '.' = Text.split "" '.' ++ [extension] :=
    Text.split_concat "" h
  rw [String.empty_append] at hsplit
  rw [splitExtension, hsplit]
  rfl

/-- A name has an extension when it has a dot behind its first character: the extension is what
stands behind the last dot. -/
theorem splitExtension_eq_iff {stem extension : String} :
    splitExtension name = (stem, some extension) ↔
      name = stem ++ "." ++ extension ∧ '.' ∉ extension.toList ∧ stem ≠ "" := by
  constructor
  · intro h
    by_cases hdot : '.' ∈ name.toList
    · -- the extension is behind the last dot, unless the name starts with that dot
      obtain ⟨s, t, rfl, ht⟩ := Text.exists_last_piece hdot
      change splitExtension (s ++ "." ++ t) = _ at h
      by_cases hs : s = ""
      · rw [hs, String.empty_append, splitExtension_of_leading_dot ht] at h
        cases h
      · rw [splitExtension_of_dot hs ht] at h
        cases h
        exact ⟨rfl, ht, hs⟩
    · rw [splitExtension_of_no_dot hdot] at h
      cases h
  · rintro ⟨rfl, hextension, hstem⟩
    exact splitExtension_of_dot hstem hextension

end SchemaMigration.Path
