import SchemaMigration.File.Tree
import SchemaMigration.Proofs.File.Path
import SchemaMigration.Proofs.Result
import Mathlib.Data.List.Nodup

/-!
# Well-formed file trees

A tree is well-formed when no place in it is taken twice and all names are ones that files can have.
In a well-formed tree the entries of a directory are found under their paths (`find_join`), unless
these are too long (`isFile_of_long`) or the system does not let them be reached.  Every change
leaves a tree well-formed, also one that fails on the way (`WellFormed.write`,
`WellFormed.makeDirectory`, `WellFormed.remove`, `WellFormed.place`).
-/

namespace SchemaMigration

theorem lookup_eq_some_iff_mem {α β : Type} [BEq α] [LawfulBEq α] {entries : List (α × β)}
    (h : (entries.map Prod.fst).Nodup) {a : α} {b : β} :
    entries.lookup a = some b ↔ (a, b) ∈ entries := by
  induction entries with
  | nil => simp
  | cons e entries ih =>
    obtain ⟨k, v⟩ := e
    obtain ⟨hnew, hrest⟩ := List.nodup_cons.mp h
    rw [List.lookup_cons, List.mem_cons]
    by_cases hk : a = k
    · subst hk
      have hmem : (a, b) ∉ entries := fun hb => hnew (List.mem_map.mpr ⟨_, hb, rfl⟩)
      simp [hmem, eq_comm]
    · have hbeq : (a == k) = false := by simpa using hk
      simp [hbeq, hk, ih hrest]

namespace FileTree

/-- A name that fits into a file tree. -/
def IsEntryName (name : String) : Prop := Path.IsName name ∧ name.utf8ByteSize ≤ longestName

/-- No place is taken twice, and every name is one that a file or directory can have. -/
structure WellFormed (tree : FileTree) : Prop where
  distinct : (tree.entries.map Prod.fst).Nodup
  names : ∀ e ∈ tree.entries, ∀ name ∈ e.1, IsEntryName name
  working : ∀ name ∈ tree.working, IsEntryName name

variable {tree : FileTree} {directory path name : String} {location : Location}
  {entry : FileEntry}

/-! ### Following paths -/

/-- A path that leads somewhere is followed part by part. -/
theorem find_eq_ok_iff {place : Place} :
    tree.find path = .ok place ↔
      '\x00' ∉ path.toList ∧ path ≠ "" ∧ path.utf8ByteSize ≤ longestPath ∧
        (Text.split path '/').foldlM tree.follow
          ⟨if Path.isAbsolute path then [] else tree.working, some .directory⟩ = .ok place := by
  rw [find]
  by_cases hnull : '\x00' ∈ path.toList
  · simp [hnull]
  · by_cases hempty : path = ""
    · simp [hempty]
    · by_cases hlong : longestPath < path.utf8ByteSize
      · simp [hnull, hempty, hlong, Nat.not_le.mpr hlong]
      · simp [hnull, hempty, hlong, Nat.not_lt.mp hlong]

/-- A name in a directory leads to the place under that name, if that can be reached. -/
theorem follow_name (h : IsEntryName name)
    (hreach : tree.faults.reach (location ++ [name]) = none) :
    tree.follow ⟨location, some .directory⟩ name =
      .ok ⟨location ++ [name], tree.entry? (location ++ [name])⟩ := by
  obtain ⟨hname, hshort⟩ := h
  simp [follow, hname.ne_empty, hname.ne_here, hname.ne_up, Nat.not_lt.mpr hshort, hreach]

/-- A name leads nowhere if its place cannot be reached or if it is too long. -/
theorem follow_name_eq_ok_iff (hname : Path.IsName name) {place : Place} :
    tree.follow ⟨location, some .directory⟩ name = .ok place ↔
      name.utf8ByteSize ≤ longestName ∧ tree.faults.reach (location ++ [name]) = none ∧
        place = ⟨location ++ [name], tree.entry? (location ++ [name])⟩ := by
  constructor
  · intro h
    simp only [follow, hname.ne_empty, hname.ne_here, hname.ne_up, Bool.or_self,
      Bool.false_eq_true, if_false, beq_eq_false_iff_ne.mpr, ne_eq, not_false_eq_true] at h
    split at h
    · cases h
    · next hshort =>
      split at h
      · cases h
      · next hreach => exact ⟨Nat.not_lt.mp hshort, hreach, (Except.ok.inj h).symm⟩
  · rintro ⟨hshort, hreach, rfl⟩
    exact follow_name ⟨hname, hshort⟩ hreach

/-- An empty part stays in the directory that it stands in. -/
theorem eq_of_follow_empty {place place' : Place} (h : tree.follow place "" = .ok place') :
    place = place' := by
  obtain ⟨location, _ | _ | content⟩ := place
  · cases h
  · exact Except.ok.inj h
  · cases h

/-- The path of an entry of a directory leads where its name leads from the directory. -/
theorem find_join_eq_follow (hdirectory : tree.find directory = .ok ⟨location, some .directory⟩)
    (hname : Path.IsName name) (hshort : (Path.join directory name).utf8ByteSize ≤ longestPath) :
    tree.find (Path.join directory name) = tree.follow ⟨location, some .directory⟩ name := by
  obtain ⟨hnull, hne, -, hfold⟩ := find_eq_ok_iff.mp hdirectory
  have hslash := hname.no_slash
  have hnull' := Path.notMem_join (by decide) hnull hname.no_null hslash
  have hne' : Path.join directory name ≠ "" := by
    intro hempty
    have hfile := Path.fileName?_join directory hname
    rw [hempty] at hfile
    cases hfile
  -- the parts before the name lead to the directory: what its own path has besides them is an
  -- empty part at the end, which stays where it is
  obtain ⟨parts, hparts, hsplit⟩ := Path.split_join directory hslash
  have hstart : parts.foldlM tree.follow
      ⟨if Path.isAbsolute directory then [] else tree.working, some .directory⟩ =
        .ok ⟨location, some .directory⟩ := by
    obtain hsplit | hsplit := hsplit hne
    · exact hsplit ▸ hfold
    · rw [hsplit, List.foldlM_append] at hfold
      obtain ⟨place, hplace, hempty⟩ := Except.bind_eq_ok_iff.mp hfold
      rw [List.foldlM_cons] at hempty
      obtain ⟨place', hempty, hpure⟩ := Except.bind_eq_ok_iff.mp hempty
      rw [hplace, eq_of_follow_empty hempty, Except.ok.inj hpure]
  rw [find, if_neg (by simpa using hnull'), if_neg (by simpa using hne'),
    if_neg (Nat.not_lt.mpr hshort)]
  simp only [hparts, Path.isAbsolute_join hne hslash, List.foldlM_append, hstart, Except.ok_bind,
    List.foldlM_cons, List.foldlM_nil, bind_pure]

/-- The path of an entry of a directory leads to its place. -/
theorem find_join (hdirectory : tree.find directory = .ok ⟨location, some .directory⟩)
    (hname : IsEntryName name) (hshort : (Path.join directory name).utf8ByteSize ≤ longestPath)
    (hreach : tree.faults.reach (location ++ [name]) = none) :
    tree.find (Path.join directory name) =
      .ok ⟨location ++ [name], tree.entry? (location ++ [name])⟩ := by
  rw [find_join_eq_follow hdirectory hname.1 hshort, follow_name hname hreach]

/-- A path into a directory leads somewhere when neither it nor the name at its end is too long and
the place under the name can be reached. -/
theorem find_join_eq_ok_iff (hdirectory : tree.find directory = .ok ⟨location, some .directory⟩)
    (hname : Path.IsName name) {place : Place} :
    tree.find (Path.join directory name) = .ok place ↔
      IsEntryName name ∧ (Path.join directory name).utf8ByteSize ≤ longestPath ∧
        tree.faults.reach (location ++ [name]) = none ∧
        place = ⟨location ++ [name], tree.entry? (location ++ [name])⟩ := by
  constructor
  · intro hfind
    have hshort := (find_eq_ok_iff.mp hfind).2.2.1
    rw [find_join_eq_follow hdirectory hname hshort] at hfind
    obtain ⟨hfits, hreach, hplace⟩ := (follow_name_eq_ok_iff hname).mp hfind
    exact ⟨⟨hname, hfits⟩, hshort, hreach, hplace⟩
  · rintro ⟨hentry, hshort, hreach, rfl⟩
    exact find_join hdirectory hentry hshort hreach

/-! ### Looking up paths -/

theorem lookup_eq_ok_iff :
    tree.lookup path = .ok (location, entry) ↔ tree.find path = .ok ⟨location, some entry⟩ := by
  rw [lookup, Except.bind_eq_ok_iff]
  constructor
  · rintro ⟨⟨_, _ | _⟩, hfind, h⟩
    · cases h
    · cases h
      exact hfind
  · exact fun h => ⟨_, h, rfl⟩

theorem reading_eq_ok_iff {α : Type} {result : Except FileError α} {a : α} :
    tree.reading location result = .ok a ↔
      tree.faults.read location = none ∧ result = .ok a := by
  unfold reading
  cases tree.faults.read location <;> simp

theorem readText_eq_ok_iff {text : String} :
    tree.readText path = .ok text ↔
      ∃ location, tree.find path = .ok ⟨location, some (.file (.text text))⟩ ∧
        tree.faults.read location = none := by
  rw [readText, Except.bind_eq_ok_iff]
  constructor
  · rintro ⟨⟨location, entry⟩, hlookup, h⟩
    obtain ⟨hread, htext⟩ := reading_eq_ok_iff.mp h
    split at htext
    · cases htext
    · cases htext
    · cases htext
      exact ⟨location, lookup_eq_ok_iff.mp hlookup, hread⟩
  · rintro ⟨location, hfind, hread⟩
    exact ⟨_, lookup_eq_ok_iff.mpr hfind, reading_eq_ok_iff.mpr ⟨hread, rfl⟩⟩

theorem isFile_eq_true_iff :
    tree.isFile path = true ↔
      ∃ location content, tree.find path = .ok ⟨location, some (.file content)⟩ := by
  rw [isFile]
  constructor
  · intro h
    split at h
    · next location content hlookup => exact ⟨location, content, lookup_eq_ok_iff.mp hlookup⟩
    · cases h
  · rintro ⟨location, content, hfind⟩
    rw [lookup_eq_ok_iff.mpr hfind]

/-- A path leads to a directory if it is followed to one. -/
theorem isDirectory_eq_true_iff :
    tree.isDirectory path = true ↔
      ∃ location, tree.find path = .ok ⟨location, some .directory⟩ := by
  rw [isDirectory]
  constructor
  · intro h
    split at h
    · next location hlookup => exact ⟨location, lookup_eq_ok_iff.mp hlookup⟩
    · cases h
  · rintro ⟨location, hfind⟩
    rw [lookup_eq_ok_iff.mpr hfind]

/-- A path that is too long leads to no file. -/
theorem isFile_of_long (h : longestPath < path.utf8ByteSize) : tree.isFile path = false := by
  refine Bool.eq_false_iff.mpr fun hfile => ?_
  obtain ⟨location, content, hfind⟩ := isFile_eq_true_iff.mp hfile
  exact Nat.not_lt.mpr (find_eq_ok_iff.mp hfind).2.2.1 h

/-! ### The entries of a directory -/

theorem WellFormed.entry?_concat_eq_some_iff (h : tree.WellFormed) :
    tree.entry? (location ++ [name]) = some entry ↔ (location ++ [name], entry) ∈ tree.entries := by
  unfold FileTree.entry?
  rw [if_neg (by simp)]
  exact lookup_eq_some_iff_mem h.distinct

theorem WellFormed.isEntryName (h : tree.WellFormed)
    (hmem : (location ++ [name], entry) ∈ tree.entries) : IsEntryName name :=
  h.names _ hmem name (by simp)

theorem nameIn?_eq_some_iff {location' : Location} :
    nameIn? location location' = some name ↔ location' = location ++ [name] := by
  rw [nameIn?]
  constructor
  · intro h
    split at h
    · next hparent =>
      obtain ⟨before, rfl⟩ := List.getLast?_eq_some_iff.mp h
      rw [← hparent, List.dropLast_concat]
    · cases h
  · rintro rfl
    rw [if_pos List.dropLast_concat, List.getLast?_concat]

/-- A directory that is there is listed unless the system refuses it. -/
theorem names_eq (h : tree.lookup directory = .ok (location, .directory)) :
    tree.names directory =
      tree.reading location (.ok ((tree.entries.map Prod.fst).filterMap (nameIn? location))) := by
  rw [names, h, Except.ok_bind, List.filterMap_map]
  rfl

theorem names_eq_ok_iff {listed : List String} :
    tree.names directory = .ok listed ↔
      ∃ location, tree.find directory = .ok ⟨location, some .directory⟩ ∧
        tree.faults.read location = none ∧
        (tree.entries.map Prod.fst).filterMap (nameIn? location) = listed := by
  constructor
  · intro h
    obtain ⟨⟨location, _ | content⟩, hlookup, -⟩ := Except.bind_eq_ok_iff.mp h
    · rw [names_eq hlookup] at h
      obtain ⟨hread, hlisted⟩ := reading_eq_ok_iff.mp h
      exact ⟨location, lookup_eq_ok_iff.mp hlookup, hread, Except.ok.inj hlisted⟩
    · rw [names, hlookup] at h
      cases h
  · rintro ⟨location, hfind, hread, rfl⟩
    rw [names_eq (lookup_eq_ok_iff.mpr hfind)]
    exact reading_eq_ok_iff.mpr ⟨hread, rfl⟩

theorem mem_names_iff :
    name ∈ (tree.entries.map Prod.fst).filterMap (nameIn? location) ↔
      ∃ entry, (location ++ [name], entry) ∈ tree.entries := by
  simp only [List.mem_filterMap, nameIn?_eq_some_iff, exists_eq_right, List.mem_map]
  constructor
  · rintro ⟨⟨_, entry⟩, hmem, rfl⟩
    exact ⟨entry, hmem⟩
  · rintro ⟨entry, hmem⟩
    exact ⟨_, hmem, rfl⟩

theorem WellFormed.nodup_names (h : tree.WellFormed) :
    ((tree.entries.map Prod.fst).filterMap (nameIn? location)).Nodup := by
  refine h.distinct.filterMap fun a b name ha hb => ?_
  rw [nameIn?_eq_some_iff.mp ha, nameIn?_eq_some_iff.mp hb]

/-! ### The order of entries -/

theorem WellFormed.of_perm (h : tree.WellFormed) {entries : List (Location × FileEntry)}
    (hperm : tree.entries.Perm entries) : { tree with entries }.WellFormed where
  distinct := (hperm.map Prod.fst).nodup_iff.mp h.distinct
  names := fun e he => h.names e (hperm.mem_iff.mpr he)
  working := h.working

/-- Paths lead to the same places whatever the order of the entries. -/
theorem WellFormed.find_of_perm (h : tree.WellFormed) {entries : List (Location × FileEntry)}
    (hperm : tree.entries.Perm entries) (path : String) :
    { tree with entries }.find path = tree.find path := by
  have hlookup : ∀ location, entries.lookup location = tree.entries.lookup location := by
    intro location
    refine Option.ext fun entry => ?_
    rw [lookup_eq_some_iff_mem h.distinct, lookup_eq_some_iff_mem (h.of_perm hperm).distinct,
      hperm.mem_iff]
  have hfollow : FileTree.follow { tree with entries } = tree.follow := by
    funext place part
    simp only [follow, entry?, hlookup]
  rw [FileTree.find, FileTree.find, hfollow]

/-! ### Slashes -/

/-- A slash at the end of the path of a directory changes nothing. -/
theorem find_append_slash (h : tree.find path = .ok ⟨location, some .directory⟩)
    (hshort : (path ++ "/").utf8ByteSize ≤ longestPath) :
    tree.find (path ++ "/") = .ok ⟨location, some .directory⟩ := by
  obtain ⟨hnull, hne, -, hfold⟩ := find_eq_ok_iff.mp h
  have hsplit : Text.split (path ++ "/" ++ "") '/' = Text.split path '/' ++ [""] :=
    Text.split_concat path (by simp)
  have habsolute : Path.isAbsolute (path ++ "/") = Path.isAbsolute path := by
    cases hchars : path.toList with
    | nil => exact absurd (String.toList_eq_nil_iff.mp hchars) hne
    | cons c cs => simp [Path.isAbsolute, hchars]
  rw [String.append_empty] at hsplit
  refine find_eq_ok_iff.mpr ⟨by simp [hnull], by simp, hshort, ?_⟩
  rw [hsplit, habsolute, List.foldlM_append, hfold]
  rfl

theorem find_append_slashes (h : tree.find path = .ok ⟨location, some .directory⟩) (n : Nat)
    (hshort : (path ++ Path.slashes n).utf8ByteSize ≤ longestPath) :
    tree.find (path ++ Path.slashes n) = .ok ⟨location, some .directory⟩ := by
  induction n with
  | zero => rwa [Path.slashes, String.append_empty]
  | succ n ih =>
    rw [Path.slashes, ← String.append_assoc] at hshort ⊢
    have hshorter : (path ++ Path.slashes n).utf8ByteSize ≤ longestPath := by
      rw [String.utf8ByteSize_append] at hshort
      omega
    exact find_append_slash (ih hshorter) hshort

/-! ### Changes -/

/-- What is followed in a well-formed tree leads to a place whose names are fine. -/
theorem names_of_follow {parts : List String} {place place' : Place}
    (hparts : ∀ part ∈ parts, '/' ∉ part.toList ∧ '\x00' ∉ part.toList)
    (hplace : ∀ name ∈ place.location, IsEntryName name)
    (h : parts.foldlM tree.follow place = .ok place') :
    ∀ name ∈ place'.location, IsEntryName name := by
  induction parts generalizing place with
  | nil =>
    cases h
    exact hplace
  | cons part parts ih =>
    obtain ⟨next, hnext, hrest⟩ := Except.bind_eq_ok_iff.mp h
    obtain ⟨hpart, hparts⟩ := List.forall_mem_cons.mp hparts
    refine ih hparts ?_ hrest
    obtain ⟨location, _ | _ | content⟩ := place
    · cases hnext
    · -- in a directory a part stays, goes up or is a name to go to
      simp only [follow] at hnext
      split at hnext
      · cases hnext
        exact hplace
      · split at hnext
        · cases hnext
          exact fun name hname => hplace name ((List.dropLast_sublist _).mem hname)
        · split at hnext
          · cases hnext
          · split at hnext
            · cases hnext
            · cases hnext
              have hname : IsEntryName part := by
                refine ⟨⟨?_, ?_, ?_, hpart.1, hpart.2⟩, ?_⟩ <;> simp_all
              exact List.forall_mem_append.mpr ⟨hplace, by simpa using hname⟩
    · cases hnext

theorem WellFormed.names_of_find (h : tree.WellFormed) {place : Place}
    (hfind : tree.find path = .ok place) : ∀ name ∈ place.location, IsEntryName name := by
  obtain ⟨hnull, -, -, hfold⟩ := find_eq_ok_iff.mp hfind
  refine names_of_follow (fun part hpart => ?_) ?_ hfold
  · obtain ⟨hslash, hchars⟩ := Text.notMem_of_mem_split hpart
    exact ⟨hslash, fun hmem => hnull (hchars _ hmem)⟩
  · split
    · simp
    · exact h.working

theorem wellFormed_fresh : fresh.WellFormed := by
  have hwork : IsEntryName "work" := ⟨by constructor <;> decide, by decide⟩
  have hproject : IsEntryName "project" := ⟨by constructor <;> decide, by decide⟩
  constructor <;> simp [fresh, hwork, hproject]

theorem WellFormed.set (h : tree.WellFormed) (hlocation : ∀ name ∈ location, IsEntryName name)
    (entry : FileEntry) : (tree.set location entry).WellFormed where
  distinct := by
    rw [FileTree.set, List.map_append, List.map_singleton]
    refine List.nodup_append.mpr ⟨?_, List.nodup_singleton _, ?_⟩
    · exact h.distinct.sublist (List.filter_sublist.map _)
    · simp
  names := by
    refine List.forall_mem_append.mpr ⟨fun e he => ?_, by simpa using hlocation⟩
    exact h.names e (List.mem_of_mem_filter he)
  working := h.working

theorem exists_find_of_openPlace (h : tree.openPlace path = .ok location) :
    ∃ path' entry, tree.find path' = .ok ⟨location, entry⟩ := by
  obtain ⟨place, hfind, hplace⟩ := Except.bind_eq_ok_iff.mp h
  split at hplace
  · cases hplace
  · split at hplace
    · cases hplace
    · cases hplace
    · cases hplace
      exact ⟨_, _, hfind⟩

/-- Also the part of a file that there is room for can stand in a well-formed tree. -/
theorem WellFormed.fill (h : tree.WellFormed) (hlocation : ∀ name ∈ location, IsEntryName name)
    (content : Content) : (tree.fill location content).2.WellFormed := by
  unfold FileTree.fill
  split
  · exact h.set hlocation _
  · split
    · exact h.set hlocation _
    · exact h.set hlocation _

theorem WellFormed.write (h : tree.WellFormed) (path : String) (content : Content) :
    (tree.write path content).2.WellFormed := by
  unfold FileTree.write
  split
  · exact h
  · next hopen =>
    obtain ⟨_, _, hfind⟩ := exists_find_of_openPlace hopen
    exact h.fill (h.names_of_find hfind) content

theorem WellFormed.makeDirectory (h : tree.WellFormed) {tree' : FileTree}
    (hmake : tree.makeDirectory path = .ok tree') : tree'.WellFormed := by
  obtain ⟨place, hfind, hset⟩ := Except.bind_eq_ok_iff.mp hmake
  split at hset
  · cases hset
  · cases hset
  · cases hset
    exact h.set (h.names_of_find hfind) _

theorem WellFormed.remove (h : tree.WellFormed) {tree' : FileTree}
    (hremove : tree.remove path = .ok tree') : tree'.WellFormed := by
  obtain ⟨place, -, hfilter⟩ := Except.bind_eq_ok_iff.mp hremove
  cases hfilter
  exact ⟨h.distinct.sublist (List.filter_sublist.map _),
    fun e he => h.names e (List.mem_of_mem_filter he), h.working⟩

theorem WellFormed.makeDirectoriesFrom (h : tree.WellFormed) (fuel : Nat) (path : String) :
    (makeDirectoriesFrom fuel tree path).2.WellFormed := by
  induction fuel generalizing tree path with
  | zero => exact h
  | succ fuel ih =>
    rw [FileTree.makeDirectoriesFrom]
    split
    · exact h
    · split
      · next hmake => exact h.makeDirectory hmake
      · -- the outer directories are made first, and then this one again
        have houter := ih h ((Path.parent? path).getD "")
        split
        · next heq => exact heq ▸ houter
        · next heq =>
          rw [heq] at houter
          split
          · next hmake => exact houter.makeDirectory hmake
          · split <;> exact houter
      · split <;> exact h

/-- Files and directories are put into a well-formed tree without a harm to it. -/
theorem WellFormed.place (h : tree.WellFormed) (path : String) (entry : FileEntry) :
    (tree.place path entry).WellFormed := by
  cases entry with
  | directory => exact h.makeDirectoriesFrom _ _
  | file content =>
    have hdirectories := h.makeDirectoriesFrom (((Path.parent? path).getD "").length + 2)
      ((Path.parent? path).getD "")
    exact hdirectories.write path content

/-! ### What is refused -/

/-- Whatever comes of it, writing a file changes nothing of what the system refuses. -/
theorem faults_write (tree : FileTree) (path : String) (content : Content) :
    (tree.write path content).2.faults = tree.faults := by
  unfold write fill
  split
  · rfl
  · split
    · rfl
    · split <;> rfl

theorem faults_makeDirectory {tree' : FileTree} (h : tree.makeDirectory path = .ok tree') :
    tree'.faults = tree.faults := by
  obtain ⟨place, -, hset⟩ := Except.bind_eq_ok_iff.mp h
  split at hset
  · cases hset
  · cases hset
  · cases hset
    rfl

theorem faults_makeDirectoriesFrom (fuel : Nat) (tree : FileTree) (path : String) :
    (makeDirectoriesFrom fuel tree path).2.faults = tree.faults := by
  induction fuel generalizing tree path with
  | zero => rfl
  | succ fuel ih =>
    rw [makeDirectoriesFrom]
    split
    · rfl
    · split
      · next hmake => exact faults_makeDirectory hmake
      · -- the outer directories are made first, and then this one again
        have houter := ih tree ((Path.parent? path).getD "")
        split
        · next heq => exact heq ▸ houter
        · next heq =>
          rw [heq] at houter
          split
          · next hmake => exact (faults_makeDirectory hmake).trans houter
          · split <;> exact houter
      · split <;> rfl

theorem faults_makeDirectories (tree : FileTree) (path : String) :
    (tree.makeDirectories path).2.faults = tree.faults :=
  faults_makeDirectoriesFrom (path.length + 2) tree path

theorem faults_place (tree : FileTree) (path : String) (entry : FileEntry) :
    (tree.place path entry).faults = tree.faults := by
  cases entry with
  | directory => exact faults_makeDirectories tree path
  | file content =>
    rw [place, faults_write]
    exact faults_makeDirectories ..

end FileTree
end SchemaMigration
