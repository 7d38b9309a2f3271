import SchemaMigration.Proofs.File.Tree
import Mathlib.Data.List.Induction

/-!
# Growing file trees

A tree grows when entries come behind those it has (`Extends`): what a path leads to is then still
there (`Extends.lookup`).  A file that is written where nothing was makes the tree grow by that one
entry (`write_join_eq_ok_iff`), and so does one that there is too little room for, only that it
stands there in part (`write_join_cases`).
-/

namespace SchemaMigration

namespace FileTree

variable {tree tree' : FileTree} {directory path name : String} {location : Location}
  {entry : FileEntry} {content : Content}

/-! ### What stays -/

/-- The second tree has the entries of the first one, and behind them further ones. -/
structure Extends (tree tree' : FileTree) : Prop where
  entries : tree.entries <+: tree'.entries
  working : tree'.working = tree.working
  faults : tree'.faults = tree.faults

theorem Extends.entry? (h : tree.Extends tree') (hentry : tree.entry? location = some entry) :
    tree'.entry? location = some entry := by
  obtain ⟨further, hfurther⟩ := h.entries
  unfold FileTree.entry? at hentry ⊢
  split
  · next hroot => rwa [if_pos hroot] at hentry
  · next hroot =>
    rw [if_neg hroot] at hentry
    rw [← hfurther, List.lookup_append, hentry]
    rfl

/-- Where nothing is, nothing has been. -/
theorem Extends.entry?_eq_none (h : tree.Extends tree') (hnone : tree'.entry? location = none) :
    tree.entry? location = none := by
  cases hentry : tree.entry? location with
  | none => rfl
  | some entry =>
    have hstill := h.entry? hentry
    rw [hnone] at hstill
    cases hstill

/-- A step that leads to an entry leads to it in every tree that has the entry in the same place. -/
theorem follow_of_entry? (hfaults : tree'.faults = tree.faults)
    (h : ∀ location, tree.entry? location = some entry → tree'.entry? location = some entry)
    {place : Place} {part : String}
    (hfollow : tree.follow place part = .ok ⟨location, some entry⟩) :
    tree'.follow place part = .ok ⟨location, some entry⟩ := by
  obtain ⟨start, _ | _ | content⟩ := place
  · cases hfollow
  · -- only a name looks at the entries
    simp only [FileTree.follow] at hfollow ⊢
    split
    · next hhere => rwa [if_pos hhere] at hfollow
    · next hhere =>
      rw [if_neg hhere] at hfollow
      split
      · next hup => rwa [if_pos hup] at hfollow
      · next hup =>
        rw [if_neg hup] at hfollow
        split
        · next hlong =>
          rw [if_pos hlong] at hfollow
          cases hfollow
        · next hlong =>
          rw [if_neg hlong] at hfollow
          rw [hfaults]
          split at hfollow
          · cases hfollow
          · next hreach =>
            obtain ⟨rfl, hentry⟩ := Place.mk.inj (Except.ok.inj hfollow)
            rw [h _ hentry]
  · cases hfollow

/-- Only from a directory does a step lead anywhere. -/
theorem entry_of_follow {place place' : Place} {part : String}
    (h : tree.follow place part = .ok place') : place.entry = some .directory := by
  obtain ⟨start, _ | _ | content⟩ := place
  · cases h
  · rfl
  · cases h

theorem foldlM_follow_concat (tree : FileTree) (parts : List String) (part : String)
    (place : Place) : (parts ++ [part]).foldlM tree.follow place =
      parts.foldlM tree.follow place >>= fun place => tree.follow place part := by
  simp only [List.foldlM_append, List.foldlM_cons, List.foldlM_nil, bind_pure]

/-- Parts of a path that lead to an entry lead to it in every tree that has the entry in the same
place, if it has the directories on the way. -/
theorem foldlM_follow_of_entry? (hfaults : tree'.faults = tree.faults)
    (hdirectory : ∀ location, tree.entry? location = some .directory →
      tree'.entry? location = some .directory)
    (hentry : ∀ location, tree.entry? location = some entry → tree'.entry? location = some entry)
    {parts : List String} {place : Place}
    (hfold : parts.foldlM tree.follow place = .ok ⟨location, some entry⟩) :
    parts.foldlM tree'.follow place = .ok ⟨location, some entry⟩ := by
  -- all parts but the last lead to directories
  induction parts using List.reverseRecOn generalizing location entry with
  | nil => exact hfold
  | append_singleton parts part ih =>
    rw [foldlM_follow_concat] at hfold ⊢
    obtain ⟨⟨before, reached⟩, hbefore, hlast⟩ := Except.bind_eq_ok_iff.mp hfold
    obtain rfl : reached = some .directory := entry_of_follow hlast
    rw [ih hdirectory hbefore, Except.ok_bind]
    exact follow_of_entry? hfaults hentry hlast

/-- What a path leads to is still there when the tree has grown. -/
theorem Extends.find (h : tree.Extends tree')
    (hfind : tree.find path = .ok ⟨location, some entry⟩) :
    tree'.find path = .ok ⟨location, some entry⟩ := by
  obtain ⟨hnull, hne, hshort, hfold⟩ := find_eq_ok_iff.mp hfind
  refine find_eq_ok_iff.mpr ⟨hnull, hne, hshort, ?_⟩
  rw [h.working]
  exact foldlM_follow_of_entry? h.faults (fun _ => h.entry?) (fun _ => h.entry?) hfold

theorem Extends.lookup (h : tree.Extends tree')
    (hlookup : tree.lookup path = .ok (location, entry)) :
    tree'.lookup path = .ok (location, entry) :=
  lookup_eq_ok_iff.mpr (h.find (lookup_eq_ok_iff.mp hlookup))

/-! ### New files -/

theorem pathExists_eq_false_iff {place : Place} (hfind : tree.find path = .ok place) :
    tree.pathExists path = false ↔ place.entry = none := by
  obtain ⟨location, _ | entry⟩ := place
  · simp [pathExists, FileTree.lookup, hfind, Except.isOk, Except.toBool]
  · simp [pathExists, FileTree.lookup, hfind, Except.isOk, Except.toBool]

theorem withoutSlashes_eq (h : path.toList.getLast? ≠ some '/') : withoutSlashes path = path := by
  unfold withoutSlashes
  cases hchars : path.toList.reverse with
  | nil =>
    rw [List.reverse_eq_nil_iff, String.toList_eq_nil_iff] at hchars
    rw [hchars]
    rfl
  | cons c cs =>
    have hc : c ≠ '/' := by
      rintro rfl
      refine h ?_
      rw [List.getLast?_eq_head?_reverse, hchars]
      rfl
    rw [List.dropWhile_cons_of_neg (by simpa using hc), ← hchars, List.reverse_reverse,
      String.ofList_toList]

/-- A path with a null character leads nowhere, so nothing is written at it. -/
theorem exists_write_eq_error (hlast : path.toList.getLast? ≠ some '/')
    (hnull : '\x00' ∈ path.toList) : ∃ e, tree.write path content = (.error e, tree) := by
  rw [FileTree.write]
  cases hopen : tree.openPlace path with
  | error e => exact ⟨e, rfl⟩
  | ok location =>
    obtain ⟨place, hfind, -⟩ := Except.bind_eq_ok_iff.mp hopen
    rw [withoutSlashes_eq hlast, ite_self] at hfind
    exact absurd hnull (find_eq_ok_iff.mp hfind).1

/-- The tree with a further entry. -/
def add (tree : FileTree) (location : Location) (entry : FileEntry) : FileTree :=
  { tree with entries := tree.entries ++ [(location, entry)] }

theorem extends_add (tree : FileTree) (location : Location) (entry : FileEntry) :
    tree.Extends (tree.add location entry) :=
  ⟨List.prefix_append _ _, rfl, rfl⟩

theorem set_eq_add (h : tree.entry? (location ++ [name]) = none) :
    tree.set (location ++ [name]) entry = tree.add (location ++ [name]) entry := by
  have hnew : ∀ e ∈ tree.entries, (e.1 != location ++ [name]) = true := by
    unfold FileTree.entry? at h
    rw [if_neg (by simp), List.lookup_eq_none_iff] at h
    intro e he
    rw [bne_comm]
    exact h e he
  rw [FileTree.set, List.filter_eq_self.mpr hnew]
  rfl

theorem WellFormed.add (h : tree.WellFormed) (hlocation : ∀ name ∈ location, IsEntryName name)
    (hname : IsEntryName name) (hnew : tree.entry? (location ++ [name]) = none) :
    (tree.add (location ++ [name]) entry).WellFormed := by
  rw [← set_eq_add hnew]
  exact h.set (List.forall_mem_append.mpr ⟨hlocation, by simpa using hname⟩) entry

/-- A file is opened under a name in a directory, where nothing is, when the name and the path are
not too long and the system lets a file be made there. -/
theorem openPlace_join_eq_ok_iff
    (hdirectory : tree.find directory = .ok ⟨location, some .directory⟩)
    (hname : Path.IsName name) (hvacant : tree.pathExists (Path.join directory name) = false)
    {place : Location} :
    tree.openPlace (Path.join directory name) = .ok place ↔
      IsEntryName name ∧ (Path.join directory name).utf8ByteSize ≤ longestPath ∧
        tree.faults.reach (location ++ [name]) = none ∧
        tree.faults.make (location ++ [name]) = none ∧ place = location ++ [name] := by
  have hstripped := withoutSlashes_eq (Path.getLast?_join directory hname.ne_empty hname.no_slash)
  simp only [FileTree.openPlace, hstripped, ite_self, ne_eq, not_true_eq_false, if_false,
    Except.bind_eq_ok_iff, find_join_eq_ok_iff hdirectory hname]
  constructor
  · rintro ⟨_, ⟨hentry, hshort, hreach, rfl⟩, hopen⟩
    split at hopen
    · cases hopen
    · cases hopen
    · next hmake _ =>
      exact ⟨hentry, hshort, hreach, hmake, (Except.ok.inj hopen).symm⟩
  · rintro ⟨hentry, hshort, hreach, hmake, rfl⟩
    -- nothing stands at the place, so it is no directory that would be opened
    have hnone := (pathExists_eq_false_iff (find_join hdirectory hentry hshort hreach)).mp hvacant
    simp only at hnone
    refine ⟨_, ⟨hentry, hshort, hreach, rfl⟩, ?_⟩
    simp only [hnone, hmake]

/-- There is room for a content at a location. -/
def HasRoom (tree : FileTree) (location : Location) (content : Content) : Prop :=
  ∀ n e, tree.faults.room location = some (n, e) → content.size ≤ n

/-- A file is filled as a whole if there is room, and else as far as there is. -/
theorem fill_cases (tree : FileTree) (location : Location) (content : Content) :
    (tree.HasRoom location content ∧
      tree.fill location content = (.ok (), tree.set location (.file content))) ∨
    ∃ n e, tree.faults.room location = some (n, e) ∧ n < content.size ∧
      tree.fill location content = (.error e, tree.set location (.file (content.take n))) := by
  unfold HasRoom FileTree.fill
  cases hroom : tree.faults.room location with
  | none => exact .inl ⟨nofun, rfl⟩
  | some room =>
    obtain ⟨n, e⟩ := room
    by_cases hfits : content.size ≤ n
    · refine .inl ⟨?_, by simp [hfits]⟩
      rintro _ _ ⟨rfl⟩
      exact hfits
    · exact .inr ⟨n, e, rfl, Nat.not_le.mp hfits, by simp [hfits]⟩

/-- Writing a file where nothing is adds this one entry to the tree, with the content or with the
part of it that there is room for, or changes nothing. -/
theorem write_join_cases (hdirectory : tree.find directory = .ok ⟨location, some .directory⟩)
    (hname : Path.IsName name) (hvacant : tree.pathExists (Path.join directory name) = false)
    (content : Content) :
    let file := location ++ [name]
    let write := tree.write (Path.join directory name) content
    (∃ e, write = (.error e, tree)) ∨
      IsEntryName name ∧ (Path.join directory name).utf8ByteSize ≤ longestPath ∧
        tree.faults.reach file = none ∧ tree.faults.make file = none ∧
        tree.entry? file = none ∧
        ((∃ n e, tree.faults.room file = some (n, e) ∧ n < content.size ∧
          write = (.error e, tree.add file (.file (content.take n)))) ∨
        tree.HasRoom file content ∧ write = (.ok (), tree.add file (.file content))) := by
  intro file write
  have hwrite : write = tree.write (Path.join directory name) content := rfl
  rw [FileTree.write] at hwrite
  -- the tree changes only when the file has been opened
  cases hopen : tree.openPlace (Path.join directory name) with
  | error e =>
    rw [hopen] at hwrite
    exact .inl ⟨e, hwrite⟩
  | ok place =>
    obtain ⟨hentry, hshort, hreach, hmake, rfl⟩ :=
      (openPlace_join_eq_ok_iff hdirectory hname hvacant).mp hopen
    have hnone := (pathExists_eq_false_iff (find_join hdirectory hentry hshort hreach)).mp hvacant
    refine .inr ⟨hentry, hshort, hreach, hmake, hnone, ?_⟩
    rw [hopen] at hwrite
    obtain ⟨hroom, hfill⟩ | ⟨n, e, hroom, hshorter, hfill⟩ := fill_cases tree file content
    · exact .inr ⟨hroom, by rw [hwrite, ← set_eq_add hnone]; exact hfill⟩
    · exact .inl ⟨n, e, hroom, hshorter, by rw [hwrite, ← set_eq_add hnone]; exact hfill⟩

/-- A file is written as a whole where nothing is when its name and its path are not too long, the
system lets it be made and there is room for it. -/
theorem write_join_eq_ok_iff (hdirectory : tree.find directory = .ok ⟨location, some .directory⟩)
    (hname : Path.IsName name) (hvacant : tree.pathExists (Path.join directory name) = false) :
    tree.write (Path.join directory name) content = (.ok (), tree') ↔
      IsEntryName name ∧ (Path.join directory name).utf8ByteSize ≤ longestPath ∧
        tree.faults.reach (location ++ [name]) = none ∧
        tree.faults.make (location ++ [name]) = none ∧
        tree.HasRoom (location ++ [name]) content ∧
        tree' = tree.add (location ++ [name]) (.file content) := by
  constructor
  · intro hwrite
    obtain ⟨e, herror⟩ | ⟨hentry, hshort, hreach, hmake, -, hfilled⟩ :=
      write_join_cases hdirectory hname hvacant content
    · rw [hwrite] at herror
      cases herror
    · obtain ⟨n, e, -, -, herror⟩ | ⟨hroom, hok⟩ := hfilled
      · rw [hwrite] at herror
        cases herror
      · rw [hwrite] at hok
        exact ⟨hentry, hshort, hreach, hmake, hroom, (Prod.mk.inj hok).2⟩
  · rintro ⟨hentry, hshort, hreach, hmake, hroom, rfl⟩
    have hopen := (openPlace_join_eq_ok_iff hdirectory hname hvacant).mpr
      ⟨hentry, hshort, hreach, hmake, rfl⟩
    have hnone := (pathExists_eq_false_iff (find_join hdirectory hentry hshort hreach)).mp hvacant
    rw [FileTree.write, hopen, ← set_eq_add hnone]
    obtain ⟨-, hfill⟩ | ⟨n, e, hfull, hshorter, -⟩ := fill_cases tree (location ++ [name]) content
    · exact hfill
    · exact absurd (hroom n e hfull) (Nat.not_le.mpr hshorter)

end FileTree
end SchemaMigration
