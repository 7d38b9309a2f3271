import SchemaMigration.Proofs.File.Growth

/-!
# Writing files

A path that does not lead to a directory ends with a name in one (`EndsIn`), and what is put there
is found there again (`find_set`).  So a file that has been written can be written again, as long
as there is room for whatever comes (`exists_write_again`).
-/

namespace SchemaMigration.FileTree

variable {tree tree' : FileTree} {path : String} {location : Location} {entry : FileEntry}
  {reached : Option FileEntry} {content : Content}

/-! ### Putting entries in places -/

theorem lookup_filter_of_ne {l : Location} (entries : List (Location × FileEntry))
    (h : l ≠ location) :
    (entries.filter fun e => e.1 != location).lookup l = entries.lookup l := by
  induction entries with
  | nil => rfl
  | cons e entries ih =>
    obtain ⟨k, v⟩ := e
    by_cases hk : k = location
    · -- what is left out is not looked for
      have hother : (l == k) = false := beq_eq_false_iff_ne.mpr (hk ▸ h)
      rw [List.filter_cons_of_neg (by simpa using hk), ih, List.lookup_cons, hother]
    · rw [List.filter_cons_of_pos (by simpa using hk), List.lookup_cons, List.lookup_cons, ih]

theorem entry?_set_self (hplace : location ≠ []) :
    entry? (tree.set location entry) location = some entry := by
  have hnone : (tree.entries.filter fun e => e.1 != location).lookup location = none :=
    List.lookup_eq_none_iff.mpr fun e he => by
      rw [bne_comm]
      exact (List.mem_filter.mp he).2
  unfold entry?
  rw [if_neg (by simpa using hplace), set, List.lookup_append, hnone, List.lookup_cons_self,
    Option.none_or]

theorem entry?_set_of_ne {l : Location} (h : l ≠ location) :
    entry? (tree.set location entry) l = tree.entry? l := by
  unfold entry?
  split
  · rfl
  · have hother : (l == location) = false := beq_eq_false_iff_ne.mpr h
    rw [set, List.lookup_append, lookup_filter_of_ne tree.entries h, List.lookup_cons, hother,
      List.lookup_nil, Option.or_none]

/-! ### Where paths end -/

/-- The path ends with a name in the directory at `directory`, and the place under that name is
`location`. -/
structure EndsIn (tree : FileTree) (path : String) (parts : List String) (name : String)
    (directory location : Location) : Prop where
  split_eq : Text.split path '/' = parts ++ [name]
  leads : parts.foldlM tree.follow
    ⟨if Path.isAbsolute path then [] else tree.working, some .directory⟩ =
      .ok ⟨directory, some .directory⟩
  follow_eq : ∀ tree' : FileTree, tree'.faults = tree.faults →
    tree'.follow ⟨directory, some .directory⟩ name = .ok ⟨location, tree'.entry? location⟩
  location_eq : location = directory ++ [name]

theorem EndsIn.ne_nil {parts : List String} {name : String} {directory : Location}
    (h : tree.EndsIn path parts name directory location) : location ≠ [] := by
  rw [h.location_eq]
  simp

/-- A step to anything but a directory takes a name. -/
theorem follow_eq_of_ne_directory {place : Place} {part : String}
    (h : tree.follow place part = .ok ⟨location, reached⟩) (hreached : reached ≠ some .directory) :
    location = place.location ++ [part] ∧ ∀ tree' : FileTree, tree'.faults = tree.faults →
      tree'.follow ⟨place.location, some .directory⟩ part =
        .ok ⟨location, tree'.entry? location⟩ := by
  obtain ⟨start, entry⟩ := place
  obtain rfl : entry = some .directory := entry_of_follow h
  simp only [FileTree.follow] at h ⊢
  -- only the last branch leads to a place that is no directory
  split at h
  · exact absurd (Place.mk.inj (Except.ok.inj h)).2.symm hreached
  · next hhere =>
    split at h
    · exact absurd (Place.mk.inj (Except.ok.inj h)).2.symm hreached
    · next hup =>
      split at h
      · cases h
      · next hlong =>
        split at h
        · cases h
        · next hreach =>
          obtain ⟨rfl, -⟩ := Place.mk.inj (Except.ok.inj h)
          refine ⟨rfl, fun tree' hfaults => ?_⟩
          rw [if_neg hhere, if_neg hup, if_neg hlong]
          simp only [hfaults, hreach]

theorem exists_endsIn (hfind : tree.find path = .ok ⟨location, reached⟩)
    (hreached : reached ≠ some .directory) :
    ∃ parts name directory, tree.EndsIn path parts name directory location := by
  obtain ⟨-, -, -, hfold⟩ := find_eq_ok_iff.mp hfind
  obtain hnil | ⟨parts, name, hsplit⟩ := List.eq_nil_or_concat' (Text.split path '/')
  · rw [hnil] at hfold
    exact absurd (Place.mk.inj (Except.ok.inj hfold)).2.symm hreached
  · rw [hsplit, foldlM_follow_concat] at hfold
    obtain ⟨⟨directory, entry⟩, hleads, hlast⟩ := Except.bind_eq_ok_iff.mp hfold
    obtain rfl : entry = some .directory := entry_of_follow hlast
    obtain ⟨hlocation, hfollow⟩ := follow_eq_of_ne_directory hlast hreached
    exact ⟨parts, name, directory, hsplit, hleads, hfollow, hlocation⟩

/-- A path that does not lead to a directory leads to what its place has. -/
theorem entry?_of_find (hfind : tree.find path = .ok ⟨location, reached⟩)
    (hreached : reached ≠ some .directory) : tree.entry? location = reached := by
  obtain ⟨parts, name, directory, hends⟩ := exists_endsIn hfind hreached
  obtain ⟨-, -, -, hfold⟩ := find_eq_ok_iff.mp hfind
  rw [hends.split_eq, foldlM_follow_concat, hends.leads, Except.ok_bind,
    hends.follow_eq tree rfl] at hfold
  exact (Place.mk.inj (Except.ok.inj hfold)).2

/-- What is put where a path ends is found there, if no directory has been there. -/
theorem find_set (hfind : tree.find path = .ok ⟨location, reached⟩)
    (hreached : reached ≠ some .directory) :
    (tree.set location entry).find path = .ok ⟨location, some entry⟩ := by
  obtain ⟨parts, name, directory, hends⟩ := exists_endsIn hfind hreached
  obtain ⟨hnull, hne, hshort, -⟩ := find_eq_ok_iff.mp hfind
  -- the directories on the way are where they were
  have hkept : ∀ l, tree.entry? l = some .directory →
      entry? (tree.set location entry) l = some .directory := by
    intro l hl
    have hother : l ≠ location := by
      rintro rfl
      exact hreached ((entry?_of_find hfind hreached).symm.trans hl)
    rw [entry?_set_of_ne hother, hl]
  refine find_eq_ok_iff.mpr ⟨hnull, hne, hshort, ?_⟩
  have hworking : (tree.set location entry).working = tree.working := rfl
  have hfaults : (tree.set location entry).faults = tree.faults := rfl
  rw [hworking, hends.split_eq, foldlM_follow_concat,
    foldlM_follow_of_entry? hfaults hkept hkept hends.leads, Except.ok_bind,
    hends.follow_eq _ hfaults, entry?_set_self hends.ne_nil]

/-! ### Writing -/

/-- A file is opened where its path leads, unless that is a directory or the system refuses it. -/
theorem openPlace_eq_ok_iff : tree.openPlace path = .ok location ↔
    withoutSlashes path = path ∧ ∃ reached, tree.find path = .ok ⟨location, reached⟩ ∧
      reached ≠ some .directory ∧ tree.faults.make location = none := by
  rw [openPlace, Except.bind_eq_ok_iff]
  -- a path that ends with a slash is never opened to be written
  by_cases hslashes : withoutSlashes path = path
  · simp only [hslashes, ite_self, ne_eq, not_true_eq_false, if_false, true_and]
    constructor
    · rintro ⟨⟨place, reached⟩, hfind, hopen⟩
      split at hopen
      · cases hopen
      · cases hopen
      · next hmake hreached =>
        obtain rfl := Except.ok.inj hopen
        exact ⟨reached, hfind, hreached, hmake⟩
    · rintro ⟨reached, hfind, hreached, hmake⟩
      refine ⟨_, hfind, ?_⟩
      split
      · next habs => exact absurd habs hreached
      · next habs _ =>
        rw [hmake] at habs
        cases habs
      · rfl
  · simp [hslashes]

/-- There is room for every content at every place. -/
def IsRoomy (tree : FileTree) : Prop := ∀ location, tree.faults.room location = none

theorem fill_eq (h : tree.IsRoomy) (location : Location) (content : Content) :
    tree.fill location content = (.ok (), tree.set location (.file content)) := by
  rw [fill, h location]

/-- Where there is room, a file is written if its place is opened. -/
theorem write_eq_ok_iff (h : tree.IsRoomy) : tree.write path content = (.ok (), tree') ↔
    ∃ location, tree.openPlace path = .ok location ∧
      tree' = tree.set location (.file content) := by
  rw [write]
  constructor
  · intro hwrite
    split at hwrite
    · cases hwrite
    · next location hopen =>
      rw [fill_eq h] at hwrite
      exact ⟨location, hopen, (Prod.mk.inj hwrite).2.symm⟩
  · rintro ⟨location, hopen, rfl⟩
    rw [hopen]
    exact fill_eq h location content

/-- A file that has been written can be written again. -/
theorem exists_write_again (hroom : tree.IsRoomy)
    (h : tree.write path content = (.ok (), tree')) (other : Content) :
    ∃ tree'', tree'.write path other = (.ok (), tree'') := by
  have hroom' : tree'.IsRoomy := by
    intro location
    have hfaults := faults_write tree path content
    rw [h] at hfaults
    rw [hfaults]
    exact hroom location
  obtain ⟨location, hopen, rfl⟩ := (write_eq_ok_iff hroom).mp h
  obtain ⟨hslashes, reached, hfind, hreached, hmake⟩ := openPlace_eq_ok_iff.mp hopen
  have hagain : openPlace (tree.set location (.file content)) path = .ok location :=
    openPlace_eq_ok_iff.mpr ⟨hslashes, _, find_set hfind hreached, by simp, hmake⟩
  exact ⟨_, (write_eq_ok_iff hroom').mpr ⟨location, hagain, rfl⟩⟩

end SchemaMigration.FileTree
