import SchemaMigration.Descriptor.Scaffold
import SchemaMigration.Proofs.Descriptor.Directory
import SchemaMigration.Proofs.File.Growth
import SchemaMigration.Proofs.Timestamp

/-!
# New migrations in order

Making a migration adds one file to the tree or leaves it as it is (`makeFile_cases`,
`createFile_eq_ok_iff`).  A directory that holds just the files of some requests (`Holds`) holds one
more afterwards (`Holds.step`, `Holds.run`), and it is loaded as the migrations that were asked for
(`Holds.load`).  So the migrations that are made one after the other in an empty directory are
loaded in the order in which they were made, and none of them changes what was there
(`scaffolded_in_order`).
-/

namespace SchemaMigration.Descriptor

/-- What is said when a migration is made: its name and the moment. -/
structure Request where
  name : String
  time : Timestamp
  deriving DecidableEq, Repr

namespace Request

/-- The key of the migration that is made. -/
def key (r : Request) : MigrationKey where
  text := r.time.text ++ "_" ++ r.name
  text_ne_empty := by simp

/-- The name of the file that is made. -/
def fileName (r : Request) : String := r.key.text ++ ".json"

/-- The migration that is made in a directory: nothing is done, and nothing is said on how to
revert it. -/
def descriptor (directory : String) (r : Request) : Descriptor where
  key := r.key
  path := Path.join directory r.fileName
  up := []
  down := none

/-- The tree with the migration made. -/
def create (directory : String) (tree : FileTree) (r : Request) : Except ProjectError FileTree :=
  (createFile tree directory r.name r.time).map Prod.snd

end Request

/-- The tree with migrations made one after the other. -/
def createAll (directory : String) (tree : FileTree) (requests : List Request) :
    Except ProjectError FileTree :=
  requests.foldlM (Request.create directory) tree

variable {tree tree' : FileTree} {directory path : String} {location : Location}
  {r r' : Request} {requests made : List Request}

/-! ### The files that are made -/

namespace Request

theorem toList_key (h : r.time.IsStampable) :
    r.key.text.toList = Numeral.lastDigits 14 r.time.stamp ++ '_' :: r.name.toList := by
  rw [key, String.toList_append, String.toList_append, Timestamp.toList_text h, List.append_assoc]
  rfl

/-- **Order**: the migration that is made later comes later, whatever the names are. -/
theorem precedes (hr : r.time.IsStampable) (hr' : r'.time.IsStampable)
    (h : r.time.Before r'.time) (directory : String) :
    (r.descriptor directory).Precedes (r'.descriptor directory) :=
  MigrationKey.compare_eq_lt_of_digits (toList_key hr) (toList_key hr')
    (Timestamp.stamp_lt_of_before hr hr' h) (Timestamp.stamp_lt hr')

/-- The name of a file that is made starts with a digit. -/
theorem exists_digit (h : r.time.IsStampable) :
    ∃ c cs, r.fileName.toList = c :: cs ∧ Numeral.isDigit c = true := by
  obtain ⟨c, cs, hdigits⟩ := List.exists_cons_of_length_eq_add_one
    (Numeral.length_lastDigits 14 r.time.stamp)
  have hc : c ∈ Numeral.lastDigits 14 r.time.stamp := by simp [hdigits]
  refine ⟨c, cs ++ '_' :: r.name.toList ++ ".json".toList, ?_, Numeral.isDigit_of_mem_lastDigits hc⟩
  rw [fileName, String.toList_append, toList_key h, hdigits, List.cons_append, List.cons_append]

theorem isMigrationName (h : r.time.IsStampable) : IsMigrationName r.fileName r.key.text := by
  obtain ⟨c, cs, hchars, hc⟩ := exists_digit h
  refine ⟨?_, "json", by decide, ?_⟩
  · rw [hchars]
    rintro ⟨rfl⟩
    revert hc
    decide
  · rw [fileName, String.append_assoc]
    rfl

theorem fileName_ne (r : Request) {s : String} (hs : ".json".toList.isSuffixOf s.toList = false) :
    r.fileName ≠ s := by
  rintro rfl
  have hsuffix : ".json".toList <:+ r.fileName.toList := by
    rw [fileName, String.toList_append]
    exact List.suffix_append _ _
  rw [List.isSuffixOf_iff_suffix.mpr hsuffix] at hs
  cases hs

theorem no_slash (hvalid : isValidName r.name = true) : '/' ∉ r.fileName.toList := by
  have hname : '/' ∉ r.name.toList := by
    intro hmem
    simp only [isValidName, Bool.and_eq_true, Bool.not_eq_true', List.any_eq_false] at hvalid
    exact hvalid.2 '/' hmem rfl
  have htime : '/' ∉ r.time.text.toList :=
    fun hmem => absurd (Timestamp.isDigit_of_mem_text hmem) (by decide)
  simp [fileName, key, htime, hname]

/-- Unless it has a null character, the name of a file that is made can name an entry. -/
theorem isName (hvalid : isValidName r.name = true) (hnull : '\x00' ∉ r.fileName.toList) :
    Path.IsName r.fileName where
  ne_empty := fileName_ne r (by decide)
  ne_here := fileName_ne r (by decide)
  ne_up := fileName_ne r (by decide)
  no_slash := no_slash hvalid
  no_null := hnull

end Request

theorem ofText_emptyText (key : MigrationKey) (path : String) :
    ofText key path emptyText = .ok ⟨key, path, [], none⟩ := by
  have hread : ofText ⟨"0", by decide⟩ "" emptyText = .ok ⟨⟨"0", by decide⟩, "", [], none⟩ :=
    Except.eq_ok_of_toOption (by decide +kernel)
  exact ofText_of_ofText hread key path

theorem newFileName_eq (r : Request) : newFileName r.name r.time =
    if isValidName r.name then .ok r.fileName
    else .error (.badSetting (.badMigrationName r.name)) := rfl

/-- What making a migration in a directory needs: the directory is there, the name is valid, and
under the name of the file nothing is and a file may be made. -/
structure Request.HasPlace (tree : FileTree) (directory : String) (location : Location)
    (r : Request) : Prop where
  find : tree.find directory = .ok ⟨location, some .directory⟩
  valid : isValidName r.name = true
  entryName : FileTree.IsEntryName r.fileName
  short : (Path.join directory r.fileName).utf8ByteSize ≤ FileTree.longestPath
  reached : tree.faults.reach (location ++ [r.fileName]) = none
  made : tree.faults.make (location ++ [r.fileName]) = none
  vacant : tree.entry? (location ++ [r.fileName]) = none

/-- **How making a migration can change the tree**: not at all, or by one file, which stands there
in part when there is too little room for it. -/
theorem makeFile_cases (tree : FileTree) (directory : String) (r : Request) :
    let make := makeFile tree directory r.name r.time
    let content : Content := .text emptyText
    (∃ e, make = (.error e, tree)) ∨
      ∃ location, r.HasPlace tree directory location ∧
        let file := location ++ [r.fileName]
        ((∃ n cause, tree.faults.room file = some (n, cause) ∧ n < content.size ∧
          make = (.error (.file (Path.join directory r.fileName) cause),
            tree.add file (.file (content.take n)))) ∨
        tree.HasRoom file content ∧
          make = (.ok (Path.join directory r.fileName), tree.add file (.file content))) := by
  intro make content
  have hmake : make = makeFile tree directory r.name r.time := rfl
  rw [makeFile, newFileName_eq] at hmake
  by_cases hisDirectory : tree.isDirectory directory = true
  swap
  · exact .inl ⟨_, by rw [hmake, if_pos (by simpa using hisDirectory)]⟩
  obtain ⟨location, hdirectory⟩ := FileTree.isDirectory_eq_true_iff.mp hisDirectory
  rw [if_neg (by simpa using hisDirectory)] at hmake
  by_cases hvalid : isValidName r.name = true
  swap
  · exact .inl ⟨_, by rw [hmake, if_neg hvalid]⟩
  rw [if_pos hvalid] at hmake
  by_cases hexists : tree.pathExists (Path.join directory r.fileName) = true
  · exact .inl ⟨_, by simpa only [hexists, if_true] using hmake⟩
  have hvacant := Bool.eq_false_iff.mpr hexists
  simp only [hvacant, Bool.false_eq_true, if_false] at hmake
  have hslash := Request.no_slash hvalid
  by_cases hnull : '\x00' ∈ r.fileName.toList
  · -- a path with a null character leads nowhere, so nothing is written
    have hlast := Path.getLast?_join directory (Request.fileName_ne r (by decide)) hslash
    obtain ⟨e, hwrite⟩ : ∃ e, tree.write (Path.join directory r.fileName) content =
        (.error e, tree) :=
      FileTree.exists_write_eq_error hlast (Path.mem_join directory hslash hnull)
    exact .inl ⟨_, by rw [hmake, hwrite]⟩
  have hname := Request.isName hvalid hnull
  obtain ⟨e, hwrite⟩ | ⟨hentry, hshort, hreach, hopen, hnone, hwritten⟩ :=
    FileTree.write_join_cases hdirectory hname hvacant content
  · exact .inl ⟨_, by rw [hmake, hwrite]⟩
  · refine .inr ⟨location, ⟨hdirectory, hvalid, hentry, hshort, hreach, hopen, hnone⟩, ?_⟩
    obtain ⟨n, cause, hroom, hsize, hwrite⟩ | ⟨hroom, hwrite⟩ := hwritten
    · exact .inl ⟨n, cause, hroom, hsize, by rw [hmake, hwrite]⟩
    · exact .inr ⟨hroom, by rw [hmake, hwrite]⟩

theorem createFile_eq_ok_iff_makeFile {name : String} {now : Timestamp} :
    createFile tree directory name now = .ok (path, tree') ↔
      makeFile tree directory name now = (.ok path, tree') := by
  rw [createFile]
  rcases makeFile tree directory name now with ⟨e | made, after⟩ <;> simp

/-- **Making a migration** succeeds when it has a place and there is room for it.  It adds the file
and leaves everything else as it is. -/
theorem createFile_eq_ok_iff :
    createFile tree directory r.name r.time = .ok (path, tree') ↔
      ∃ location, r.HasPlace tree directory location ∧
        tree.HasRoom (location ++ [r.fileName]) (.text emptyText) ∧
        path = Path.join directory r.fileName ∧
        tree' = tree.add (location ++ [r.fileName]) (.file (.text emptyText)) := by
  rw [createFile_eq_ok_iff_makeFile]
  constructor
  · intro hmake
    -- success is the last of the three cases
    obtain ⟨e, herror⟩ | ⟨location, hplace, ⟨n, cause, -, -, herror⟩ | ⟨hroom, hok⟩⟩ :=
      makeFile_cases tree directory r
    · rw [hmake] at herror
      cases herror
    · rw [hmake] at herror
      cases herror
    · rw [hmake] at hok
      obtain ⟨hpath, htree⟩ := Prod.mk.inj hok
      exact ⟨location, hplace, hroom, Except.ok.inj hpath, htree⟩
  · rintro ⟨location, h, hroom, rfl, rfl⟩
    have hisDirectory := FileTree.isDirectory_eq_true_iff.mpr ⟨location, h.find⟩
    have hvacant := (FileTree.pathExists_eq_false_iff
      (FileTree.find_join h.find h.entryName h.short h.reached)).mpr h.vacant
    have hwrite := (FileTree.write_join_eq_ok_iff h.find h.entryName.1 hvacant).mpr
      ⟨h.entryName, h.short, h.reached, h.made, hroom, rfl⟩
    rw [makeFile, newFileName_eq, hisDirectory, if_pos h.valid]
    simp [hvacant, hwrite]

/-! ### One after the other -/

theorem create_eq_ok_iff : r.create directory tree = .ok tree' ↔
    ∃ path, createFile tree directory r.name r.time = .ok (path, tree') := by
  rw [Request.create, Except.map_eq_ok_iff]
  constructor
  · rintro ⟨⟨path, _⟩, h, rfl⟩
    exact ⟨path, h⟩
  · rintro ⟨path, h⟩
    exact ⟨_, h, rfl⟩

/-- The entries of a directory are the files that were made, in this order. -/
structure Holds (tree : FileTree) (directory : String) (location : Location)
    (made : List Request) : Prop where
  wellFormed : tree.WellFormed
  find : tree.find directory = .ok ⟨location, some .directory⟩
  names : (tree.entries.map Prod.fst).filterMap (FileTree.nameIn? location) =
    made.map Request.fileName
  files : ∀ r ∈ made, (location ++ [r.fileName], .file (.text emptyText)) ∈ tree.entries
  short : ∀ r ∈ made, (Path.join directory r.fileName).utf8ByteSize ≤ FileTree.longestPath
  reached : ∀ r ∈ made, tree.faults.reach (location ++ [r.fileName]) = none

/-- Making a migration adds its file to those of a directory. -/
theorem Holds.step (h : Holds tree directory location made)
    (hcreate : createFile tree directory r.name r.time = .ok (path, tree')) :
    Holds tree' directory location (made ++ [r]) := by
  obtain ⟨place, hplace, -, -, rfl⟩ := createFile_eq_ok_iff.mp hcreate
  cases h.find.symm.trans hplace.find
  have hextends := FileTree.extends_add tree (location ++ [r.fileName]) (.file (.text emptyText))
  have hnames := h.wellFormed.names_of_find h.find
  refine ⟨h.wellFormed.add hnames hplace.entryName hplace.vacant, hextends.find h.find,
    ?_, ?_, ?_, ?_⟩
  · simp [FileTree.add, h.names, FileTree.nameIn?_eq_some_iff]
  · refine List.forall_mem_append.mpr ⟨fun r' hr' => ?_, ?_⟩
    · exact List.mem_append_left _ (h.files r' hr')
    · simp [FileTree.add]
  · exact List.forall_mem_append.mpr ⟨h.short, by simpa using hplace.short⟩
  · exact List.forall_mem_append.mpr ⟨h.reached, List.forall_mem_singleton.mpr hplace.reached⟩

/-- Making migrations one after the other adds their files in this order. -/
theorem Holds.run (h : Holds tree directory location made)
    (hcreate : createAll directory tree requests = .ok tree') :
    Holds tree' directory location (made ++ requests) ∧ tree'.faults = tree.faults := by
  induction requests generalizing tree made with
  | nil =>
    cases hcreate
    rw [List.append_nil]
    exact ⟨h, rfl⟩
  | cons r requests ih =>
    rw [createAll, List.foldlM_cons] at hcreate
    obtain ⟨next, hnext, hrest⟩ := Except.bind_eq_ok_iff.mp hcreate
    obtain ⟨path, hfile⟩ := create_eq_ok_iff.mp hnext
    obtain ⟨hholds, hfaults⟩ := ih (h.step hfile) hrest
    obtain ⟨_, -, -, -, rfl⟩ := createFile_eq_ok_iff.mp hfile
    rw [List.append_assoc] at hholds
    exact ⟨hholds, hfaults⟩

section Load
variable (h : Holds tree directory location made) (htimes : ∀ r ∈ made, r.time.IsStampable)
  (hread : ∀ r ∈ made, tree.faults.read (location ++ [r.fileName]) = none)

include h

theorem Holds.exists_request {name stem : String} {content : Content}
    (hfile : HasMigrationFile tree location name stem content) :
    ∃ r ∈ made, r.fileName = name := by
  have hname := FileTree.mem_names_iff.mpr ⟨_, hfile.1⟩
  rw [h.names] at hname
  exact List.mem_map.mp hname

theorem Holds.filesSeen : FilesSeen tree directory location := by
  refine (filesSeen_iff h.wellFormed h.find).mpr fun name stem content hfile => ?_
  obtain ⟨r, hr, rfl⟩ := h.exists_request hfile
  exact ⟨h.short r hr, h.reached r hr⟩

include htimes hread

theorem Holds.isMigrationIn {r : Request} (hr : r ∈ made) :
    IsMigrationIn tree directory location r.fileName (r.descriptor directory) := by
  refine ⟨emptyText, ⟨h.files r hr, ?_⟩, hread r hr, ?_, ?_⟩
  · exact Request.isMigrationName (htimes r hr)
  · rw [Request.descriptor]
  · rw [ofText_emptyText, Request.descriptor]

theorem Holds.fileNames_eq : fileNames tree directory location = made.map Request.fileName := by
  rw [fileNames, h.names, List.filter_eq_self]
  intro name hname
  obtain ⟨r, hr, rfl⟩ := List.mem_map.mp hname
  have hfile := (h.isMigrationIn htimes hread hr).hasMigrationFile
  exact (isFile_join_iff h.wellFormed h.find ⟨_, h.files r hr⟩ (h.filesSeen _)).mpr
    ⟨_, _, hfile.choose_spec⟩

/-- The files that were made at later and later moments are loaded as the migrations that were asked
for, in this order. -/
theorem Holds.load (hlisted : tree.faults.read location = none)
    (hascending : made.Pairwise fun a b => a.time.Before b.time) :
    (load tree directory).1 = .ok (made.map (Request.descriptor directory)) := by
  refine (load_eq_ok_iff h.wellFormed h.find h.filesSeen hlisted).mpr
    ⟨_, ?_, sort_eq_ok_iff.mpr ⟨.refl _, ?_⟩⟩
  · rw [h.fileNames_eq htimes hread, List.forall₂_map_left_iff, List.forall₂_map_right_iff,
      List.forall₂_same]
    exact fun r hr => h.isMigrationIn htimes hread hr
  · rw [List.pairwise_map]
    exact hascending.imp_of_mem fun ha hb hab =>
      Request.precedes (htimes _ ha) (htimes _ hb) hab directory

end Load

/-- **New migrations keep the order in which they are made.**  When migrations are made one after
the other, at moments of the years from 0 to 9999 that come later and later, in a directory that was
empty, then the directory is loaded, as long as the system lets the new files be read, and what is
loaded are these migrations in this order.  Their keys are the fourteen digits of the moment, an
underscore and the name.  Making a migration leaves everything that a path leads to as it is. -/
theorem scaffolded_in_order (hwf : tree.WellFormed) (hempty : tree.names directory = .ok [])
    (htimes : ∀ r ∈ requests, r.time.IsStampable)
    (hascending : requests.Pairwise fun a b => a.time.Before b.time)
    (hcreate : createAll directory tree requests = .ok tree') :
    ((∀ location, tree.lookup directory = .ok (location, .directory) → ∀ r ∈ requests,
        tree.faults.read (location ++ [r.fileName]) = none) →
      (load tree' directory).1 = .ok (requests.map (Request.descriptor directory))) ∧
    (∀ r ∈ requests, r.time.text.length = 14 ∧
      ∀ c ∈ r.time.text.toList, Numeral.isDigit c = true) ∧
    ∀ before r after, requests = before ++ r :: after →
      ∃ earlier later, createAll directory tree before = .ok earlier ∧
        createFile earlier directory r.name r.time =
          .ok ((r.descriptor directory).path, later) ∧
        createAll directory later after = .ok tree' ∧
        ∀ path found, earlier.lookup path = .ok found → later.lookup path = .ok found := by
  obtain ⟨location, hfind, hlisted, hnames⟩ := FileTree.names_eq_ok_iff.mp hempty
  have hstart : Holds tree directory location [] :=
    ⟨hwf, hfind, hnames, by simp, by simp, by simp⟩
  refine ⟨fun hread => ?_, fun r hr => ⟨Timestamp.length_text (htimes r hr), ?_⟩, ?_⟩
  · -- what the system refuses has stayed the same, and it refuses none of the files
    obtain ⟨hholds, hfaults⟩ := hstart.run hcreate
    have hfiles := hread location (FileTree.lookup_eq_ok_iff.mpr hfind)
    rw [← hfaults] at hlisted hfiles
    exact hholds.load htimes hfiles hlisted hascending
  · intro c hc
    rw [Timestamp.toList_text (htimes r hr)] at hc
    exact Numeral.isDigit_of_mem_lastDigits hc
  · rintro before r after rfl
    rw [createAll, List.foldlM_append] at hcreate
    obtain ⟨earlier, hbefore, hrest⟩ := Except.bind_eq_ok_iff.mp hcreate
    rw [List.foldlM_cons] at hrest
    obtain ⟨later, hcreated, hafter⟩ := Except.bind_eq_ok_iff.mp hrest
    obtain ⟨path, hfile⟩ := create_eq_ok_iff.mp hcreated
    -- what was made is one more entry, so what a path leads to is still there
    obtain ⟨_, -, -, hpath, hlater⟩ := createFile_eq_ok_iff.mp hfile
    refine ⟨earlier, later, hbefore, ?_, hafter, fun path found hfound => ?_⟩
    · rw [hfile, hpath, Request.descriptor]
    · rw [hlater]
      exact (FileTree.extends_add _ _ _).lookup hfound

/-- The case of the last second of a year and the first one of the next, where the names are in the
other order. -/
theorem scaffolded_in_order_of_new_year :
    let tree := FileTree.fresh.place "m" .directory
    let first : Request := ⟨"z.x", ⟨1999, 12, 31, 23, 59, 59⟩⟩
    let second : Request := ⟨"a", ⟨2000, 1, 1, 0, 0, 0⟩⟩
    tree.WellFormed ∧ tree.names "m" = .ok [] ∧
      (∀ r ∈ [first, second], r.time.IsStampable) ∧
      [first, second].Pairwise (fun a b => a.time.Before b.time) ∧
      ∃ tree', createAll "m" tree [first, second] = .ok tree' ∧
        (load tree' "m").1 = .ok
          [⟨⟨"19991231235959_z.x", by decide⟩, "m/19991231235959_z.x.json", [], none⟩,
            ⟨⟨"20000101000000_a", by decide⟩, "m/20000101000000_a.json", [], none⟩] := by
  intro tree first second
  have hwf : tree.WellFormed := FileTree.wellFormed_fresh.place _ _
  have hempty : tree.names "m" = .ok [] := Except.eq_ok_of_toOption (by decide +kernel)
  have htimes : ∀ r ∈ [first, second], r.time.IsStampable := by
    have hfirst : first.time.IsStampable := ⟨Timestamp.isMoment_of_isValid rfl, by decide⟩
    have hsecond : second.time.IsStampable := ⟨Timestamp.isMoment_of_isValid rfl, by decide⟩
    simp [hfirst, hsecond]
  have hascending : [first, second].Pairwise (fun a b => a.time.Before b.time) := by decide
  obtain ⟨tree', hcreate⟩ : ∃ tree', createAll "m" tree [first, second] = .ok tree' :=
    Except.exists_eq_ok_of_isOk (by decide +kernel)
  have hloaded : [first, second].map (Request.descriptor "m") =
      [⟨⟨"19991231235959_z.x", by decide⟩, "m/19991231235959_z.x.json", [], none⟩,
        ⟨⟨"20000101000000_a", by decide⟩, "m/20000101000000_a.json", [], none⟩] := by
    decide +kernel
  refine ⟨hwf, hempty, htimes, hascending, tree', hcreate, ?_⟩
  have hfaults : tree.faults = {} := FileTree.faults_place ..
  rw [← hloaded]
  exact (scaffolded_in_order hwf hempty htimes hascending hcreate).1
    fun _ _ _ _ => by rw [hfaults]

end SchemaMigration.Descriptor
