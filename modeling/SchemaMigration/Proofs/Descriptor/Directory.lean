import SchemaMigration.Descriptor.Directory
import SchemaMigration.Migrator
import SchemaMigration.Proofs.Database.Transcript
import SchemaMigration.Proofs.Descriptor.Order
import SchemaMigration.Proofs.File.Tree

/-!
# Loading a migrations directory

A migration file is a file of the directory that is not hidden and has one of the known extensions
(`HasMigrationFile`).  As long as their paths lead to them, all of them are loaded, in ascending
order and each once, or none is (`load_all_or_nothing`); the order in which the directory lists its
entries and what else is in it do not matter.  A file that its path does not lead to, because the
path is too long or the system refuses to look there, is passed over (`notMem_of_unseen`,
`load_passes_over_long_path`).
-/

namespace SchemaMigration.Descriptor

variable {tree : FileTree} {directory name stem path : String} {location : Location}
  {content : Content} {d : Descriptor}

/-! ### Names of migration files -/

/-- The name of a migration file is a stem with a known extension and does not start with a dot. -/
def IsMigrationName (name stem : String) : Prop :=
  name.toList.head? ≠ some '.' ∧ ∃ extension ∈ extensions, name = stem ++ "." ++ extension

theorem splitExtension_of_isMigrationName (h : IsMigrationName name stem) :
    ∃ extension ∈ extensions, Path.splitExtension name = (stem, some extension) := by
  obtain ⟨hhead, extension, hknown, rfl⟩ := h
  refine ⟨extension, hknown, Path.splitExtension_eq_iff.mpr ⟨rfl, ?_, ?_⟩⟩
  · have hall : ∀ extension ∈ extensions, '.' ∉ extension.toList := by decide
    exact hall extension hknown
  · rintro rfl
    exact hhead (by simp)

theorem ne_empty_of_isMigrationName (h : IsMigrationName name stem) : stem ≠ "" := by
  obtain ⟨extension, -, hsplit⟩ := splitExtension_of_isMigrationName h
  exact (Path.splitExtension_eq_iff.mp hsplit).2.2

theorem stem_unique {stem' : String} (h : IsMigrationName name stem)
    (h' : IsMigrationName name stem') : stem = stem' := by
  obtain ⟨extension, -, hsplit⟩ := splitExtension_of_isMigrationName h
  obtain ⟨extension', -, hsplit'⟩ := splitExtension_of_isMigrationName h'
  exact (Prod.mk.inj (hsplit.symm.trans hsplit')).1

theorem stem?_join (directory : String) (hname : Path.IsName name) (h : IsMigrationName name stem) :
    Path.stem? (Path.join directory name) = some stem := by
  obtain ⟨extension, -, hsplit⟩ := splitExtension_of_isMigrationName h
  simp [Path.stem?, Path.fileName?_join directory hname, hsplit]

theorem hasFileName_join_iff (hname : Path.IsName name) :
    hasFileName (Path.join directory name) = true ↔ ∃ stem, IsMigrationName name stem := by
  have hfile := Path.fileName?_join directory hname
  constructor
  · intro h
    obtain ⟨hhidden, hextension⟩ : name.toList.head? ≠ some '.' ∧
        ∃ extension ∈ extensions, (Path.splitExtension name).2 = some extension := by
      simpa [hasFileName, Path.extension?, hfile, Option.any_eq_true, and_comm] using h
    obtain ⟨extension, hknown, hsplit⟩ := hextension
    have hparts : Path.splitExtension name = ((Path.splitExtension name).1, some extension) :=
      Prod.ext rfl hsplit
    exact ⟨_, hhidden, extension, hknown, (Path.splitExtension_eq_iff.mp hparts).1⟩
  · rintro ⟨stem, h⟩
    obtain ⟨extension, hknown, hsplit⟩ := splitExtension_of_isMigrationName h
    simpa [hasFileName, Path.extension?, hfile, hsplit, hknown] using h.1

/-! ### Texts of migrations -/

/-- A text that is read as a descriptor. -/
def Parses (text : String) : Prop := ∃ key path d, ofText key path text = .ok d

/-- The key and the path of a descriptor are handed through; the rest is what the document says. -/
theorem ofDocument_of_ofDocument {key : MigrationKey} {D : Document}
    (h : ofDocument key path D = .ok d) (key' : MigrationKey) (path' : String) :
    ofDocument key' path' D = .ok { d with key := key', path := path' } := by
  cases D with
  | mapping entries =>
    simp only [ofDocument] at h ⊢
    split at h
    · cases h
    · next hmembers =>
      obtain ⟨up, hup, h⟩ := Except.bind_eq_ok_iff.mp h
      obtain ⟨down, hdown, h⟩ := Except.bind_eq_ok_iff.mp h
      cases h
      rw [if_neg hmembers, Except.mapError_eq_ok_iff.mp hup, Except.mapError_eq_ok_iff.mp hdown]
      rfl
  | _ => cases h

theorem ofText_eq (key : MigrationKey) (path text : String) :
    ofText key path text = (Document.ofText? text).elim
      (.error (.badDescriptor path .unreadable)) (ofDocument key path) := by
  unfold ofText
  generalize Document.ofText? text = document
  cases document <;> rfl

/-- The same text under another key and another path. -/
theorem ofText_of_ofText {key : MigrationKey} {text : String} (h : ofText key path text = .ok d)
    (key' : MigrationKey) (path' : String) :
    ofText key' path' text = .ok { d with key := key', path := path' } := by
  rw [ofText_eq] at h ⊢
  generalize Document.ofText? text = document at h ⊢
  cases document with
  | none => cases h
  | some D => exact ofDocument_of_ofDocument h key' path'

theorem ofText_of_parses {text : String} (h : Parses text) (key : MigrationKey) (path : String) :
    ∃ d, ofText key path text = .ok d ∧ d.key = key ∧ d.path = path := by
  obtain ⟨key', path', d, hd⟩ := h
  exact ⟨_, ofText_of_ofText hd key path, rfl, rfl⟩

theorem key_and_path_of_ofText {key : MigrationKey} {text : String}
    (h : ofText key path text = .ok d) : d.key = key ∧ d.path = path := by
  obtain ⟨d', hd', hkey, hpath⟩ := ofText_of_parses ⟨key, path, d, h⟩ key path
  cases hd'.symm.trans h
  exact ⟨hkey, hpath⟩

theorem path_of_ofFile (h : ofFile tree path = .ok d) : d.path = path := by
  rw [ofFile] at h
  split at h
  · cases h
  · split at h
    · cases h
    · exact (key_and_path_of_ofText h).2

/-! ### Migration files -/

/-- The directory at a location holds a migration file. -/
def HasMigrationFile (tree : FileTree) (location : Location) (name stem : String)
    (content : Content) : Prop :=
  (location ++ [name], .file content) ∈ tree.entries ∧ IsMigrationName name stem

/-- The migration in a file of a directory, which can be read: its key is the stem of the file name,
and the rest is what the file says. -/
def IsMigrationIn (tree : FileTree) (directory : String) (location : Location) (name : String)
    (d : Descriptor) : Prop :=
  ∃ text, HasMigrationFile tree location name d.key.text (.text text) ∧
    tree.faults.read (location ++ [name]) = none ∧
    d.path = Path.join directory name ∧ ofText d.key d.path text = .ok d

theorem IsMigrationIn.hasMigrationFile (h : IsMigrationIn tree directory location name d) :
    ∃ text, HasMigrationFile tree location name d.key.text (.text text) :=
  h.imp fun _ h => h.1

theorem IsMigrationIn.key_eq (h : IsMigrationIn tree directory location name d)
    (hname : IsMigrationName name stem) : d.key.text = stem := by
  obtain ⟨text, hfile⟩ := h.hasMigrationFile
  exact stem_unique hfile.2 hname

section Files
variable (hwf : tree.WellFormed)
  (hdirectory : tree.find directory = .ok ⟨location, some .directory⟩)
include hwf hdirectory

theorem find_of_hasMigrationFile (h : HasMigrationFile tree location name stem content)
    (hseen : ∃ found, tree.lookup (Path.join directory name) = .ok found) :
    tree.find (Path.join directory name) = .ok ⟨location ++ [name], some (.file content)⟩ := by
  obtain ⟨⟨place, entry⟩, hlookup⟩ := hseen
  have hfind := FileTree.lookup_eq_ok_iff.mp hlookup
  obtain ⟨-, -, -, hplace⟩ :=
    (FileTree.find_join_eq_ok_iff hdirectory (hwf.isEntryName h.1).1).mp hfind
  rw [hfind, hplace, hwf.entry?_concat_eq_some_iff.mpr h.1]

/-- A file that is found is recognised when its name is that of a migration file. -/
theorem isFile_join_iff (hmem : ∃ entry, (location ++ [name], entry) ∈ tree.entries)
    (hseen : ∀ stem content, HasMigrationFile tree location name stem content →
      ∃ found, tree.lookup (Path.join directory name) = .ok found) :
    isFile tree (Path.join directory name) = true ↔
      ∃ stem content, HasMigrationFile tree location name stem content := by
  obtain ⟨entry, hmem⟩ := hmem
  have hname := hwf.isEntryName hmem
  rw [isFile, Bool.and_eq_true, hasFileName_join_iff hname.1, FileTree.isFile_eq_true_iff]
  constructor
  · rintro ⟨⟨place, content, hfind⟩, stem, hstem⟩
    obtain ⟨-, -, -, hplace⟩ := (FileTree.find_join_eq_ok_iff hdirectory hname.1).mp hfind
    obtain ⟨-, hentry⟩ := FileTree.Place.mk.inj hplace
    exact ⟨stem, content, hwf.entry?_concat_eq_some_iff.mp hentry.symm, hstem⟩
  · rintro ⟨stem, content, h⟩
    have hfind := find_of_hasMigrationFile hwf hdirectory h (hseen stem content h)
    exact ⟨⟨_, content, hfind⟩, stem, h.2⟩

/-- A migration file is read as the migration in it. -/
theorem ofFile_join_iff (h : HasMigrationFile tree location name stem content)
    (hseen : ∃ found, tree.lookup (Path.join directory name) = .ok found) :
    ofFile tree (Path.join directory name) = .ok d ↔
      IsMigrationIn tree directory location name d := by
  have hstem := stem?_join directory (hwf.isEntryName h.1).1 h.2
  have hkey : MigrationKey.ofText? stem = some ⟨stem, ne_empty_of_isMigrationName h.2⟩ := by
    rw [MigrationKey.ofText?, dif_pos (ne_empty_of_isMigrationName h.2)]
  have hfind := find_of_hasMigrationFile hwf hdirectory h hseen
  rw [ofFile, hstem, Option.bind_some, hkey]
  constructor
  · intro hd
    simp only at hd
    split at hd
    · cases hd
    · next text hread =>
      -- what is read is the content of this very file
      obtain ⟨place, hfind', hreadable⟩ := FileTree.readText_eq_ok_iff.mp hread
      cases hfind.symm.trans hfind'
      obtain ⟨hdkey, hdpath⟩ := key_and_path_of_ofText hd
      refine ⟨text, hdkey ▸ h, hreadable, hdpath, ?_⟩
      rw [hdkey, hdpath]
      exact hd
  · rintro ⟨text, hfile, hreadable, hpath, htext⟩
    have hfind' := find_of_hasMigrationFile hwf hdirectory hfile hseen
    cases hfind.symm.trans hfind'
    have hdkey : d.key = ⟨stem, ne_empty_of_isMigrationName h.2⟩ :=
      MigrationKey.eq_of_text (stem_unique hfile.2 h.2)
    simp only [FileTree.readText_eq_ok_iff.mpr ⟨_, hfind, hreadable⟩]
    rw [← hdkey, ← hpath]
    exact htext

omit hdirectory in
/-- A file has one content. -/
theorem content_unique {content' : Content} (h : (location ++ [name], .file content) ∈ tree.entries)
    (h' : (location ++ [name], .file content') ∈ tree.entries) : content = content' := by
  have hentry := hwf.entry?_concat_eq_some_iff.mpr h
  rw [hwf.entry?_concat_eq_some_iff.mpr h'] at hentry
  cases hentry
  rfl

omit hdirectory in
/-- A file holds one migration. -/
theorem IsMigrationIn.unique {d' : Descriptor} (h : IsMigrationIn tree directory location name d)
    (h' : IsMigrationIn tree directory location name d') : d = d' := by
  obtain ⟨text, hfile, -, hpath, htext⟩ := h
  obtain ⟨text', hfile', -, hpath', htext'⟩ := h'
  cases content_unique hwf hfile.1 hfile'.1
  have hkey : d.key = d'.key := MigrationKey.eq_of_text (stem_unique hfile.2 hfile'.2)
  rw [hkey, hpath, ← hpath'] at htext
  exact Except.ok.inj (htext.symm.trans htext')

omit hdirectory in
/-- A migration comes from one file. -/
theorem IsMigrationIn.name_unique {name' : String}
    (h : IsMigrationIn tree directory location name d)
    (h' : IsMigrationIn tree directory location name' d) : name = name' := by
  obtain ⟨text, hfile, -, hpath, -⟩ := h
  obtain ⟨text', hfile', -, hpath', -⟩ := h'
  have hname := Path.fileName?_join directory (hwf.isEntryName hfile.1).1
  rw [← hpath, hpath', Path.fileName?_join directory (hwf.isEntryName hfile'.1).1] at hname
  exact (Option.some.inj hname).symm

end Files

/-! ### Loading -/

/-- All migration files in a directory can be looked at: their paths lead somewhere. -/
def FilesSeen (tree : FileTree) (directory : String) (location : Location) : Prop :=
  ∀ name stem content, HasMigrationFile tree location name stem content →
    ∃ found, tree.lookup (Path.join directory name) = .ok found

/-- Every migration file in a directory can be read and is text that is read as a descriptor. -/
def FilesParse (tree : FileTree) (location : Location) : Prop :=
  ∀ name stem content, HasMigrationFile tree location name stem content →
    tree.faults.read (location ++ [name]) = none ∧ ∃ text, content = .text text ∧ Parses text

/-- No two migration files in a directory have one stem. -/
def StemsDiffer (tree : FileTree) (location : Location) : Prop :=
  ∀ name name' stem content content', HasMigrationFile tree location name stem content →
    HasMigrationFile tree location name' stem content' → name = name'

/-- The descriptors are the migrations in the files of a directory, one for each file, in ascending
order of their keys. -/
structure AreMigrationsIn (tree : FileTree) (directory : String) (location : Location)
    (ds : List Descriptor) : Prop where
  ascending : ds.Pairwise Precedes
  from_files : ∀ d ∈ ds, ∃ name, IsMigrationIn tree directory location name d
  one_each : ∀ name stem content, HasMigrationFile tree location name stem content →
    ∃! d, d ∈ ds ∧ IsMigrationIn tree directory location name d

/-- Two trees hold the same migration files in the directory at a location, and the system refuses
the same of the directory and of these files. -/
structure SameMigrationFiles (tree tree' : FileTree) (location : Location) : Prop where
  files : ∀ name stem content, HasMigrationFile tree location name stem content ↔
    HasMigrationFile tree' location name stem content
  listed : tree'.faults.read location = tree.faults.read location
  reached : ∀ name stem content, HasMigrationFile tree location name stem content →
    tree'.faults.reach (location ++ [name]) = tree.faults.reach (location ++ [name])
  read : ∀ name stem content, HasMigrationFile tree location name stem content →
    tree'.faults.read (location ++ [name]) = tree.faults.read (location ++ [name])

/-- The names under which a directory lists migration files that are found. -/
def fileNames (tree : FileTree) (directory : String) (location : Location) : List String :=
  ((tree.entries.map Prod.fst).filterMap (FileTree.nameIn? location)).filter fun name =>
    isFile tree (Path.join directory name)

section Load
variable (hwf : tree.WellFormed)
  (hdirectory : tree.find directory = .ok ⟨location, some .directory⟩)
  (hseen : FilesSeen tree directory location) {ds : List Descriptor}

include hdirectory in
/-- A directory that can be listed is loaded from the files under its names. -/
theorem load_eq (hlisted : tree.faults.read location = none) : (load tree directory).1 =
    (fileNames tree directory location).mapM
      (fun name => ofFile tree (Path.join directory name)) >>= sort := by
  have hlookup := FileTree.lookup_eq_ok_iff.mpr hdirectory
  have hnames := FileTree.names_eq_ok_iff.mpr ⟨location, hdirectory, hlisted, rfl⟩
  have hpaths : entryPaths tree directory = .ok
      (((tree.entries.map Prod.fst).filterMap (FileTree.nameIn? location)).map
        (Path.join directory)) := by
    have hisDirectory : tree.isDirectory directory = true := by rw [FileTree.isDirectory, hlookup]
    rw [entryPaths, hisDirectory, hnames]
    rfl
  rw [load, hpaths, fileNames]
  simp only [List.filter_map, List.mapM_map]
  split <;> simp_all [Function.comp_def]

include hdirectory in
/-- A directory is only loaded when it can be listed. -/
theorem listed_of_load (hload : (load tree directory).1 = .ok ds) :
    tree.faults.read location = none := by
  have hlookup := FileTree.lookup_eq_ok_iff.mpr hdirectory
  cases hread : tree.faults.read location with
  | none => rfl
  | some e =>
    have hpaths : entryPaths tree directory = .error (.file directory e) := by
      have hisDirectory : tree.isDirectory directory = true := by
        rw [FileTree.isDirectory, hlookup]
      rw [entryPaths, hisDirectory, FileTree.names_eq hlookup, FileTree.reading, hread]
      rfl
    rw [load, hpaths] at hload
    cases hload

include hwf hdirectory hseen

theorem mem_fileNames_iff : name ∈ fileNames tree directory location ↔
    ∃ stem content, HasMigrationFile tree location name stem content := by
  rw [fileNames, List.mem_filter, FileTree.mem_names_iff]
  constructor
  · rintro ⟨hmem, hfile⟩
    exact (isFile_join_iff hwf hdirectory hmem (hseen name)).mp hfile
  · rintro ⟨stem, content, h⟩
    have hmem : ∃ entry, (location ++ [name], entry) ∈ tree.entries := ⟨_, h.1⟩
    exact ⟨hmem, (isFile_join_iff hwf hdirectory hmem (hseen name)).mpr ⟨stem, content, h⟩⟩

theorem ofFile_eq_ok_iff (hname : name ∈ fileNames tree directory location) :
    ofFile tree (Path.join directory name) = .ok d ↔
      IsMigrationIn tree directory location name d := by
  obtain ⟨stem, content, h⟩ := (mem_fileNames_iff hwf hdirectory hseen).mp hname
  exact ofFile_join_iff hwf hdirectory h (hseen name stem content h)

/-- Loading reads every migration file and puts the migrations in order. -/
theorem load_eq_ok_iff (hlisted : tree.faults.read location = none) :
    (load tree directory).1 = .ok ds ↔
      ∃ read, List.Forall₂ (IsMigrationIn tree directory location)
        (fileNames tree directory location) read ∧ sort read = .ok ds := by
  rw [load_eq hdirectory hlisted, Except.bind_eq_ok_iff]
  refine exists_congr fun read => and_congr_left fun _ => Except.mapM_eq_ok_iff.trans ?_
  exact forall₂_congr_of_mem fun name hname d => ofFile_eq_ok_iff hwf hdirectory hseen hname

theorem exists_read_of_load (hload : (load tree directory).1 = .ok ds) :
    ∃ read, List.Forall₂ (IsMigrationIn tree directory location)
      (fileNames tree directory location) read ∧ sort read = .ok ds :=
  (load_eq_ok_iff hwf hdirectory hseen (listed_of_load hdirectory hload)).mp hload

/-- What is loaded are the migrations in the files of the directory. -/
theorem mem_of_load (hload : (load tree directory).1 = .ok ds) :
    d ∈ ds ↔ ∃ name, IsMigrationIn tree directory location name d := by
  obtain ⟨read, hread, hsort⟩ := exists_read_of_load hwf hdirectory hseen hload
  rw [(sort_eq_ok_iff.mp hsort).1.mem_iff]
  constructor
  · intro hd
    obtain ⟨name, -, h⟩ := exists_left_of_forall₂ hread hd
    exact ⟨name, h⟩
  · rintro ⟨name, h⟩
    obtain ⟨text, hfile⟩ := h.hasMigrationFile
    have hname := (mem_fileNames_iff hwf hdirectory hseen).mpr ⟨_, _, hfile⟩
    obtain ⟨d', hd', h'⟩ := exists_right_of_forall₂ hread hname
    rwa [IsMigrationIn.unique hwf h h']

/-- What is loaded is in order and has each migration once. -/
theorem areMigrationsIn_of_load (hload : (load tree directory).1 = .ok ds) :
    AreMigrationsIn tree directory location ds where
  ascending := by
    obtain ⟨read, -, hsort⟩ := exists_read_of_load hwf hdirectory hseen hload
    exact (sort_eq_ok_iff.mp hsort).2
  from_files := fun d hd => (mem_of_load hwf hdirectory hseen hload).mp hd
  one_each := fun name stem content h => by
    obtain ⟨read, hread, hsort⟩ := exists_read_of_load hwf hdirectory hseen hload
    have hname := (mem_fileNames_iff hwf hdirectory hseen).mpr ⟨_, _, h⟩
    obtain ⟨d, hd, hin⟩ := exists_right_of_forall₂ hread hname
    exact ⟨d, ⟨(sort_eq_ok_iff.mp hsort).1.mem_iff.mpr hd, hin⟩, fun d' h' => h'.2.unique hwf hin⟩

/-- Loading succeeds exactly if the directory can be listed, every migration file is read and no two
have one stem. -/
theorem exists_load_iff : (∃ ds, (load tree directory).1 = .ok ds) ↔
    tree.faults.read location = none ∧ FilesParse tree location ∧ StemsDiffer tree location := by
  constructor
  · rintro ⟨ds, hload⟩
    obtain ⟨hascending, -, hone⟩ := areMigrationsIn_of_load hwf hdirectory hseen hload
    refine ⟨listed_of_load hdirectory hload, fun name stem content h => ?_,
      fun name name' stem content content' h h' => ?_⟩
    · obtain ⟨d, ⟨-, text, hfile, hreadable, -, htext⟩, -⟩ := hone name stem content h
      exact ⟨hreadable, text, content_unique hwf h.1 hfile.1, d.key, d.path, d, htext⟩
    · obtain ⟨d, ⟨hd, hin⟩, -⟩ := hone name stem content h
      obtain ⟨d', ⟨hd', hin'⟩, -⟩ := hone name' stem content' h'
      have hkey : d.key = d'.key := MigrationKey.eq_of_text <|
        (hin.key_eq h.2).trans (hin'.key_eq h'.2).symm
      -- keys ascend, so the two files give one migration, and that comes from one file
      obtain rfl := List.inj_on_of_nodup_map (nodup_keys hascending) hd hd' hkey
      exact hin.name_unique hwf hin'
  · rintro ⟨hlisted, hparses, hstems⟩
    have hall : ∀ name ∈ fileNames tree directory location,
        ∃ d, IsMigrationIn tree directory location name d := by
      intro name hname
      obtain ⟨stem, content, h⟩ := (mem_fileNames_iff hwf hdirectory hseen).mp hname
      obtain ⟨hreadable, text, rfl, hparse⟩ := hparses name stem content h
      obtain ⟨d, hd, hkey, hpath⟩ := ofText_of_parses hparse
        ⟨stem, ne_empty_of_isMigrationName h.2⟩ (Path.join directory name)
      refine ⟨d, text, hkey ▸ h, hreadable, hpath, ?_⟩
      rw [hkey, hpath]
      exact hd
    obtain ⟨read, hread⟩ := exists_forall₂_iff.mpr hall
    -- files of different names have different stems, so what is read can be put in order
    have hkeys : (read.map key).Nodup := by
      refine List.pairwise_map.mpr (pairwise_of_forall₂ hread (hwf.nodup_names.filter _) ?_)
      rintro name name' d d' hne ⟨text, hfile, -⟩ ⟨text', hfile', -⟩ hkey
      rw [← hkey] at hfile'
      exact hne (hstems name name' _ _ _ hfile hfile')
    obtain ⟨ds, hds⟩ := exists_sort_iff.mpr hkeys
    exact ⟨ds, (load_eq_ok_iff hwf hdirectory hseen hlisted).mpr ⟨read, hread, hds⟩⟩

omit hseen in
/-- The migration files in a directory are seen when their paths are not too long and the system
lets them be reached. -/
theorem filesSeen_iff : FilesSeen tree directory location ↔
    ∀ name stem content, HasMigrationFile tree location name stem content →
      (Path.join directory name).utf8ByteSize ≤ FileTree.longestPath ∧
        tree.faults.reach (location ++ [name]) = none := by
  refine forall₄_congr fun name stem content h => ?_
  have hname := hwf.isEntryName h.1
  constructor
  · rintro ⟨⟨place, entry⟩, hlookup⟩
    obtain ⟨-, hshort, hreach, -⟩ := (FileTree.find_join_eq_ok_iff hdirectory hname.1).mp
      (FileTree.lookup_eq_ok_iff.mp hlookup)
    exact ⟨hshort, hreach⟩
  · rintro ⟨hshort, hreach⟩
    have hfind := FileTree.find_join hdirectory hname hshort hreach
    rw [hwf.entry?_concat_eq_some_iff.mpr h.1] at hfind
    exact ⟨_, FileTree.lookup_eq_ok_iff.mpr hfind⟩

/-- A directory with the same migration files is loaded alike. -/
theorem load_of_sameMigrationFiles {tree' : FileTree} (hwf' : tree'.WellFormed)
    (hdirectory' : tree'.find directory = .ok ⟨location, some .directory⟩)
    (hsame : SameMigrationFiles tree tree' location) (hload : (load tree directory).1 = .ok ds) :
    (load tree' directory).1 = .ok ds := by
  have hseen' : FilesSeen tree' directory location := by
    refine (filesSeen_iff hwf' hdirectory').mpr fun name stem content h => ?_
    have h' := (hsame.files name stem content).mpr h
    rw [hsame.reached name stem content h']
    exact (filesSeen_iff hwf hdirectory).mp hseen name stem content h'
  obtain ⟨hlisted, hparse, hstems⟩ := (exists_load_iff hwf hdirectory hseen).mp ⟨ds, hload⟩
  have hsuccess : ∃ ds', (load tree' directory).1 = .ok ds' := by
    refine (exists_load_iff hwf' hdirectory' hseen').mpr
      ⟨hsame.listed.trans hlisted, fun name stem content h => ?_, ?_⟩
    · have h' := (hsame.files name stem content).mpr h
      rw [hsame.read name stem content h']
      exact hparse name stem content h'
    · intro name name' stem content content' h h'
      exact hstems name name' stem content content' ((hsame.files _ _ _).mpr h)
        ((hsame.files _ _ _).mpr h')
  obtain ⟨ds', hload'⟩ := hsuccess
  -- both lists ascend and have the migrations in the same files
  have hmem : ∀ d, d ∈ ds' ↔ d ∈ ds := by
    intro d
    rw [mem_of_load hwf' hdirectory' hseen' hload', mem_of_load hwf hdirectory hseen hload]
    refine exists_congr fun name => exists_congr fun text => ?_
    rw [← hsame.files name d.key.text (.text text)]
    refine and_congr_right fun h => ?_
    rw [hsame.read name _ _ h]
  rw [hload', eq_of_mem_iff (areMigrationsIn_of_load hwf' hdirectory' hseen' hload').ascending
    (areMigrationsIn_of_load hwf hdirectory hseen hload).ascending hmem]

end Load

/-! ### Main theorem -/

/-- **A directory is loaded as a whole or not at all.**  As long as its migration files can be
looked at, a directory is loaded exactly if it can be listed, every migration file is read and no
two have one stem.  Then the migrations are those in the files, one each and in ascending order,
whatever the order in which the entries are listed and whatever else there is.  When the directory
is not loaded, nothing is sent to the database. -/
theorem load_all_or_nothing (hwf : tree.WellFormed)
    (hdirectory : tree.lookup directory = .ok (location, .directory))
    (hseen : FilesSeen tree directory location) :
    ((∃ ds, (load tree directory).1 = .ok ds) ↔
      tree.faults.read location = none ∧ FilesParse tree location ∧ StemsDiffer tree location) ∧
    (∀ ds, (load tree directory).1 = .ok ds →
      AreMigrationsIn tree directory location ds ∧
      (∀ entries, tree.entries.Perm entries →
        (load { tree with entries } directory).1 = .ok ds) ∧
      ∀ tree' : FileTree, tree'.WellFormed → tree'.lookup directory = .ok (location, .directory) →
        SameMigrationFiles tree tree' location → (load tree' directory).1 = .ok ds) ∧
    ∀ e, (load tree directory).1 = .error e →
      ∀ (σ : Type) (db : Database σ) (table : VersionTable) (bootstrap : Bool)
        (state : σ) (transcript : List Exchange),
        Migrator.bindLoaded db.transcribed (load tree directory) table bootstrap
            (state, transcript) =
          (.error (.project e), (load tree directory).2, (state, transcript)) := by
  rw [FileTree.lookup_eq_ok_iff] at hdirectory
  refine ⟨exists_load_iff hwf hdirectory hseen, fun ds hload => ⟨?_, ?_, ?_⟩, ?_⟩
  · exact areMigrationsIn_of_load hwf hdirectory hseen hload
  · -- another order of the entries leaves the files and what is refused of them
    intro entries hperm
    have hfind := (hwf.find_of_perm hperm directory).trans hdirectory
    refine load_of_sameMigrationFiles hwf hdirectory hseen (hwf.of_perm hperm) hfind ?_ hload
    exact ⟨fun name stem content => and_congr_left fun _ => hperm.mem_iff, rfl,
      fun _ _ _ _ => rfl, fun _ _ _ _ => rfl⟩
  · intro tree' hwf' hdirectory' hsame
    rw [FileTree.lookup_eq_ok_iff] at hdirectory'
    exact load_of_sameMigrationFiles hwf hdirectory hseen hwf' hdirectory' hsame hload
  · intro e hload σ db table bootstrap state transcript
    have hpair : load tree directory = (.error e, (load tree directory).2) := Prod.ext hload rfl
    rw [hpair]
    rfl

/-- The files in a directory are seen when the path of the directory leaves room for the longest
name and all places in it can be reached. -/
theorem filesSeen_of_short (hwf : tree.WellFormed)
    (hdirectory : tree.lookup directory = .ok (location, .directory))
    (hreach : ∀ name, tree.faults.reach (location ++ [name]) = none)
    (h : directory.utf8ByteSize + 1 + FileTree.longestName ≤ FileTree.longestPath) :
    FilesSeen tree directory location := by
  refine (filesSeen_iff hwf (FileTree.lookup_eq_ok_iff.mp hdirectory)).mpr
    fun name stem content hfile => ⟨?_, hreach name⟩
  obtain ⟨hname, hshort⟩ := hwf.isEntryName hfile.1
  obtain ⟨slash, hslash, hjoin⟩ := Path.exists_join directory hname.no_slash
  have hsize : slash.utf8ByteSize ≤ 1 := by obtain rfl | rfl := hslash <;> decide
  rw [hjoin, String.utf8ByteSize_append, String.utf8ByteSize_append]
  omega

/-- The case of a directory that lists two migration files in descending order and a hidden one. -/
theorem load_all_or_nothing_of_two :
    let file : FileEntry := .file (.text "up: []")
    let tree := ((FileTree.fresh.place "m/2.yml" file).place "m/.0.yml" file).place "m/1.json" file
    let location := ["work", "project", "m"]
    let first : Descriptor := ⟨⟨"1", by decide⟩, "m/1.json", [], none⟩
    let second : Descriptor := ⟨⟨"2", by decide⟩, "m/2.yml", [], none⟩
    tree.WellFormed ∧ tree.lookup "m" = .ok (location, .directory) ∧
      FilesSeen tree "m" location ∧ (load tree "m").1 = .ok [first, second] ∧
      AreMigrationsIn tree "m" location [first, second] := by
  intro file tree location first second
  have hwf : tree.WellFormed := ((FileTree.wellFormed_fresh.place _ _).place _ _).place _ _
  have hdirectory : tree.lookup "m" = .ok (location, .directory) :=
    Except.eq_ok_of_toOption (by decide +kernel)
  have hfaults : tree.faults = {} := by simp only [tree, FileTree.faults_place, FileTree.fresh]
  have hseen : FilesSeen tree "m" location :=
    filesSeen_of_short hwf hdirectory (fun _ => by rw [hfaults]) (by decide)
  have hread : (fileNames tree "m" location).mapM (fun name => ofFile tree (Path.join "m" name)) =
      .ok [second, first] := Except.eq_ok_of_toOption (by decide +kernel)
  have hload : (load tree "m").1 = .ok [first, second] := by
    rw [load_eq (FileTree.lookup_eq_ok_iff.mp hdirectory) (by rw [hfaults]), hread]
    have hprecedes : first.key.compare second.key = .lt := by decide
    exact sort_eq_ok_iff.mpr ⟨.swap .., List.pairwise_pair.mpr hprecedes⟩
  exact ⟨hwf, hdirectory, hseen, hload,
    ((load_all_or_nothing hwf hdirectory hseen).2.1 _ hload).1⟩

/-! ### Files that are not seen -/

/-- A migration file that cannot be looked at is passed over: loading may succeed, but the file's
migration is not among those that are loaded. -/
theorem notMem_of_unseen (hdirectory : tree.lookup directory = .ok (location, .directory))
    {e : FileError} (hunseen : tree.lookup (Path.join directory name) = .error e)
    {ds : List Descriptor} (hload : (load tree directory).1 = .ok ds) :
    ∀ d ∈ ds, d.path ≠ Path.join directory name := by
  rw [FileTree.lookup_eq_ok_iff] at hdirectory
  rw [load_eq hdirectory (listed_of_load hdirectory hload)] at hload
  obtain ⟨read, hread, hsort⟩ := Except.bind_eq_ok_iff.mp hload
  intro d hd hpath
  obtain ⟨other, hother, hfile⟩ := exists_left_of_forall₂ (Except.mapM_eq_ok_iff.mp hread)
    ((sort_eq_ok_iff.mp hsort).1.mem_iff.mp hd)
  have hfound := (List.mem_filter.mp hother).2
  rw [isFile, ← path_of_ofFile hfile, hpath, FileTree.isFile, hunseen] at hfound
  cases hfound

/-- A file in a directory whose path has very many slashes at its end is passed over, so that
nothing is loaded from the directory, and no error says so. -/
theorem load_passes_over_long_path :
    let tree := FileTree.fresh.place "m/1.json" (.file (.text "up: []"))
    let location := ["work", "project", "m"]
    let directory := "m" ++ Path.slashes 4090
    tree.WellFormed ∧ tree.lookup directory = .ok (location, .directory) ∧
      HasMigrationFile tree location "1.json" "1" (.text "up: []") ∧
      FilesParse tree location ∧ StemsDiffer tree location ∧ (load tree directory).1 = .ok [] := by
  intro tree location directory
  have hwf : tree.WellFormed := FileTree.wellFormed_fresh.place _ _
  have hsize : directory.utf8ByteSize = 4091 := by
    rw [String.utf8ByteSize_append, Path.utf8ByteSize_slashes]
    rfl
  have hm : tree.find "m" = .ok ⟨location, some .directory⟩ :=
    FileTree.lookup_eq_ok_iff.mp (Except.eq_ok_of_toOption (by decide +kernel))
  have hdirectory : tree.find directory = .ok ⟨location, some .directory⟩ :=
    FileTree.find_append_slashes hm 4090 (by rw [hsize]; decide)
  have hfaults : tree.faults = {} := FileTree.faults_place ..
  have hlisted : tree.faults.read location = none := by rw [hfaults]
  have hnames : (tree.entries.map Prod.fst).filterMap (FileTree.nameIn? location) = ["1.json"] := by
    decide +kernel
  have hfile : HasMigrationFile tree location "1.json" "1" (.text "up: []") :=
    ⟨by decide +kernel, by decide, "json", by decide, rfl⟩
  have honly : ∀ {name stem content}, HasMigrationFile tree location name stem content →
      name = "1.json" := by
    intro name stem content h
    have hname : name ∈ (tree.entries.map Prod.fst).filterMap (FileTree.nameIn? location) :=
      FileTree.mem_names_iff.mpr ⟨_, h.1⟩
    simpa [hnames] using hname
  have hparses : Parses "up: []" := by
    let d : Descriptor := ⟨⟨"1", by decide⟩, "m/1.json", [], none⟩
    exact ⟨d.key, d.path, d, Except.eq_ok_of_toOption (by decide +kernel)⟩
  -- six more bytes are too many for a path
  have hlong : FileTree.longestPath < (Path.join directory "1.json").utf8ByteSize := by
    have hslash : '/' ∉ "1.json".toList := by decide
    obtain ⟨slash, -, hjoin⟩ := Path.exists_join directory hslash
    have hname : "1.json".utf8ByteSize = 6 := by decide
    rw [hjoin, String.utf8ByteSize_append, String.utf8ByteSize_append, hsize, hname,
      FileTree.longestPath]
    omega
  have hnone : fileNames tree directory location = [] := by
    rw [fileNames, hnames, List.filter_singleton, isFile, FileTree.isFile_of_long hlong]
    rfl
  have hload : (load tree directory).1 = .ok [] := by
    rw [load_eq hdirectory hlisted, hnone]
    exact sort_eq_ok_iff.mpr ⟨.refl _, .nil⟩
  refine ⟨hwf, FileTree.lookup_eq_ok_iff.mpr hdirectory, hfile, ?_, ?_, hload⟩
  · intro name stem content h
    obtain rfl := honly h
    exact ⟨by rw [hfaults], _, content_unique hwf h.1 hfile.1, hparses⟩
  · intro name name' stem content content' h h'
    rw [honly h, honly h']

end SchemaMigration.Descriptor
