import SchemaMigration.Proofs.Database.Calm
import SchemaMigration.Proofs.File.Writing
import SchemaMigration.Proofs.Migrator.Arrival

/-!
# Databases in files that refuse nothing

A database that has been opened keeps its state in its file, and the file can be written again as
long as there is room (`Saved`).  Without rules such a database refuses nothing that a migration
sends (`obliges`), as long as the migrations have no statements like those on version tables.
-/

namespace SchemaMigration

/-! ### In memory -/

namespace MemoryDatabase

variable {db : MemoryDatabase} {t : VersionTable} {sql : String} {cells : List Json}

/-- Without rules, a version of 64 bits with a sign is recorded. -/
theorem exists_execute_updateSql (h : db.rules = []) (ht : Config.isIdentifier t.name = true)
    (hrows : db.rows? t.name = some cells) {version : Nat}
    (hversion : version < 0x8000000000000000) :
    ∃ next, db.execute (t.updateSql version) = .ok next ∧ next.rules = [] ∧
      next.rows? t.name = some (cells.map fun _ => .nat version) := by
  have hknown := known?_updateSql ht version
  rw [if_pos hversion] at hknown
  have happly : db.apply (.update t.name version) =
      .ok (db.setRows t.name (cells.map fun _ => .nat version)) := by
    simp only [apply, hrows]
    rfl
  refine ⟨_, execute_of_calm h hknown happly, (rules_setRows ..).trans h, ?_⟩
  exact (rows?_setRows ..).trans (if_pos rfl)

/-- Without rules, a statement that is not known is taken as it is. -/
theorem execute_of_unknown (h : db.rules = []) (hunknown : known? sql = none) :
    db.execute sql = .ok { db with executed := db.executed ++ [sql] } := by
  rw [execute, failing?_eq_none h]
  simp only [hunknown]
  rfl

end MemoryDatabase

/-! ### In files -/

namespace StoredDatabase

variable {db : StoredDatabase} {tree tree' : FileTree} {x : StoredDatabase × FileTree}
  {t : VersionTable} {sql : String} {memory : MemoryDatabase}

/-- The state of the database has been written to its file, if it has one. -/
def Saved (x : StoredDatabase × FileTree) : Prop := ∃ tree, x.1.save tree = (.ok (), x.2)

theorem faults_save (db : StoredDatabase) (tree : FileTree) :
    (db.save tree).2.faults = tree.faults := by
  unfold save
  split
  · rfl
  · exact FileTree.faults_write ..

/-- A database that has been saved can be saved again, if there is room. -/
theorem exists_save_again (hroom : tree.IsRoomy) (h : db.save tree = (.ok (), tree'))
    (memory : MemoryDatabase) :
    ∃ tree'', ({ db with memory } : StoredDatabase).save tree' = (.ok (), tree'') := by
  unfold save at h ⊢
  cases hpath : db.path with
  | none => exact ⟨tree', rfl⟩
  | some path =>
    simp only [hpath] at h
    exact FileTree.exists_write_again hroom h _

/-- A database that has been opened is saved. -/
theorem saved_of_open {path : String} (h : connector.open tree path = .ok x) :
    Saved x ∧ x.2.faults = tree.faults := by
  unfold Connector.open at h
  split at h
  · obtain rfl := Except.ok.inj h
    exact ⟨⟨tree, rfl⟩, rfl⟩
  · have hfile := Except.mapError_eq_ok_iff.mp h
    simp only [connector, openFile] at hfile
    split at hfile
    · cases hfile
    · next memory hmemory =>
      -- opening a database in a file has written this file
      have hfaults := faults_save ⟨some path, memory⟩ tree
      split at hfile
      · next hsave =>
        obtain rfl := Except.ok.inj hfile
        rw [hsave] at hfaults
        exact ⟨⟨tree, hsave⟩, hfaults⟩
      · cases hfile

/-- A database that has no rules and is saved, in a tree that has room. -/
structure Calm (x : StoredDatabase × FileTree) : Prop where
  rules : x.1.memory.rules = []
  roomy : x.2.IsRoomy
  saved : Saved x

theorem exists_execute (h : Calm x) (hmemory : x.1.memory.execute sql = .ok memory)
    (hrules : memory.rules = []) :
    ∃ y, driver.execute sql x = (.ok 1, y) ∧ Calm y ∧ y.1.memory = memory := by
  obtain ⟨tree, hsaved⟩ := h.saved
  -- the trees before and after have the same room
  have hfaults := faults_save x.1 tree
  rw [hsaved] at hfaults
  have hroom : tree.IsRoomy := fun location => hfaults ▸ h.roomy location
  obtain ⟨tree', hsave⟩ := exists_save_again hroom hsaved memory
  have hfaults' := faults_save { x.1 with memory } x.2
  rw [hsave] at hfaults'
  refine ⟨({ x.1 with memory }, tree'), ?_, ⟨hrules, ?_, x.2, hsave⟩, rfl⟩
  · simp only [driver, hmemory, hsave]
  · intro location
    rw [hfaults']
    exact h.roomy location

theorem drivenWhile_calm (t : VersionTable) : t.DrivenWhile driver (rowsOf t.name) Calm :=
  drivenWhile_of Calm.rules exists_execute t

/-- **Databases in files are obliging**: one that has no rules takes all that a migration sends, if
the migrations have no statements on version tables. -/
theorem obliges {ds : List Descriptor} (ht : Config.isIdentifier t.name = true)
    (hds : ∀ desc ∈ ds, ∀ sql ∈ desc.sql, MemoryDatabase.known? sql = none) :
    t.Obliges database ds (rowsOf t.name) Calm where
  toServedWhile := (drivenWhile_calm t).servedWhile
  execute_updateSql h hrows hversion := by
    obtain ⟨_, hmemory, hrules, hrows'⟩ :=
      MemoryDatabase.exists_execute_updateSql h.rules ht hrows hversion
    obtain ⟨y, hexecute, hcalm, rfl⟩ := exists_execute h hmemory hrules
    exact ⟨1, y, VersionTable.execute_of_driver rfl hexecute, hcalm, hrows'⟩
  execute_migration hdesc hsql h := by
    have hmemory := MemoryDatabase.execute_of_unknown h.rules (hds _ hdesc _ hsql)
    obtain ⟨y, hexecute, hcalm, hy⟩ := exists_execute h hmemory h.rules
    refine ⟨1, y, VersionTable.execute_of_driver rfl hexecute, hcalm, ?_⟩
    rw [rowsOf, rowsOf, hy]
    rfl

end StoredDatabase
end SchemaMigration
