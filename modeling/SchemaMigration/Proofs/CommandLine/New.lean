import SchemaMigration.Proofs.CommandLine.Session
import SchemaMigration.Proofs.Descriptor.Scaffold
import SchemaMigration.Proofs.File.Directories

/-!
# Making a migration

The command makes the migrations directory first, and then the file in it.  When it succeeds one
file is new, and when it fails none is made or changed, unless the system stops the writing of the
new file on the way: then a part of this file stays (`new_adds_one_file`).  The directories that it
has made stay when it fails afterwards (`new_leaves_a_directory`).
-/

namespace SchemaMigration.CommandLine

variable {σ : Type}

/-- On a full disk the command fails, and what is left of the new file is an empty one. -/
example :
    let full : FileFaults := { room := fun _ => some (0, .refused "No space left on device") }
    let tree := (FileTree.fresh.place "manatee.yml" (.file (.text "name: app\n"))).place
      "migrations" .directory
    let s := { tree := { tree with faults := full } }
    let r := run { command := .new "x" } ⟨2026, 1, 1, 0, 0, 0⟩ s
    r.1.toOption = none ∧
      r.2.tree.entry? ["work", "project", "migrations", "20260101000000_x.json"] =
        some (.file (.text "")) := by
  decide +kernel

end SchemaMigration.CommandLine
