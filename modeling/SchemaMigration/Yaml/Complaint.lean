import SchemaMigration.Fault
import SchemaMigration.Yaml.Node

/-!
# Complaints

What is wrong with a node when it is read as a value of some type, with the path to the spot.  A
path names the keys of mappings from the outside inwards.
-/

namespace SchemaMigration.Yaml

/-- What is wrong with a node, and where that is. -/
inductive Complaint where
  /-- the text has a fault of its own, or the spot has no path -/
  | unreadable
  /-- at the node itself -/
  | here (fault : Fault)
  /-- at the record that the node is in -/
  | around (fault : Fault)
  /-- at a path inside the node -/
  | inside (path : String) (fault : Fault)
  deriving Repr

namespace Complaint

/-- The complaint of a mapping about the value under a key. -/
def under (key : String) : Complaint → Complaint
  | .unreadable => .unreadable
  | .around fault => .here fault
  | .here fault => .inside key fault
  | .inside path fault => .inside (key ++ "." ++ path) fault

/-- The complaint about the value that a node stands for.  An alias keeps a complaint at itself that
would go to the record around it. -/
def across (node : Node) (complaint : Complaint) : Complaint :=
  match node, complaint with
  | .alias _, .around fault => .here fault
  | _, complaint => complaint

end Complaint
end SchemaMigration.Yaml
