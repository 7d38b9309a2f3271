import SchemaMigration.Text.Search

/-!
# Paths

A path is kept as the text in which it is printed.  It is taken apart into components where paths
are compared and where file names are looked at.
-/

namespace SchemaMigration.Path

/-! ### Components -/

/-- A component of a path, in the order of comparison. -/
inductive Component where
  | root
  /-- the leading dot of a relative path -/
  | here
  | up
  | name (text : String)
  deriving DecidableEq, Repr

/-- Whether a path starts at the root. -/
def isAbsolute (path : String) : Bool := path.toList.head? == some '/'

/-- The component that a part of a path stands for, if it does not merely repeat where it is. -/
def component? (part : String) : Option Component :=
  if part == "" || part == "." then none
  else if part == ".." then some .up
  else some (.name part)

/-- The components of a path. -/
def components (path : String) : List Component :=
  let parts := Text.split path '/'
  let first : List Component :=
    if isAbsolute path then [.root] else if parts.head? == some "." then [.here] else []
  first ++ parts.filterMap component?

/-! ### Order -/

/-- The rank of a component among the kinds of components. -/
def Component.rank : Component → Nat
  | .root => 0
  | .here => 1
  | .up => 2
  | .name _ => 3

/-- The order of components. -/
def Component.compare : Component → Component → Ordering
  | .name a, .name b => if a < b then .lt else if a = b then .eq else .gt
  | a, b => Ord.compare a.rank b.rank

/-- The order of lists of components: the first component that differs decides. -/
def compareComponents : List Component → List Component → Ordering
  | [], [] => .eq
  | [], _ :: _ => .lt
  | _ :: _, [] => .gt
  | a :: as, b :: bs => (a.compare b).then (compareComponents as bs)

/-- The order of paths. -/
def compare (a b : String) : Ordering := compareComponents (components a) (components b)

/-! ### Joining -/

/-- A path inside a directory; an absolute path stands for itself. -/
def join (directory path : String) : String :=
  if isAbsolute path then path
  else if directory.isEmpty || directory.toList.getLast? == some '/' then directory ++ path
  else directory ++ "/" ++ path

/-- The path of the directory that a path is in, if it has any components to take away. -/
def parent? (path : String) : Option String :=
  match (components path).reverse with
  | [] => none
  | .root :: _ => none
  | _ :: rest =>
    let texts := rest.reverse.map fun
      | .root => ""
      | .here => "."
      | .up => ".."
      | .name text => text
    if rest = [.root] then some "/" else some (Text.joinWith "/" texts)

/-! ### File names -/

/-- The file name that a path ends with. -/
def fileName? (path : String) : Option String :=
  match (components path).getLast? with
  | some (.name text) => some text
  | _ => none

/-- The parts of a file name before and after its last dot.  A name without a dot, or with one at
its start only, has no second part. -/
def splitExtension (name : String) : String × Option String :=
  match (Text.split name '.').reverse with
  | last :: before :: rest =>
    if rest.isEmpty && before.isEmpty then (name, none)
    else (Text.joinWith "." (before :: rest).reverse, some last)
  | _ => (name, none)

/-- The file name without its extension. -/
def stem? (path : String) : Option String :=
  (fileName? path).map fun name => (splitExtension name).1

/-- The extension of the file name. -/
def extension? (path : String) : Option String :=
  (fileName? path).bind fun name => (splitExtension name).2

end SchemaMigration.Path
