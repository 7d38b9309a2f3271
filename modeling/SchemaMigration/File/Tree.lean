import SchemaMigration.File.Error
import SchemaMigration.File.Path

/-!
# File trees

A tree of directories and files with a working directory.  Paths are followed part by part from the
root or from the working directory (`FileTree.find`), and a change of the tree is a new tree.

What the system refuses for reasons that do not lie in the tree, such as missing permissions or a
disk that is full or fails, is part of the tree too (`FileFaults`).  A place can be closed to all
use, or to being read or made only; and a file may have too little room, so that writing it fails
when a part of it stands there already (`FileTree.write`).  A link is no entry of its own: it stands
for what it leads to, and one that leads nowhere for a place that is closed to all use.
-/

namespace SchemaMigration

/-- The content of a file. -/
inductive Content where
  | text (text : String)
  /-- bytes that are not text -/
  | binary (bytes : List UInt8)
  deriving DecidableEq, Repr

namespace Content

/-- The content that some bytes are. -/
def ofBytes (bytes : ByteArray) : Content :=
  match String.fromUTF8? bytes with
  | some s => .text s
  | none => .binary bytes.toList

/-- The bytes of a content. -/
def bytes : Content → ByteArray
  | .text s => s.toUTF8
  | .binary bs => ⟨bs.toArray⟩

/-- The number of bytes of a content. -/
def size (content : Content) : Nat := content.bytes.size

/-- The first bytes of a content. -/
def take (n : Nat) (content : Content) : Content := ofBytes (content.bytes.extract 0 n)

end Content

/-- What stands at a place in a file tree. -/
inductive FileEntry where
  | directory
  | file (content : Content)
  deriving DecidableEq, Repr

/-- A place in a file tree: the names from the root inwards. -/
abbrev Location := List String

/-- What the system refuses at the places of a file tree. -/
structure FileFaults where
  /-- why no path leads to a place, whatever stands there -/
  reach : Location → Option FileError := fun _ => none
  /-- why a file is not read or a directory not listed -/
  read : Location → Option FileError := fun _ => none
  /-- why nothing is made at a place and nothing that stands there is opened to be written -/
  make : Location → Option FileError := fun _ => none
  /-- how many bytes a file can have, and why it has no more -/
  room : Location → Option (Nat × FileError) := fun _ => none

/-- A tree of directories and files. -/
structure FileTree where
  entries : List (Location × FileEntry)
  /-- the place where relative paths start -/
  working : Location
  faults : FileFaults := {}

namespace FileTree

/-- A tree in which only the working directory and the directories around it exist. -/
def fresh : FileTree where
  entries := [(["work"], .directory), (["work", "project"], .directory)]
  working := ["work", "project"]

/-! ### Following paths -/

/-- The longest name of a file or directory, in bytes. -/
def longestName : Nat := 255

/-- The longest path, in bytes. -/
def longestPath : Nat := 4095

/-- What stands at a location; the root is always a directory. -/
def entry? (tree : FileTree) (location : Location) : Option FileEntry :=
  if location.isEmpty then some .directory else tree.entries.lookup location

/-- Where a path leads: to an entry, or to a place in a directory where nothing is. -/
structure Place where
  location : Location
  entry : Option FileEntry
  deriving Repr

/-- Follows one part of a path. -/
def follow (tree : FileTree) (place : Place) (part : String) : Except FileError Place :=
  match place.entry with
  | none => .error .notFound
  | some (.file _) => .error .notDirectory
  | some .directory =>
    if part == "" || part == "." then .ok place
    else if part == ".." then .ok ⟨place.location.dropLast, some .directory⟩
    else if longestName < part.utf8ByteSize then .error .nameTooLong
    else
      let location := place.location ++ [part]
      match tree.faults.reach location with
      | some e => .error e
      | none => .ok ⟨location, tree.entry? location⟩

/-- Where a path leads. -/
def find (tree : FileTree) (path : String) : Except FileError Place :=
  if path.toList.contains '\x00' then .error .invalidName
  else if path.isEmpty then .error .notFound
  else if longestPath < path.utf8ByteSize then .error .nameTooLong
  else
    let start := if Path.isAbsolute path then [] else tree.working
    (Text.split path '/').foldlM tree.follow ⟨start, some .directory⟩

/-! ### Looking -/

/-- The entry that a path leads to. -/
def lookup (tree : FileTree) (path : String) : Except FileError (Location × FileEntry) := do
  let place ← tree.find path
  match place.entry with
  | some entry => .ok (place.location, entry)
  | none => .error .notFound

/-- Whether a path leads to an entry. -/
def pathExists (tree : FileTree) (path : String) : Bool := (tree.lookup path).isOk

/-- Whether a path leads to a directory. -/
def isDirectory (tree : FileTree) (path : String) : Bool :=
  match tree.lookup path with
  | .ok (_, .directory) => true
  | _ => false

/-- Whether a path leads to a file. -/
def isFile (tree : FileTree) (path : String) : Bool :=
  match tree.lookup path with
  | .ok (_, .file _) => true
  | _ => false

/-- What is read at a place, unless the system refuses to read there. -/
def reading {α : Type} (tree : FileTree) (location : Location) (result : Except FileError α) :
    Except FileError α :=
  match tree.faults.read location with
  | some e => .error e
  | none => result

/-- The text of the file that a path leads to. -/
def readText (tree : FileTree) (path : String) : Except FileError String := do
  let (location, entry) ← tree.lookup path
  tree.reading location <|
    match entry with
    | .directory => .error .isDirectory
    | .file (.binary _) => .error .invalidText
    | .file (.text text) => .ok text

/-- The name of an entry that lies in a directory. -/
def nameIn? (directory location : Location) : Option String :=
  if location.dropLast = directory then location.getLast? else none

/-- The names in the directory that a path leads to. -/
def names (tree : FileTree) (path : String) : Except FileError (List String) := do
  match ← tree.lookup path with
  | (location, .directory) =>
    tree.reading location (.ok (tree.entries.filterMap fun e => nameIn? location e.1))
  | (_, .file _) => .error .notDirectory

/-! ### Changing -/

/-- The tree with an entry at a location. -/
def set (tree : FileTree) (location : Location) (entry : FileEntry) : FileTree :=
  { tree with entries := (tree.entries.filter fun e => e.1 != location) ++ [(location, entry)] }

/-- The path without the slashes at its end. -/
def withoutSlashes (path : String) : String :=
  String.ofList (path.toList.reverse.dropWhile (· == '/')).reverse

/-- The place of the file that is opened to be written at a path; the directory it is in has to
exist. -/
def openPlace (tree : FileTree) (path : String) : Except FileError Location := do
  let stripped := withoutSlashes path
  let place ← tree.find (if stripped.isEmpty then path else stripped)
  if stripped ≠ path then .error .isDirectory
  else
    match place.entry, tree.faults.make place.location with
    | some .directory, _ => .error .isDirectory
    | _, some e => .error e
    | _, none => .ok place.location

/-- Puts a content into a file.  If there is too little room, the part that there is room for stands
in the file afterwards. -/
def fill (tree : FileTree) (location : Location) (content : Content) :
    Except FileError Unit × FileTree :=
  match tree.faults.room location with
  | none => (.ok (), tree.set location (.file content))
  | some (n, e) =>
    if content.size ≤ n then (.ok (), tree.set location (.file content))
    else (.error e, tree.set location (.file (content.take n)))

/-- Writes a file, which is made if it is missing. -/
def write (tree : FileTree) (path : String) (content : Content) :
    Except FileError Unit × FileTree :=
  match tree.openPlace path with
  | .error e => (.error e, tree)
  | .ok location => tree.fill location content

/-- Makes a directory; the directory it is in has to exist. -/
def makeDirectory (tree : FileTree) (path : String) : Except FileError FileTree := do
  let stripped := withoutSlashes path
  let place ← tree.find (if stripped.isEmpty then path else stripped)
  match place.entry, tree.faults.make place.location with
  | some _, _ => .error .alreadyExists
  | none, some e => .error e
  | none, none => .ok (tree.set place.location .directory)

/-- Makes a directory and those around it that are missing; `fuel` bounds their number.  What has
been made stays when a later step fails. -/
def makeDirectoriesFrom : (fuel : Nat) → FileTree → (path : String) →
    Except FileError Unit × FileTree
  | 0, tree, _ => (.error .notFound, tree)
  | fuel + 1, tree, path =>
    if path.isEmpty then (.ok (), tree)
    else
      match tree.makeDirectory path with
      | .ok tree => (.ok (), tree)
      | .error .notFound =>
        match makeDirectoriesFrom fuel tree ((Path.parent? path).getD "") with
        | (.error e, tree) => (.error e, tree)
        | (.ok (), tree) =>
          match tree.makeDirectory path with
          | .ok tree => (.ok (), tree)
          | .error e => if tree.isDirectory path then (.ok (), tree) else (.error e, tree)
      | .error e => if tree.isDirectory path then (.ok (), tree) else (.error e, tree)

/-- Makes a directory and those around it that are missing. -/
def makeDirectories (tree : FileTree) (path : String) : Except FileError Unit × FileTree :=
  makeDirectoriesFrom (path.length + 2) tree path

/-- Removes the file or the directory, with all that is in it, that a path leads to. -/
def remove (tree : FileTree) (path : String) : Except FileError FileTree := do
  let (location, _) ← tree.lookup path
  .ok { tree with entries := tree.entries.filter fun e => !location.isPrefixOf e.1 }

/-- Puts an entry at a relative path, with the directories around it. -/
def place (tree : FileTree) (path : String) (entry : FileEntry) : FileTree :=
  match entry with
  | .directory => (tree.makeDirectories path).2
  | .file content =>
    let tree := (tree.makeDirectories ((Path.parent? path).getD "")).2
    (tree.write path content).2

/-! ### Comparing -/

/-- The path of a location relative to a directory, if it lies in it. -/
def relative? (directory location : Location) : Option String :=
  if directory.isPrefixOf location && directory.length < location.length then
    some (Text.joinWith "/" (location.drop directory.length))
  else none

/-- The entries that are not the same in an earlier tree. -/
def changes (tree earlier : FileTree) : List (Location × FileEntry) :=
  tree.entries.filter fun (location, entry) => earlier.entry? location != some entry

/-- The changed entries inside the working directory, with their relative paths. -/
def changedSince (tree earlier : FileTree) : List (String × FileEntry) :=
  (tree.changes earlier).filterMap fun (location, entry) =>
    (relative? tree.working location).map fun path => (path, entry)

end FileTree
end SchemaMigration
