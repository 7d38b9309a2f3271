import SchemaMigration.Yaml.Complaint
import SchemaMigration.Yaml.PlainValue

/-!
# Documents from YAML texts

`Document.ofText?` reads a text as one generic value.  It is `none` when the text has a fault or
more than one document, when a mapping has two equal keys, when collections are nested too deeply,
when aliases are followed too often, when an integer is out of range, and when a scalar does not
spell what its tag asks for.
-/

namespace SchemaMigration.Yaml

namespace Node

/-! ### Anchors -/

mutual

/-- The nodes with an anchor in the order in which they start. -/
def anchored : Node → List (Nat × Node)
  | .sequence p items => own p (.sequence p items) ++ anchoredItems items
  | .mapping p entries => own p (.mapping p entries) ++ anchoredEntries entries
  | .scalar p plain text => own p (.scalar p plain text)
  | _ => []
where
  /-- The node itself under its anchor. -/
  own (p : Properties) (node : Node) : List (Nat × Node) :=
    match p.anchor with
    | some n => [(n, node)]
    | none => []

/-- The nodes with an anchor in a list of nodes. -/
def anchoredItems : List Node → List (Nat × Node)
  | [] => []
  | node :: rest => anchored node ++ anchoredItems rest

/-- The nodes with an anchor in a list of entries. -/
def anchoredEntries : List (Node × Node) → List (Nat × Node)
  | [] => []
  | (key, value) :: rest => anchored key ++ anchored value ++ anchoredEntries rest

end

mutual

/-- The number of scalars, aliases, and starts and ends of collections. -/
def size : Node → Nat
  | .sequence _ items => 2 + sizeItems items
  | .mapping _ entries => 2 + sizeEntries entries
  | .broken => 0
  | _ => 1

/-- The size of a list of nodes. -/
def sizeItems : List Node → Nat
  | [] => 0
  | node :: rest => size node + sizeItems rest

/-- The size of a list of entries. -/
def sizeEntries : List (Node × Node) → Nat
  | [] => 0
  | (key, value) :: rest => size key + size value + sizeEntries rest

end

/-- The nodes that aliases stand for; the last node to take a number has it. -/
def targets (root : Node) : List (Nat × Node) := root.anchored.reverse

end Node

/-! ### Tags -/

/-- The first byte of a tag that the author has chosen: an exclamation mark. -/
def ownMark : UInt8 := 33

/-- Whether a tag is one that the author has chosen. -/
def isOwnTag (tag : Tag) : Bool := tag.head? == some ownMark

/-- The name of a tag that the author has chosen, if it spells a text. -/
def ownTag? (tag : Tag) : Option String :=
  match tag with
  | [] => none
  | mark :: name =>
    if mark != ownMark then none
    else if name.isEmpty then some "!"
    else String.fromUTF8? ⟨name.toArray⟩

/-- A collection under its tag; a standard tag does not show. -/
def tagCollection (tag : Option Tag) (d : Document) : Document :=
  match tag.bind ownTag? with
  | some name => .tagged name d
  | none => d

/-! ### Scalars -/

/-- The document of a value that is found; an integer of more than 64 bits is out of range. -/
def ofFound : Found → Except Complaint Document
  | .unit => .ok .null
  | .bool b => .ok (.bool b)
  | .int n => .ok (.number (.int n))
  | .float x => .ok (.number (.float x))
  | .string s => .ok (.string s)
  | .wideInt _ | .sequence | .map => .error .unreadable

/-- The value of a scalar without a tag. -/
def ofUntagged (plain : Bool) (text : String) : Except Complaint Document :=
  if plain then ofFound (PlainValue.read text) else .ok (.string text)

/-- The value of a scalar. -/
def ofScalar (tag : Option Tag) (plain : Bool) (text : String) : Except Complaint Document :=
  match tag with
  | none => ofUntagged plain text
  | some tag =>
    match ownTag? tag with
    | some name => (ofUntagged plain text).map (.tagged name)
    | none =>
      if isOwnTag tag then ofUntagged plain text
      else
        match PlainValue.readTagged tag text with
        | .ok found => ofFound found
        | .error wanted => .error (.here (.wrongText text wanted))

/-! ### Composition -/

/-- What composition refers to: the nodes that aliases stand for, and how many aliases it may
follow. -/
structure Scope where
  targets : List (Nat × Node)
  jumps : Nat

/-- The greatest number of collections that may be nested. -/
def greatestDepth : Nat := 128

/-- A computation that may fail and that counts the aliases it has followed. -/
abbrev Compose := StateT Nat (Except Complaint)

/-- The node that is meant: an alias stands for its target. -/
def Scope.follow (scope : Scope) (node : Node) : Compose Node := do
  match node with
  | .alias n =>
    let jumps := (← get) + 1
    set jumps
    if scope.jumps < jumps then throw .unreadable
    else pure ((scope.targets.lookup n).getD .broken)
  | node => pure node

/-- Composes the entries of a mapping after those given, the last one first; equal keys are a
fault.  A complaint about a key has no path. -/
def composeEntries (compose : Node → Compose Document) :
    (done : List (Document × Document)) → List (Node × Node) → Compose (List (Document × Document))
  | done, [] => pure done.reverse
  | done, (key, value) :: rest => do
    let k ← tryCatch (compose key) fun _ => throw .unreadable
    if done.any fun e => e.1.same k then throw .unreadable
    let v ← tryCatch (compose value) fun complaint => throw (complaint.under key.pathPart)
    composeEntries compose ((k, v) :: done) rest

/-- Composes a node inside collections of which `depth` more may be nested.  A complaint about an
item of a sequence has no path. -/
def compose (scope : Scope) (depth : Nat) (node : Node) : Compose Document := do
  match ← scope.follow node with
  | .broken | .alias _ => throw .unreadable
  | .scalar p plain text => StateT.lift (ofScalar p.tag plain text)
  | .sequence p items =>
    match depth with
    | 0 => throw .unreadable
    | depth + 1 =>
      let items ← tryCatch (items.mapM (compose scope depth)) fun _ => throw .unreadable
      pure (tagCollection p.tag (.sequence items))
  | .mapping p entries =>
    match depth with
    | 0 => throw .unreadable
    | depth + 1 =>
      let entries ← composeEntries (compose scope depth) [] entries
      pure (tagCollection p.tag (.mapping entries))

/-- The generic value of a source, or what is wrong with it. -/
def Source.document (source : Source) : Except Complaint Document :=
  match source.root with
  | none => .ok .null
  | some root => do
    let scope : Scope := { targets := root.targets, jumps := 100 * root.size }
    let (d, _) ← (compose scope greatestDepth root).run 0
    if source.complete then .ok d else .error .unreadable

end Yaml

/-- Reads a YAML text as one document. -/
def Document.ofText? (text : String) : Option Document :=
  (Yaml.Source.ofText text).document.toOption

end SchemaMigration
