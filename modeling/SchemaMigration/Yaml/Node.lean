import SchemaMigration.Yaml.Tokens

/-!
# Nodes of a YAML document

The tree of a document, with tags resolved and names of anchors replaced by numbers.
`Source.ofText` reads a text.  A fault in the text does not make the tree useless: it stands in the
tree as `Node.broken`, at the place where it strikes, so that a reader of the tree that finds a
fault of its own before that place can report that one.
-/

namespace SchemaMigration.Yaml

/-! ### Trees -/

/-- What may stand before a node. -/
structure Properties where
  /-- the number of the node's anchor -/
  anchor : Option Nat := none
  /-- the tag with its handle expanded -/
  tag : Option Tag := none
  deriving DecidableEq, Repr, Inhabited

/-- A node of a document. -/
inductive Node where
  /-- a fault in the text -/
  | broken
  | alias (anchor : Nat)
  | scalar (properties : Properties) (plain : Bool) (text : String)
  | sequence (properties : Properties) (items : List Node)
  | mapping (properties : Properties) (entries : List (Node × Node))
  deriving Repr, Inhabited

/-- The node that stands where a node is left out. -/
def Node.empty : Node := .scalar {} true ""

/-- The part that a key adds to the path of its value. -/
def Node.pathPart : Node → String
  | .scalar _ _ text => text
  | _ => "?"

/-- A text that has been read. -/
structure Source where
  /-- the document, if the text has any -/
  root : Option Node
  /-- whether nothing but ends of the document follow it -/
  complete : Bool

namespace Node

/-! ### Anchors and tags -/

/-- The anchors of a document so far. -/
structure Anchors where
  /-- the numbers of the names; a later entry for a name stands before an earlier one -/
  numbers : List (String × Nat) := []
  /-- how many different names there are -/
  distinct : Nat := 0

/-- Gives the next number to a name.  A name that is used again gets a new number, but does not
count as another name. -/
def Anchors.add (a : Anchors) (name : String) : Anchors where
  numbers := (name, a.distinct) :: a.numbers
  distinct := if (a.numbers.lookup name).isSome then a.distinct else a.distinct + 1

/-- The handles that every document knows. -/
def standardHandles : List (String × Tag) :=
  [("!", Tag.ofText "!"), ("!!", Tag.ofText "tag:yaml.org,2002:")]

/-- The names before a node, as they stand in the text. -/
structure Names where
  anchor : Option String := none
  tag : Option (String × Tag) := none

/-- Takes an anchor and a tag, in either order, off the front of the tokens. -/
def takeNames : List Token → Names × List Token
  | .anchor a :: .tag h s :: rest => ({ anchor := some a, tag := some (h, s) }, rest)
  | .tag h s :: .anchor a :: rest => ({ anchor := some a, tag := some (h, s) }, rest)
  | .anchor a :: rest => ({ anchor := some a }, rest)
  | .tag h s :: rest => ({ tag := some (h, s) }, rest)
  | rest => ({}, rest)

/-- The full tag for a handle and a suffix; an unknown handle is a fault. -/
def fullTag? (handles : List (String × Tag)) : String × Tag → Option Tag
  | (handle, suffix) =>
    if handle.isEmpty then some suffix
    else (handles.lookup handle).map (· ++ suffix)

/-! ### Reading nodes -/

/-- Where reading stands: the tokens that are left and the anchors so far.  A fault leaves no
tokens. -/
structure Rest where
  tokens : List Token
  anchors : Anchors

/-- The rest after a fault. -/
def Rest.failed (r : Rest) : Rest := { r with tokens := [] }

/-- The rest without its first token. -/
def Rest.tail (r : Rest) : Rest := { r with tokens := r.tokens.tail }

/-- Whether the next token is one of the list. -/
def Rest.atAny (r : Rest) (tokens : List Token) : Bool :=
  r.tokens.head?.any fun t => tokens.contains t

/-- Where a node is read: on a line of its own in a block, as an entry of a block mapping, where a
sequence need not be indented, or between brackets or braces. -/
inductive Context where
  | block
  | entry
  | flow
  deriving DecidableEq

mutual

/-- Reads a node. -/
def read (handles : List (String × Tag)) : (fuel : Nat) → Context → Rest → Node × Rest
  | 0, _, r => (.broken, r.failed)
  | fuel + 1, context, r =>
    match r.tokens with
    | .alias name :: rest =>
      match r.anchors.numbers.lookup name with
      | some n => (.alias n, { r with tokens := rest })
      | none => (.broken, r.failed)
    | tokens =>
      let (names, rest) := takeNames tokens
      match names.tag.map (fullTag? handles) with
      | some none => (.broken, r.failed)
      | tag =>
        let tag := tag.join
        let anchors := match names.anchor with
          | some name => r.anchors.add name
          | none => r.anchors
        let p : Properties := { anchor := names.anchor.map fun _ => r.anchors.distinct, tag }
        let after : Rest := ⟨rest.tail, anchors⟩
        match rest.head? with
        | some (.scalar plain text) =>
          (.scalar p plain text, after)
        | some .flowSequenceStart =>
          let (items, r) := readFlowItems handles fuel true after
          (.sequence p items, r)
        | some .flowMappingStart =>
          let (entries, r) := readFlowEntries handles fuel true after
          (.mapping p entries, r)
        | head =>
          if context = .entry ∧ head = some .blockEntry then
            let (items, r) := readUnindented handles fuel ⟨rest, anchors⟩
            (.sequence p items, r)
          else if context ≠ .flow ∧ head = some .blockSequenceStart then
            let (items, r) := readItems handles fuel after
            (.sequence p items, r)
          else if context ≠ .flow ∧ head = some .blockMappingStart then
            let (entries, r) := readEntries handles fuel after
            (.mapping p entries, r)
          else if head.isSome && (names.anchor.isSome || names.tag.isSome) then
            (.scalar p true "", ⟨rest, anchors⟩)
          else (.broken, r.failed)

/-- Reads a node, or the empty node in front of one of the given tokens. -/
def readUnless (handles : List (String × Tag)) :
    (fuel : Nat) → Context → (ends : List Token) → Rest → Node × Rest
  | 0, _, _, r => (.broken, r.failed)
  | fuel + 1, context, ends, r =>
    if r.atAny ends then (.empty, r) else read handles fuel context r

/-- Reads the items of a block sequence. -/
def readItems (handles : List (String × Tag)) : (fuel : Nat) → Rest → List Node × Rest
  | 0, r => ([.broken], r.failed)
  | fuel + 1, r =>
    match r.tokens.head? with
    | some .blockEntry =>
      let (item, r) := readUnless handles fuel .block [.blockEntry, .blockEnd] r.tail
      let (items, r) := readItems handles fuel r
      (item :: items, r)
    | some .blockEnd => ([], r.tail)
    | _ => ([.broken], r.failed)

/-- Reads the items of a block sequence that is not indented. -/
def readUnindented (handles : List (String × Tag)) : (fuel : Nat) → Rest → List Node × Rest
  | 0, r => ([.broken], r.failed)
  | fuel + 1, r =>
    match r.tokens.head? with
    | some .blockEntry =>
      let (item, r) :=
        readUnless handles fuel .block [.blockEntry, .key, .value, .blockEnd] r.tail
      let (items, r) := readUnindented handles fuel r
      (item :: items, r)
    | some _ => ([], r)
    | none => ([.broken], r.failed)

/-- Reads the entries of a block mapping. -/
def readEntries (handles : List (String × Tag)) :
    (fuel : Nat) → Rest → List (Node × Node) × Rest
  | 0, r => ([(.broken, .broken)], r.failed)
  | fuel + 1, r =>
    match r.tokens.head? with
    | some .key =>
      let ends : List Token := [.key, .value, .blockEnd]
      let (key, r) := readUnless handles fuel .entry ends r.tail
      let (value, r) := readValue handles fuel .entry ends r
      let (entries, r) := readEntries handles fuel r
      ((key, value) :: entries, r)
    | some .blockEnd => ([], r.tail)
    | _ => ([(.broken, .broken)], r.failed)

/-- Reads the value of an entry, which is empty when its indicator is missing. -/
def readValue (handles : List (String × Tag)) :
    (fuel : Nat) → Context → (ends : List Token) → Rest → Node × Rest
  | 0, _, _, r => (.broken, r.failed)
  | fuel + 1, context, ends, r =>
    match r.tokens.head? with
    | some .value => readUnless handles fuel context ends r.tail
    | some _ => (.empty, r)
    | none => (.broken, r)

/-- Reads the items between brackets.  A key among them starts a mapping of one entry. -/
def readFlowItems (handles : List (String × Tag)) :
    (fuel : Nat) → (first : Bool) → Rest → List Node × Rest
  | 0, _, r => ([.broken], r.failed)
  | fuel + 1, first, r =>
    match r.tokens.head? with
    | none => ([.broken], r)
    | some .flowSequenceEnd => ([], r.tail)
    | some token =>
      if !first && token ≠ .flowEntry then ([.broken], r.failed)
      else
        let r := if first then r else r.tail
        match r.tokens.head? with
        | none => ([.broken], r)
        | some .flowSequenceEnd => ([], r.tail)
        | some .key =>
          let ends : List Token := [.flowEntry, .flowSequenceEnd]
          -- a key that is left out takes the token after it along
          let (key, r) :=
            if r.tail.atAny (.value :: ends) then (.empty, r.tail.tail)
            else read handles fuel .flow r.tail
          let (value, r) := readValue handles fuel .flow ends r
          let (items, r) := readFlowItems handles fuel false r
          (.mapping {} [(key, value)] :: items, r)
        | some _ =>
          let (item, r) := read handles fuel .flow r
          let (items, r) := readFlowItems handles fuel false r
          (item :: items, r)

/-- Reads the entries between braces.  A node without a key indicator is a key without a value. -/
def readFlowEntries (handles : List (String × Tag)) :
    (fuel : Nat) → (first : Bool) → Rest → List (Node × Node) × Rest
  | 0, _, r => ([(.broken, .broken)], r.failed)
  | fuel + 1, first, r =>
    match r.tokens.head? with
    | none => ([(.broken, .broken)], r)
    | some .flowMappingEnd => ([], r.tail)
    | some token =>
      if !first && token ≠ .flowEntry then ([(.broken, .broken)], r.failed)
      else
        let r := if first then r else r.tail
        match r.tokens.head? with
        | none => ([(.broken, .broken)], r)
        | some .flowMappingEnd => ([], r.tail)
        | some .key =>
          let ends : List Token := [.flowEntry, .flowMappingEnd]
          let (key, r) := readUnless handles fuel .flow (.value :: ends) r.tail
          let (value, r) := readValue handles fuel .flow ends r
          let (entries, r) := readFlowEntries handles fuel false r
          ((key, value) :: entries, r)
        | some _ =>
          let (key, r) := read handles fuel .flow r
          let value : Node := if r.tokens.isEmpty then .broken else .empty
          let (entries, r) := readFlowEntries handles fuel false r
          ((key, value) :: entries, r)

end

/-! ### Documents -/

/-- Takes the directives off the front of the tokens and gives the handles that they declare. -/
def readDirectives (versions : Nat) (handles : List (String × Tag)) :
    List Token → Option (List (String × Tag) × List Token)
  | .versionDirective major minor :: rest =>
    if versions = 0 ∧ major = 1 ∧ (minor = 1 ∨ minor = 2) then readDirectives 1 handles rest
    else none
  | .tagDirective handle expansion :: rest =>
    if (handles.lookup handle).isSome then none
    else readDirectives versions ((handle, expansion) :: handles) rest
  | rest => some (handles, rest)

/-- Whether a token belongs before or after a document. -/
def isOutside : Token → Bool
  | .versionDirective .. | .tagDirective .. | .documentStart | .documentEnd | .streamEnd => true
  | _ => false

/-- Whether nothing but ends of the document are left. -/
def isComplete : List Token → Bool
  | [.streamEnd] => true
  | .documentEnd :: rest => isComplete rest
  | _ => false

/-- Reads the node of a document and looks at what follows it. -/
def readRoot (handles : List (String × Tag)) (tokens : List Token) : Source :=
  let (root, r) := read (handles ++ standardHandles) (3 * tokens.length + 3) .block ⟨tokens, {}⟩
  { root := some root, complete := isComplete r.tokens }

/-- The source of a faulty text. -/
def faulty : Source := { root := some .broken, complete := false }

end Node

open Node in
/-- Reads the document of a token list. -/
def Source.ofTokens : List Token → Source
  | [.streamStart, .streamEnd] => { root := none, complete := true }
  | .streamStart :: tokens =>
    match tokens with
    | .versionDirective .. :: _ | .tagDirective .. :: _ | .documentStart :: _ =>
      match readDirectives 0 [] tokens with
      | some (handles, .documentStart :: rest) =>
        match rest with
        | [] => faulty
        | next :: _ =>
          if isOutside next then { root := some .empty, complete := isComplete rest }
          else readRoot handles rest
      | _ => faulty
    | _ => readRoot [] tokens
  | _ => faulty

/-- Reads the document of a text. -/
def Source.ofText (text : String) : Source := .ofTokens (Token.listOf text.toList)

end SchemaMigration.Yaml
