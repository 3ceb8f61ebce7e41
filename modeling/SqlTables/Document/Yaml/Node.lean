import SqlTables.Document.Yaml.Token

/-!
# Nodes

The tree of a YAML document: scalars, sequences and mappings with their tags.  An alias is replaced
by the node it stands for; where that is a collection around the alias, only the kind of the
collection is said, so trees are finite.
-/

set_option autoImplicit false

namespace SqlTables.Document.Yaml

/-- What says the kind of a node. -/
inductive Tag where
  /-- The tag is to be told from the text of a plain scalar. -/
  | implicit
  /-- There is no tag, so the kind is the usual one. -/
  | usual
  | named (name : String)
deriving DecidableEq, Repr

/-- A node of a document. -/
inductive Node where
  | scalar (tag : Tag) (text : String)
  | sequence (tag : Tag) (items : List Node)
  | mapping (tag : Tag) (entries : List (Node × Node))
  /-- A collection around this place. -/
  | again (isMapping : Bool)
deriving Repr

/-- The empty scalar, which stands where a node is left out. -/
def Node.empty : Node := .scalar .implicit ""

/-- How far tokens have been read into nodes. -/
structure NodeReader where
  tokens : List Token
  /-- The nodes that aliases may stand for. -/
  anchors : List (String × Node) := []
  /-- What handles of tags stand for. -/
  handles : List (String × String) := []
  /-- How many collections are being read. -/
  depth : Nat := 0
deriving Repr

/-- A step that reads nodes from tokens. -/
abbrev ReadNodes (α : Type) := StateT NodeReader (Except ReadError) α

namespace Node

/-- The next token. -/
def peek : ReadNodes (Option Token) := fun r => .ok (r.tokens.head?, r)

/-- Passes over the next token. -/
def skip : ReadNodes Unit := fun r => .ok ((), { r with tokens := r.tokens.tail })

/-- Refuses what is not a document, for the fault of the text if there is one here. -/
def refuse {α : Type} : ReadNodes α := fun r =>
  match r.tokens.head? with
  | some (.fault e) => .error e
  | _ => .error .malformed

/-- Whether the next token is one of some. -/
def atAny (expected : List Token) : ReadNodes Bool := do
  return (← peek).any expected.contains

/-- Passes over the next token, which must be a given one. -/
def expect (t : Token) : ReadNodes Unit := do
  if ← atAny [t] then skip else refuse

/-- The front that a handle of tags stands for unless a directive says otherwise. -/
def usualHandles : List (String × String) := [("!", "!"), ("!!", "tag:yaml.org,2002:")]

/-- The full name of a tag. -/
def fullTag (t : TagName) : ReadNodes String := fun r =>
  match t.handle with
  | none => .ok (t.suffix, r)
  | some handle =>
    (formed ((r.handles ++ usualHandles).lookup handle)).map fun front => (front ++ t.suffix, r)

/-- The tag before a node, if there is one. -/
def tag? : ReadNodes (Option String) := do
  match ← peek with
  | some (.tag t) => skip; return some (← fullTag t)
  | _ => return none

/-- The anchor before a node, if there is one. -/
def anchor? : ReadNodes (Option String) := do
  match ← peek with
  | some (.anchor name) => skip; return some name
  | _ => return none

/-- The anchor and the tag before a node, in either order. -/
def properties : ReadNodes (Option String × Option String) := do
  match ← anchor? with
  | some a => return (some a, ← tag?)
  | none =>
    let t ← tag?
    return (← anchor?, t)

/-- What an alias stands for inside the node that begins with a token. -/
def inside : Option Token → Node
  | some .flowMappingStart | some .blockMappingStart => .again true
  | some .flowSequenceStart | some .blockSequenceStart | some .blockEntry => .again false
  | _ => .empty

/-- Gives an anchor the node for aliases inside the one that comes next.  An anchor may be given
once. -/
def openAnchor (anchor : Option String) : ReadNodes Unit := fun r =>
  match anchor with
  | none => .ok ((), r)
  | some a =>
    if (r.anchors.lookup a).isSome then .error .malformed
    else .ok ((), { r with anchors := (a, inside r.tokens.head?) :: r.anchors })

/-- Gives an anchor the node that was read under it. -/
def closeAnchor (anchor : Option String) (node : Node) : ReadNodes Node := fun r =>
  match anchor with
  | none => .ok (node, r)
  | some a => .ok (node, { r with anchors := (a, node) :: r.anchors })

/-- The node that an alias stands for. -/
def aliased (name : String) : ReadNodes Node := fun r =>
  (formed (r.anchors.lookup name)).map fun node => (node, r)

/-- How many collections may stand in one another. -/
def mostNested : Nat := 488

/-- Goes into a collection. -/
def descend : ReadNodes Unit := fun r =>
  if mostNested ≤ r.depth then .error (.tooDeep .node)
  else .ok ((), { r with depth := r.depth + 1 })

/-- Comes out of a collection. -/
def ascend : ReadNodes Unit := fun r => .ok ((), { r with depth := r.depth - 1 })

/-- Reads what a collection holds. -/
def nested {α : Type} (x : ReadNodes α) : ReadNodes α := do
  descend
  let a ← x
  ascend
  return a

/-- The tag of a collection, `!` meaning the usual one. -/
def collectionTag (tag : Option String) : Tag :=
  match tag with
  | none | some "!" => .usual
  | some t => .named t

/-- The tag of a scalar: `!` makes any scalar like a plain one. -/
def scalarTag (isPlain : Bool) (tag : Option String) : Tag :=
  match tag with
  | some "!" => .implicit
  | some t => .named t
  | none => if isPlain then .implicit else .usual

mutual

/-- A node.  `inBlock` allows block collections, and `indentless` a sequence that is not indented
further than the key before it. -/
def read (inBlock indentless : Bool) : Nat → ReadNodes Node
  | 0 => refuse
  | fuel + 1 => do
    match ← peek with
    | some (.alias name) => skip; aliased name
    | _ => do
      let (anchor, tag) ← properties
      openAnchor anchor
      let node ←
        match ← peek with
        | some (.scalar text isPlain) => do
          skip
          pure <| Node.scalar (scalarTag isPlain tag) text
        | some .flowSequenceStart => do
          skip
          pure <| Node.sequence (collectionTag tag) (← nested (flowItems true fuel))
        | some .flowMappingStart => do
          skip
          pure <| Node.mapping (collectionTag tag) (← nested (flowEntries true fuel))
        | some .blockSequenceStart =>
          if inBlock then do
            skip
            pure <| Node.sequence (collectionTag tag) (← nested (blockItems fuel))
          else refuse
        | some .blockMappingStart =>
          if inBlock then do
            skip
            pure <| Node.mapping (collectionTag tag) (← nested (blockEntries fuel))
          else refuse
        | some .blockEntry =>
          if indentless then do
            pure <| Node.sequence (collectionTag tag) (← nested (indentlessItems fuel))
          else if anchor.isSome || tag.isSome then pure <| Node.scalar (scalarTag true tag) ""
          else refuse
        | _ =>
          if anchor.isSome || tag.isSome then pure <| Node.scalar (scalarTag true tag) ""
          else refuse
      closeAnchor anchor node

/-- A node, or the empty scalar where one of some tokens comes next. -/
def readUnless (stops : List Token) (inBlock indentless : Bool) : Nat → ReadNodes Node
  | 0 => refuse
  | fuel + 1 => do
    if ← atAny stops then return Node.empty else read inBlock indentless fuel

/-- The items of a block sequence, with its end. -/
def blockItems : Nat → ReadNodes (List Node)
  | 0 => refuse
  | fuel + 1 => do
    if ← atAny [.blockEntry] then
      skip
      let item ← readUnless [.blockEntry, .blockEnd] true false fuel
      return item :: (← blockItems fuel)
    else
      expect .blockEnd
      return []

/-- The items of a sequence that is not indented. -/
def indentlessItems : Nat → ReadNodes (List Node)
  | 0 => refuse
  | fuel + 1 => do
    if ← atAny [.blockEntry] then
      skip
      let item ← readUnless [.blockEntry, .key, .value, .blockEnd] true false fuel
      return item :: (← indentlessItems fuel)
    else return []

/-- The entries of a block mapping, with its end. -/
def blockEntries : Nat → ReadNodes (List (Node × Node))
  | 0 => refuse
  | fuel + 1 => do
    if ← atAny [.key] then
      skip
      let key ← readUnless [.key, .value, .blockEnd] true true fuel
      let value ←
        if ← atAny [.value] then do
          skip
          readUnless [.key, .value, .blockEnd] true true fuel
        else pure Node.empty
      return (key, value) :: (← blockEntries fuel)
    else
      expect .blockEnd
      return []

/-- The value of an entry of a flow collection that `stop` ends; it may be left out. -/
def flowValue (stop : Token) : Nat → ReadNodes Node
  | 0 => refuse
  | fuel + 1 => do
    if ← atAny [.value] then
      skip
      readUnless [.flowEntry, stop] false false fuel
    else return Node.empty

/-- The items of a flow sequence, with its end; all but the first come after a comma. -/
def flowItems (isFirst : Bool) : Nat → ReadNodes (List Node)
  | 0 => refuse
  | fuel + 1 => do
    if ← atAny [.flowSequenceEnd] then
      skip
      return []
    else
      if !isFirst then expect .flowEntry
      if ← atAny [.key] then
        skip
        let key ← readUnless [.value, .flowEntry, .flowSequenceEnd] false false fuel
        let value ← flowValue .flowSequenceEnd fuel
        return Node.mapping .usual [(key, value)] :: (← flowItems false fuel)
      else if ← atAny [.flowSequenceEnd] then
        skip
        return []
      else
        let item ← read false false fuel
        return item :: (← flowItems false fuel)

/-- The entries of a flow mapping, with its end; all but the first come after a comma. -/
def flowEntries (isFirst : Bool) : Nat → ReadNodes (List (Node × Node))
  | 0 => refuse
  | fuel + 1 => do
    if ← atAny [.flowMappingEnd] then
      skip
      return []
    else
      if !isFirst then expect .flowEntry
      if ← atAny [.key] then
        skip
        let key ← readUnless [.value, .flowEntry, .flowMappingEnd] false false fuel
        let value ← flowValue .flowMappingEnd fuel
        return (key, value) :: (← flowEntries false fuel)
      else if ← atAny [.flowMappingEnd] then
        skip
        return []
      else
        let key ← read false false fuel
        return (key, Node.empty) :: (← flowEntries false fuel)

end

/-- The directives before a document: one version at most, which must be of the first kind, and
each handle of tags once. -/
def directives : Nat → Bool → ReadNodes Unit
  | 0, _ => refuse
  | fuel + 1, versioned => do
    match ← peek with
    | some (.directive (.version major _)) =>
      if versioned || major != 1 then refuse else do skip; directives fuel true
    | some (.directive (.handle name front)) => do
      skip
      (fun r =>
        if (r.handles.lookup name).isSome then .error .malformed
        else .ok ((), { r with handles := (name, front) :: r.handles }))
      directives fuel versioned
    | some (.directive .reserved) => do skip; directives fuel versioned
    | _ => return ()

/-- Passes over the marks of the end of a document. -/
def skipEnds : Nat → ReadNodes Unit
  | 0 => return ()
  | fuel + 1 => do if ← atAny [.documentEnd] then do skip; skipEnds fuel

/-- The node of a document that begins here. -/
def document (fuel : Nat) : ReadNodes Node := do
  match ← peek with
  | some (.directive _) | some .documentStart => do
    directives fuel false
    expect .documentStart
    match ← peek with
    | some (.directive _) | some .documentStart | some .documentEnd | some .streamEnd =>
      return Node.empty
    | _ => read true false fuel
  | _ => read true false fuel

/-- The node of a text with one document, or none where there is no document. -/
def stream (fuel : Nat) : ReadNodes (Option Node) := do
  if ← atAny [.streamEnd] then return none
  else
    let node ← document fuel
    skipEnds fuel
    expect .streamEnd
    return some node

/-- The node of the only document of a text; a text may hold none.  A node descends at most three
times for each token. -/
def ofText [Text.Repertoire] (text : String) : Except ReadError (Option Node) := do
  let tokens := Token.scan text
  let (node, _) ← (stream (3 * tokens.length + 3)).run { tokens }
  return node

end Node

end SqlTables.Document.Yaml
