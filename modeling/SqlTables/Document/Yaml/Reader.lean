import SqlTables.Document.Yaml.Node
import SqlTables.Document.Yaml.Number

/-!
# Reading YAML

The value of a YAML text.  A mapping may take over the entries of others through merge keys: these
come first, and its own entries override them.

Values are built level by level: scalars when the collection around them is built, collections only
after all of the level above.  The first fault in this order is the fault of the text.
-/

set_option autoImplicit false

namespace SqlTables.Document.Yaml

/-- The front of the tags that have a meaning everywhere. -/
def commonFront : String := "tag:yaml.org,2002:"

/-- The name of the kind that a full tag says. -/
def tagKindName (t : String) : String :=
  if t.startsWith commonFront then (t.drop commonFront.length).toString else "!" ++ t

/-- The name of the kind that a tag gives a scalar. -/
def scalarKindName (tag : Tag) (text : String) : String :=
  match tag with
  | .implicit => (ScalarKind.ofText text).name
  | .usual => ScalarKind.text.name
  | .named t => tagKindName t

/-- The name of the kind that a tag gives a collection. -/
def collectionKindName (usual : String) (tag : Tag) : String :=
  match tag with
  | .implicit | .usual => usual
  | .named t => tagKindName t

/-- The name of the kind of a node. -/
def kindName : Node → String
  | .scalar tag text => scalarKindName tag text
  | .sequence tag _ => collectionKindName "seq" tag
  | .mapping tag _ => collectionKindName "map" tag
  | .again isMapping => if isMapping then "map" else "seq"

/-- The six bits that a character stands for in bytes written as text. -/
def sixBits? (c : Char) : Option Nat :=
  let n := c.toNat
  if 0x41 ≤ n && n ≤ 0x5A then some (n - 0x41)
  else if 0x61 ≤ n && n ≤ 0x7A then some (n - 0x61 + 26)
  else if c.isDigit then some (n - 0x30 + 52)
  else if c == '+' then some 62
  else if c == '/' then some 63
  else none

/-- The bytes of characters of six bits each, after so many of a group of four with the bits
`held` left over; `pads` counts the signs that fill up the last group.  Other characters do not
count. -/
def bytesOf : Nat → Nat → Nat → List Char → Except ReadError (List UInt8)
  | place, _, _, [] => if place = 0 then .ok [] else .error .malformed
  | place, held, pads, c :: rest =>
    if c == '=' then
      if 2 ≤ place ∧ 4 ≤ place + (pads + 1) then .ok [] else bytesOf place held (pads + 1) rest
    else match sixBits? c with
      | none => bytesOf place held pads rest
      | some n =>
        match place with
        | 0 => bytesOf 1 n 0 rest
        | 1 => do return UInt8.ofNat (held * 4 + n / 16) :: (← bytesOf 2 (n % 16) 0 rest)
        | 2 => do return UInt8.ofNat (held * 16 + n / 4) :: (← bytesOf 3 (n % 4) 0 rest)
        | _ => do return UInt8.ofNat (held * 64 + n) :: (← bytesOf 0 0 0 rest)

/-! ## Scalars -/

/-- The value of a text of a kind. -/
def scalarValue (kind : String) (text : String) : Except ReadError Value :=
  match kind with
  | "null" => .ok .null
  | "bool" =>
    let small := Text.lowered text
    if small = "yes" ∨ small = "true" ∨ small = "on" then .ok (.bool true)
    else if small = "no" ∨ small = "false" ∨ small = "off" then .ok (.bool false)
    else .error (.notTruth small)
  | "int" => Value.int <$> intOf text
  | "float" => Value.float <$> floatOf text
  | "binary" =>
    if text.toList.all (·.toNat < 0x80) then Value.bytes <$> bytesOf 0 0 0 text.toList
    else .error .malformed
  | "timestamp" =>
    match Stamp.parse? (withoutLastFeed text.toList) with
    | some s => s.toValue.mapError .notInCalendar
    | none => .error .notStamp
  | "str" => .ok (.text text)
  | _ => .error .malformed

/-- The empty collection of a kind, if there are collections of it. -/
def emptyCollection? : String → Option Value
  | "seq" | "omap" | "pairs" => some (.list [])
  | "map" => some (.map [])
  | "set" => some (.set [])
  | _ => none

/-- Whether a value can be a key. -/
def isKey : Value → Bool
  | .list _ | .map _ | .set _ | .again _ => false
  | _ => true

/-! ## Parts of collections -/

/-- A node as a part of a collection. -/
structure Part where
  value : Value
  /-- The fault that shows when the collection is built. -/
  fault : Option ReadError := none
  /-- The faults that show later, level by level. -/
  later : List (List ReadError) := []
  /-- Whether the value is the undefined number without being its name, so that it is the same key
  as no other. -/
  isLone : Bool := false
deriving Repr, Inhabited

namespace Part

/-- The part that is a fault. -/
def ofFault (e : ReadError) : Part := { value := .null, fault := some e }

/-- The part with a value, or with a fault. -/
def ofScalar (r : Except ReadError Value) (isNamed : Bool) : Part :=
  match r with
  | .ok (.float x) => { value := .float x, isLone := x.isNaN && !isNamed }
  | .ok v => { value := v }
  | .error e => .ofFault e

/-- The part that is a text of a kind. -/
def ofText (kind text : String) : Part :=
  match emptyCollection? kind with
  | some v => { value := v, later := [[.malformed]] }
  | none => ofScalar (scalarValue kind text) (namesUndefined text)

/-- Two lists of levels as one. -/
def besides {α : Type} : List (List α) → List (List α) → List (List α)
  | [], right => right
  | left, [] => left
  | a :: left, b :: right => (a ++ b) :: besides left right

/-- What shows after a collection of some parts is built. -/
def laterOf (parts : List Part) : List (List ReadError) := parts.foldr (fun p l => besides p.later l) []

/-- The part that is a collection with a value, faults that show as it is built, and parts. -/
def collection (v : Value) (faults : List ReadError) (parts : List Part) : Part :=
  { value := v, later := faults :: laterOf parts }

end Part

/-- An entry of a mapping. -/
structure Entry where
  key : Part
  value : Part
deriving Repr, Inhabited

namespace Entry

/-- The faults of an entry, in the order in which they show. -/
def faults (e : Entry) : List ReadError :=
  e.key.fault.toList ++ (if isKey e.key.value then [] else [.malformed]) ++ e.value.fault.toList

/-- The parts of entries. -/
def parts (entries : List Entry) : List Part := entries.flatMap fun e => [e.key, e.value]

/-- Whether the keys of two entries are the same. -/
def sameKey (a b : Entry) : Bool :=
  !a.key.isLone && !b.key.isLone && Value.sameKey a.key.value b.key.value

/-- Entries with one more, which gives its value to one with the same key. -/
def insert (e : Entry) : List Entry → List Entry
  | [] => [e]
  | f :: rest => if sameKey e f then { f with value := e.value } :: rest else f :: insert e rest

/-- The entries of a mapping, each key once. -/
def collect (entries : List Entry) : List (Value × Value) :=
  (entries.foldl (fun earlier e => insert e earlier) []).map fun e => (e.key.value, e.value.value)

end Entry

/-! ## Nodes -/

/-- What a node gives. -/
structure Built where
  part : Part
  /-- The text that a scalar is, or a mapping that says one. -/
  text : Option String := none
  /-- The entries of a mapping, with those that it takes over. -/
  entries : Option (List Entry) := none
  /-- The entries of each item of a sequence of mappings. -/
  itemEntries : Option (List (List Entry)) := none
  /-- The only entry of a mapping as it is written. -/
  pair : Option Entry := none
deriving Repr, Inhabited

namespace Built

/-- The entries that a node lends to a mapping: its own, or those of the mappings of a sequence, the
earlier ones overriding the later. -/
def lent (b : Built) : Option (List Entry) :=
  b.entries.or (b.itemEntries.map fun items => items.reverse.flatten)

/-- The node that is a text. -/
def ofText (kind text : String) : Built := { part := .ofText kind text, text := some text }

/-- The pairs of a sequence of mappings of one entry each, up to the first item that is none, and
whether all are. -/
def pairsOf : List Built → List Entry × Bool
  | [] => ([], true)
  | b :: rest =>
    match b.pair with
    | some e => let (more, all) := pairsOf rest; (e :: more, all)
    | none => ([], false)

/-- The sequence of a kind with some items. -/
def ofItems (kind : String) (items : List Built) : Built where
  part := match kind with
    | "seq" =>
      let parts := items.map (·.part)
      .collection (.list (parts.map (·.value))) (parts.filterMap (·.fault)) parts
    | "omap" | "pairs" =>
      let (pairs, all) := pairsOf items
      let faults := pairs.flatMap fun e => e.key.fault.toList ++ e.value.fault.toList
      .collection (.list (pairs.map fun e => .tuple [e.key.value, e.value.value]))
        (faults ++ if all then [] else [.malformed]) (Entry.parts pairs)
    | _ => match emptyCollection? kind with
      | some v => .collection v [.malformed] []
      | none => .ofFault .malformed
  itemEntries := items.mapM (·.entries)

/-- What a mapping of a kind is as a part, with all its entries. -/
def mappingPart (kind : String) (entries : List Entry) : Part :=
  let value := Entry.collect entries
  let faults := entries.flatMap Entry.faults
  match kind with
  | "map" => .collection (.map value) faults (Entry.parts entries)
  | "set" => .collection (.set (value.map (·.1))) faults (Entry.parts entries)
  | _ => match emptyCollection? kind with
    | some v => .collection v [.malformed] []
    | none => .ofFault .malformed

end Built

/-- An entry of a mapping as it is written: the kind of its key, and what key and value give. -/
structure WrittenEntry where
  kind : String
  key : Built
  value : Built
deriving Repr

namespace WrittenEntry

/-- An entry by itself. -/
def entry (w : WrittenEntry) : Entry := ⟨w.key.part, w.value.part⟩

/-- What a node is as a text, whatever its tag. -/
def asText (b : Built) : Part :=
  match b.text with
  | some t => { value := .text t }
  | none => .ofFault .malformed

/-- The entries that are taken over from other mappings, unless there are none to take. -/
def merged (ws : List WrittenEntry) : Option (List Entry) :=
  List.flatten <$> (ws.filter (·.kind = "merge")).mapM (·.value.lent)

/-- The entries of a mapping's own.  The key for the value of the whole mapping is a text. -/
def own (ws : List WrittenEntry) : List Entry :=
  (ws.filter (·.kind ≠ "merge")).map fun w =>
    if w.kind = "value" then ⟨asText w.key, w.value.part⟩ else w.entry

/-- The text that a mapping says instead of a scalar, under the key for its value. -/
def text? (ws : List WrittenEntry) : Option String :=
  (ws.find? (·.kind = "value")).bind (·.value.text)

/-- The mapping of a kind with some entries.  A kind of scalars takes the text that it says. -/
def mapping (kind : String) (ws : List WrittenEntry) : Built :=
  let entries := (merged ws).map (· ++ own ws)
  let pair := match ws with
    | [w] => some w.entry
    | _ => none
  let part : Part :=
    match emptyCollection? kind, text? ws, entries with
    | none, some t, _ => .ofText kind t
    | _, _, some es => Built.mappingPart kind es
    | some v, _, none => .collection v [.malformed] []
    | none, none, none => .ofFault .malformed
  { part, text := text? ws, entries, pair }

end WrittenEntry

namespace Node

/-- What a node gives. -/
def build : Node → Built
  | scalar tag text => .ofText (scalarKindName tag text) text
  | sequence tag items => .ofItems (collectionKindName "seq" tag) (buildItems items)
  | mapping tag entries => WrittenEntry.mapping (collectionKindName "map" tag) (buildEntries entries)
  | again isMapping =>
    { part := { value := .again isMapping }
      entries := if isMapping then some [] else none
      itemEntries := if isMapping then none else some [] }
where
  /-- The items of a sequence. -/
  buildItems : List Node → List Built
  | [] => []
  | n :: rest => build n :: buildItems rest
  /-- The entries of a mapping. -/
  buildEntries : List (Node × Node) → List WrittenEntry
  | [] => []
  | (k, v) :: rest => ⟨kindName k, build k, build v⟩ :: buildEntries rest

end Node

/-- The value of a part that is a whole document, unless there is a fault. -/
def Part.whole (p : Part) : Except ReadError Value :=
  match p.fault.toList ++ p.later.flatten with
  | [] => .ok p.value
  | e :: _ => .error e

/-- The value of a YAML text; a text without a document is null. -/
def read [Text.Repertoire] (text : String) : Except ReadError Value := do
  match ← Node.ofText text with
  | none => return .null
  | some node => node.build.part.whole

end SqlTables.Document.Yaml
