import ChannelSerde.Document.Fault
import ChannelSerde.Document.Yaml.Tag
import ChannelSerde.Document.Yaml.Token
import ChannelSerde.OrderedMap

/-!
# Nodes of a document

The signs of a document form a tree: scalars, lists and mappings, each of a kind. An anchor names a
node for the rest of the document, and an alias stands for the node so named. A name may be given
once only. An alias inside the node that it names would make an endless tree, and is kept as such.

A list may follow its key without being indented; it then has dashes but no brackets of its own.
-/

namespace ChannelSerde.Document.Yaml

/-- **A node.** -/
inductive Node where
  | scalar (kind : Kind) (text : String)
  | list (kind : Kind) (items : List Node)
  | map (kind : Kind) (entries : List (Node × Node))
  /-- The node around this place, once more. -/
  | around
  deriving Repr

instance : Inhabited Node := ⟨.around⟩

/-- **What reading nodes remembers**: the signs ahead, the handles of tags, and the named nodes, of
which those still being read have no value. -/
structure Reading where
  ahead : List Token
  handles : List (String × String)
  anchors : List (String × Option Node)

/-- A reader of a part of the tree. -/
abbrev Reader (α : Type) := Reading → Except Fault (α × Reading)

namespace Reading

/-- The sign ahead. -/
def peek (r : Reading) : Option Token := r.ahead.head?

/-- One sign on. -/
def next (r : Reading) : Reading := { r with ahead := r.ahead.drop 1 }

/-- One of the signs is ahead. -/
def at? (r : Reading) (ts : List Token) : Bool := r.peek.any ts.contains

/-- A name is given to a node that is being read. -/
def beginAnchor (r : Reading) : Option String → Except Fault Reading
  | none => .ok r
  | some name =>
    if (lookupEntry name r.anchors).isSome then .error .malformedYaml
    else .ok { r with anchors := putEntry name none r.anchors }

/-- A node that has been read is what its name stands for. -/
def endAnchor (r : Reading) (name : Option String) (n : Node) : Reading :=
  match name with
  | none => r
  | some name => { r with anchors := putEntry name (some n) r.anchors }

/-- The node of an alias. -/
def named (r : Reading) (name : String) : Except Fault Node :=
  match lookupEntry name r.anchors with
  | none => .error .malformedYaml
  | some none => .ok .around
  | some (some n) => .ok n

end Reading

/-- The node where nothing stands. -/
def emptyNode : Node := .scalar .null ""

/-- **What stands before a node**: a name and a tag, in either order. -/
structure Properties where
  anchor : Option String
  tag : Option (Option String × String)

/-- The properties ahead. -/
def readProperties (r : Reading) : Properties × Reading :=
  match r.ahead with
  | .anchor a :: .tag h t :: rest => (⟨some a, some (h, t)⟩, { r with ahead := rest })
  | .tag h t :: .anchor a :: rest => (⟨some a, some (h, t)⟩, { r with ahead := rest })
  | .anchor a :: rest => (⟨some a, none⟩, { r with ahead := rest })
  | .tag h t :: rest => (⟨none, some (h, t)⟩, { r with ahead := rest })
  | _ => (⟨none, none⟩, r)

/-- **A tag in full**, its handle replaced by what it stands for. The lone exclamation mark is no
tag. -/
def fullTag (r : Reading) : Option (Option String × String) → Except Fault (Option String)
  | none => .ok none
  | some (none, rest) => .ok (some rest)
  | some (some handle, rest) =>
    match lookupEntry handle r.handles with
    | some start => .ok (some (start ++ rest))
    | none => .error .malformedYaml

/-- The kind of a collection under a tag. -/
def collectionKind (plain : Kind) : Option String → Kind
  | none => plain
  | some "!" => plain
  | some tag => kindOfTag tag

/-- **The kind of a scalar under a tag.** The lone exclamation mark makes it plain. -/
def scalarKind (text : String) (plain : Bool) : Option String → Kind
  | none => if plain then kindOfPlain text else .text
  | some "!" => kindOfPlain text
  | some tag => kindOfTag tag

/-- The signs after which a key or a value of a block is empty. -/
def blockEntryEnds : List Token := [.key, .value, .closeBlock]

mutual

/-- **A node.** Blocks may stand in blocks only, and a list without brackets only where a key's
value may. -/
def readNode (inBlock bareList : Bool) : Nat → Reader Node
  | 0, _ => .error .malformedYaml
  | fuel + 1, r =>
    match r.peek with
    | some (.reference name) => do return (← r.named name, r.next)
    | _ => do
      let (p, r) := readProperties r
      let tag ← fullTag r p.tag
      let finish (n : Node) (r : Reading) : Except Fault (Node × Reading) :=
        .ok (n, r.endAnchor p.anchor n)
      let listKind := collectionKind .list tag
      let mapKind := collectionKind .map tag
      if bareList && r.at? [.dash] then do
        let r ← r.beginAnchor p.anchor
        let (items, r) ← readBareItems fuel r
        finish (.list listKind items) r
      else match r.peek with
        | some (.scalar text plain) => do
          let r ← r.beginAnchor p.anchor
          finish (.scalar (scalarKind text plain tag) text) r.next
        | some .openList => do
          let r ← r.beginAnchor p.anchor
          let (items, r) ← readItems true fuel r.next
          finish (.list listKind items) r
        | some .openMap => do
          let r ← r.beginAnchor p.anchor
          let (entries, r) ← readEntries true fuel r.next
          finish (.map mapKind entries) r
        | t =>
          if inBlock && t == some .openBlockList then do
            let r ← r.beginAnchor p.anchor
            let (items, r) ← readBlockItems fuel r.next
            finish (.list listKind items) r
          else if inBlock && t == some .openBlockMap then do
            let r ← r.beginAnchor p.anchor
            let (entries, r) ← readBlockEntries fuel r.next
            finish (.map mapKind entries) r
          else if p.anchor.isSome || p.tag.isSome then do
            let r ← r.beginAnchor p.anchor
            finish (.scalar (scalarKind "" tag.isNone tag) "") r
          else .error .malformedYaml

/-- The items of a block list up to its end. -/
def readBlockItems : Nat → Reader (List Node)
  | 0, _ => .error .malformedYaml
  | fuel + 1, r =>
    if r.at? [.closeBlock] then .ok ([], r.next)
    else if r.at? [.dash] then do
      let (item, r) ← if r.next.at? [.dash, .closeBlock] then .ok (emptyNode, r.next)
        else readNode true false fuel r.next
      let (items, r) ← readBlockItems fuel r
      return (item :: items, r)
    else .error .malformedYaml

/-- The items of a list without brackets, which ends where no dash follows. -/
def readBareItems : Nat → Reader (List Node)
  | 0, _ => .error .malformedYaml
  | fuel + 1, r =>
    if r.at? [.dash] then do
      let (item, r) ← if r.next.at? (.dash :: blockEntryEnds) then .ok (emptyNode, r.next)
        else readNode true false fuel r.next
      let (items, r) ← readBareItems fuel r
      return (item :: items, r)
    else .ok ([], r)

/-- The entries of a block mapping up to its end. -/
def readBlockEntries : Nat → Reader (List (Node × Node))
  | 0, _ => .error .malformedYaml
  | fuel + 1, r =>
    if r.at? [.closeBlock] then .ok ([], r.next)
    else if r.at? [.key] then do
      let (k, r) ← if r.next.at? blockEntryEnds then .ok (emptyNode, r.next)
        else readNode true true fuel r.next
      let (v, r) ← if !r.at? [.value] then .ok (emptyNode, r)
        else if r.next.at? blockEntryEnds then .ok (emptyNode, r.next)
        else readNode true true fuel r.next
      let (entries, r) ← readBlockEntries fuel r
      return ((k, v) :: entries, r)
    else .error .malformedYaml

/-- The items of a list in brackets up to its end; a pair by itself is a mapping of one entry. -/
def readItems (first : Bool) : Nat → Reader (List Node)
  | 0, _ => .error .malformedYaml
  | fuel + 1, r =>
    if r.at? [.closeList] then .ok ([], r.next)
    else do
      if !first && !r.at? [.comma] then .error .malformedYaml
      let r := if first then r else r.next
      if r.at? [.closeList] then .ok ([], r.next)
      else if r.at? [.key] then do
        let (k, r) ← if r.next.at? [.value, .comma, .closeList] then .ok (emptyNode, r.next)
          else readNode false false fuel r.next
        let (v, r) ← readFlowValue [.comma, .closeList] fuel r
        let (items, r) ← readItems false fuel r
        return (.map .map [(k, v)] :: items, r)
      else do
        let (item, r) ← readNode false false fuel r
        let (items, r) ← readItems false fuel r
        return (item :: items, r)

/-- The entries of a mapping in braces up to its end; a key may stand alone. -/
def readEntries (first : Bool) : Nat → Reader (List (Node × Node))
  | 0, _ => .error .malformedYaml
  | fuel + 1, r =>
    if r.at? [.closeMap] then .ok ([], r.next)
    else do
      if !first && !r.at? [.comma] then .error .malformedYaml
      let r := if first then r else r.next
      if r.at? [.closeMap] then .ok ([], r.next)
      else if r.at? [.key] then do
        let (k, r) ← if r.next.at? [.value, .comma, .closeMap] then .ok (emptyNode, r.next)
          else readNode false false fuel r.next
        let (v, r) ← readFlowValue [.comma, .closeMap] fuel r
        let (entries, r) ← readEntries false fuel r
        return ((k, v) :: entries, r)
      else do
        let (k, r) ← readNode false false fuel r
        let (entries, r) ← readEntries false fuel r
        return ((k, emptyNode) :: entries, r)

/-- The value of an entry between brackets, which ends at one of the given signs. -/
def readFlowValue (ends : List Token) : Nat → Reader Node
  | 0, _ => .error .malformedYaml
  | fuel + 1, r =>
    if !r.at? [.value] then .ok (emptyNode, r)
    else if r.next.at? ends then .ok (emptyNode, r.next)
    else readNode false false fuel r.next

end

/-! ## The document -/

/-- The handles that need no directive. -/
def standardHandles : List (String × String) := [("!", "!"), ("!!", tagStart)]

/-- The directives ahead: one version at most, whose major number is one, and no handle twice. -/
def readDirectives (version : Bool) (handles : List (String × String)) :
    List Token → Except Fault (List (String × String) × List Token)
  | .directive (.version major _) :: rest =>
    if version || major != 1 then .error .malformedYaml else readDirectives true handles rest
  | .directive (.shorthand h s) :: rest =>
    if (lookupEntry h handles).isSome then .error .malformedYaml
    else readDirectives version (handles ++ [(h, s)]) rest
  | .directive .other :: rest => readDirectives version handles rest
  | ts => .ok (handles ++ standardHandles.filter fun h => (lookupEntry h.1 handles).isNone, ts)

/-- The end of a document: markers, and nothing more. -/
def isEnd : List Token → Bool
  | [] => true
  | .documentEnd :: rest => isEnd rest
  | _ => false

/-- **The root of a document**, none where the text holds no document. There is one document at
most. -/
def readDocument (ts : List Token) : Except Fault (Option Node) := do
  let fuel := 4 * ts.length + 4
  match ts with
  | [] => return none
  | .directive _ :: _ | .documentStart :: _ =>
    let (handles, rest) ← readDirectives false [] ts
    match rest with
    | .documentStart :: rest =>
      let empty := match rest with
        | [] => true
        | .directive _ :: _ | .documentStart :: _ | .documentEnd :: _ => true
        | _ => false
      let (root, r) ← if empty then .ok (emptyNode, ⟨rest, handles, []⟩)
        else readNode true false fuel ⟨rest, handles, []⟩
      if isEnd r.ahead then return some root else .error .malformedYaml
    | _ => .error .malformedYaml
  | _ =>
    let (root, r) ← readNode true false fuel ⟨ts, standardHandles, []⟩
    if isEnd r.ahead then return some root else .error .malformedYaml

end ChannelSerde.Document.Yaml
