import ChannelSerde.Document.Yaml.Scalar.Block
import ChannelSerde.Document.Yaml.Scalar.Plain
import ChannelSerde.Document.Yaml.Scalar.Quoted

/-!
# Words of a document

The signs that YAML is made of, as data, and the readers of those that are words: directives, anchor
names and tags. Brackets of blocks are not written in the text; indentation stands for them.
-/

namespace ChannelSerde.Document.Yaml

/-- **What a directive says.** -/
inductive Directive where
  | version (major minor : Nat)
  | shorthand (handle start : String)
  | other
  deriving DecidableEq, Repr

/-- **A sign of a document.** -/
inductive Token where
  | directive (d : Directive)
  | documentStart
  | documentEnd
  | openBlockList
  | openBlockMap
  | closeBlock
  | openList
  | closeList
  | openMap
  | closeMap
  | comma
  | dash
  | key
  | value
  | reference (name : String)
  | anchor (name : String)
  /-- A tag: its handle, absent from a verbatim one, and the rest. -/
  | tag (handle : Option String) (rest : String)
  /-- A scalar, and whether it stands without quotes. -/
  | scalar (text : String) (plain : Bool)
  deriving DecidableEq, Repr

/-- A character that a tag may hold. -/
def isTagChar (c : Char) : Bool :=
  c.isAlphanum || "-;/?:@&=+$,_.!~*'()[]%".toList.contains c

/-- The bytes of the escapes ahead, each a percent sign and two hexadecimal digits. -/
def escapedBytes (fuel : Nat) (before : List UInt8) (c : Cursor) :
    Except Fault (List UInt8 × Cursor) :=
  match fuel with
  | 0 => .error .malformedYaml
  | fuel + 1 =>
    if c.peek == some '%' then
      match hexNumber? 2 c.next.rest with
      | some n => escapedBytes fuel (before ++ [UInt8.ofNat n]) (c.skip 3)
      | none => .error .malformedYaml
    else .ok (before, c)

/-- The rest of a tag; `before` has been read already. -/
def tagText (fuel : Nat) (before : List Char) (c : Cursor) : Except Fault (List Char × Cursor) :=
  match fuel with
  | 0 => .error .malformedYaml
  | fuel + 1 =>
    match c.peek with
    | none => .ok (before, c)
    | some ch =>
      if ch == '%' then do
        let (bytes, c) ← escapedBytes (c.rest.length + 1) [] c
        match String.fromUTF8? ⟨bytes.toArray⟩ with
        | some s => tagText fuel (before ++ s.toList) c
        | none => .error .malformedYaml
      else if isTagChar ch then tagText fuel (before ++ [ch]) c.next
      else .ok (before, c)

/-- **The text of a tag**, which is not empty. -/
def readTagText (c : Cursor) : Except Fault (String × Cursor) := do
  let (cs, after) ← tagText (c.rest.length + 1) [] c
  if after.index == c.index then .error .malformedYaml else .ok (String.ofList cs, after)

/-- **A tag's handle**: an exclamation mark, or a name between two. -/
def readHandle (c : Cursor) : Except Fault (String × Cursor) :=
  if c.peek != some '!' then .error .malformedYaml
  else if c.peekAt 1 == some ' ' then .ok ("!", c.next)
  else
    let (name, after) := c.next.span isNameChar
    if after.peek == some '!' then .ok (String.ofList ('!' :: name ++ ['!']), after.next)
    else .error .malformedYaml

/-- **A tag**, from its exclamation mark on. -/
def readTag (c : Cursor) : Except Fault (Token × Cursor) := do
  let (token, after) ← (
    if c.peekAt 1 == some '<' then do
      let (text, c) ← readTagText (c.skip 2)
      if c.peek == some '>' then .ok (Token.tag none text, c.next) else .error .malformedYaml
    else if endsWord (c.peekAt 1) then .ok (Token.tag none "!", c.next)
    else do
      let word := c.next.rest.takeWhile fun d => !(endsField (some d))
      let (handle, c) ← if word.contains '!' then readHandle c else .ok ("!", c.next)
      let (text, c) ← readTagText c
      .ok (Token.tag (some handle) text, c))
  if endsField after.peek then .ok (token, after) else .error .malformedYaml

/-- **The name of an anchor or an alias**, from the sign before it on. -/
def readName (c : Cursor) : Except Fault (String × Cursor) :=
  let (name, after) := c.next.span isNameChar
  let ended := endsWord after.peek || after.peek.any "?:,]\x7d%@`".toList.contains
  if name.isEmpty || !ended then .error .malformedYaml else .ok (String.ofList name, after)

/-- The number in the digits ahead. -/
def readDigits (c : Cursor) : Except Fault (Nat × Cursor) :=
  let (ds, after) := c.span Char.isDigit
  if ds.isEmpty then .error .malformedYaml
  else .ok (ds.foldl (fun n d => 10 * n + (d.toNat - '0'.toNat)) 0, after)

/-- **A directive**, from its percent sign to the end of its line. -/
def readDirective (c : Cursor) : Except Fault (Token × Cursor) := do
  let (name, c) := c.next.span isNameChar
  if name.isEmpty || !endsField c.peek then .error .malformedYaml
  let (directive, c) ← (
    if name == "YAML".toList then do
      let (major, c) ← readDigits c.dropBlanks
      if c.peek != some '.' then .error .malformedYaml
      let (minor, c) ← readDigits c.next
      if !endsField c.peek then .error .malformedYaml
      .ok (Directive.version major minor, c)
    else if name == "TAG".toList then do
      let (handle, c) ← readHandle c.dropBlanks
      if c.peek != some ' ' then .error .malformedYaml
      let (start, c) ← readTagText c.dropBlanks
      if !endsField c.peek then .error .malformedYaml
      .ok (Directive.shorthand handle start, c)
    else .ok (Directive.other, c.dropWhile (!isBreak ·)))
  let c ← emptyRest c
  return (.directive directive, c)

end ChannelSerde.Document.Yaml
