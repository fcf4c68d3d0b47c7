import ChannelSerde.Document.Yaml.Token

/-!
# From indentation to brackets

Reading a text for its signs takes two kinds of memory. The columns of the blocks that are open say
when a block ends: as soon as something stands further left. And since a key is known as a key only
when its colon comes, the place where one may have begun is remembered, one for every depth of
brackets; when the colon comes, the sign of the key is put in at that place. A key has to be on one
line with its colon and no more than 1024 characters away from it, or else the place is forgotten;
at the indentation of an open block that is an error, since nothing but a key can stand there.
-/

namespace ChannelSerde.Document.Yaml

/-- **A place where a key may have begun**: how many signs came before it, and where it is. -/
structure Candidate where
  signs : Nat
  place : Cursor
  /-- Nothing but a key can stand here. -/
  required : Bool

/-- The candidate can no longer be a key here. -/
def Candidate.isStale (k : Candidate) (c : Cursor) : Bool :=
  k.place.line != c.line || 1024 < c.index - k.place.index

/-- **What reading remembers.** -/
structure Layout where
  /-- The signs so far. -/
  tokens : Array Token
  /-- The column of the innermost open block, -1 where none is open. -/
  indent : Int
  /-- The columns of the blocks around it, innermost first. -/
  outer : List Int
  /-- The candidate at the present depth of brackets. -/
  candidate : Option Candidate
  /-- The candidates at the depths around it, innermost first; there are as many as brackets are
  open. -/
  waiting : List (Option Candidate)
  /-- A key may begin here. -/
  keyAllowed : Bool
  /-- The place ahead. -/
  cursor : Cursor

/-- A step of reading, which may refuse the document. -/
abbrev LayoutStep := Layout → Except Fault Layout

namespace Layout

/-- The start of a text. -/
def start (text : List Char) : Layout :=
  { tokens := #[], indent := -1, outer := [], candidate := none, waiting := [], keyAllowed := true
    cursor := Cursor.start text }

/-- Brackets are open. -/
def inFlow (s : Layout) : Bool := !s.waiting.isEmpty

/-- One sign more. -/
def push (s : Layout) (t : Token) : Layout := { s with tokens := s.tokens.push t }

/-- Some characters on. -/
def skip (s : Layout) (n : Nat) : Layout := { s with cursor := s.cursor.skip n }

/-- **The blocks that end at a column**: those that stand further right. The fuel is the number of
open blocks. -/
def closeTo (column : Int) : Nat → Layout → Layout
  | 0, s => s
  | fuel + 1, s =>
    if column < s.indent then
      match s.outer with
      | [] => s
      | i :: outer =>
        closeTo column fuel { s with tokens := s.tokens.push .closeBlock, indent := i, outer }
    else s

/-- The blocks that end at a column; inside brackets none does. -/
def close (column : Int) (s : Layout) : Layout :=
  if s.inFlow then s else closeTo column s.outer.length s

/-- A block that begins at a column is opened unless one of that column is open. -/
def opens (s : Layout) (column : Int) : Bool := s.indent < column

/-- The columns with a further open block. -/
def enter (s : Layout) (column : Int) : Layout :=
  { s with indent := column, outer := s.indent :: s.outer }

/-- **No key began at the candidate.** -/
def dropCandidate : LayoutStep := fun s =>
  match s.candidate with
  | some k => if k.required then .error .malformedYaml else .ok { s with candidate := none }
  | none => .ok s

/-- **A key may begin here.** -/
def noteCandidate : LayoutStep := fun s =>
  if s.keyAllowed then do
    let s ← s.dropCandidate
    let required := !s.inFlow && s.indent == s.cursor.column
    return { s with candidate := some ⟨s.tokens.size, s.cursor, required⟩ }
  else .ok s

/-- A candidate where it can still be a key. -/
def freshAt (c : Cursor) : Option Candidate → Except Fault (Option Candidate)
  | some k =>
    if k.isStale c then (if k.required then .error .malformedYaml else .ok none)
    else .ok (some k)
  | none => .ok none

/-- **The candidates that can still be keys.** -/
def dropStale : LayoutStep := fun s => do
  let candidate ← freshAt s.cursor s.candidate
  let waiting ← s.waiting.mapM (freshAt s.cursor)
  return { s with candidate, waiting }

/-- The place of the next sign: after blanks, comments and line ends. Outside brackets a key may
begin on a new line. -/
def toNextSign (fuel : Nat) (s : Layout) : Layout :=
  match fuel with
  | 0 => s
  | fuel + 1 =>
    let c := s.cursor.dropBlanks.dropComment
    match c.takeBreak? with
    | some (_, c) => toNextSign fuel { s with cursor := c, keyAllowed := s.keyAllowed || !s.inFlow }
    | none => { s with cursor := c }

/-! ## The signs -/

/-- A document marker ends every block. -/
def marker (t : Token) : LayoutStep := fun s => do
  let s ← (s.close (-1)).dropCandidate
  return { (s.push t).skip 3 with keyAllowed := false }

/-- A directive ends every block. -/
def directiveLine : LayoutStep := fun s => do
  let s ← (s.close (-1)).dropCandidate
  let (t, c) ← readDirective s.cursor
  return { s.push t with cursor := c, keyAllowed := false }

/-- An opening bracket. -/
def openBracket (t : Token) : LayoutStep := fun s => do
  let s ← s.noteCandidate
  return { (s.push t).skip 1 with
    waiting := s.candidate :: s.waiting, candidate := none, keyAllowed := true }

/-- A closing bracket, which closes something. -/
def closeBracket (t : Token) : LayoutStep := fun s => do
  let s ← s.dropCandidate
  match s.waiting with
  | [] => .error .malformedYaml
  | k :: waiting =>
    return { (s.push t).skip 1 with candidate := k, waiting, keyAllowed := false }

/-- A comma between brackets. -/
def commaSign : LayoutStep := fun s => do
  let s ← s.dropCandidate
  return { (s.push .comma).skip 1 with keyAllowed := true }

/-- A sign that begins an entry of a block, which it opens if need be. -/
def beginEntry (opening : Token) : LayoutStep := fun s =>
  if s.inFlow then .ok s
  else if !s.keyAllowed then .error .malformedYaml
  else if s.opens s.cursor.column then .ok ((s.push opening).enter s.cursor.column)
  else .ok s

/-- The dash of a list item. -/
def dashSign : LayoutStep := fun s => do
  let s ← s.beginEntry .openBlockList
  let s ← s.dropCandidate
  return { (s.push .dash).skip 1 with keyAllowed := true }

/-- The question mark of a key. -/
def keySign : LayoutStep := fun s => do
  let s ← s.beginEntry .openBlockMap
  let s ← s.dropCandidate
  return { (s.push .key).skip 1 with keyAllowed := !s.inFlow }

/-- **The colon of a value.** Where a candidate is at hand it was a key, and its sign is put in,
with that of a mapping if one begins there. -/
def valueSign : LayoutStep := fun s =>
  match s.candidate with
  | some k =>
    let column : Int := k.place.column
    let opening := !s.inFlow && s.opens column
    let inserted := if opening then [Token.openBlockMap, .key] else [.key]
    let tokens := s.tokens.take k.signs ++ inserted.toArray ++ s.tokens.drop k.signs
    let s := { s with tokens, candidate := none, keyAllowed := false }
    let s := if opening then s.enter column else s
    .ok ((s.push .value).skip 1)
  | none => do
    let s ← s.beginEntry .openBlockMap
    return { (s.push .value).skip 1 with keyAllowed := !s.inFlow }

/-- A word that may be or start a key. -/
def word (read : Cursor → Except Fault (Token × Cursor)) : LayoutStep := fun s => do
  let s ← s.noteCandidate
  let (t, c) ← read s.cursor
  return { s.push t with cursor := c, keyAllowed := false }

/-- A scalar under a bar, which is no key. -/
def barScalar (folded : Bool) : LayoutStep := fun s => do
  let s ← s.dropCandidate
  let (text, c) ← blockScalar folded s.indent s.cursor
  return { s.push (.scalar (String.ofList text) false) with cursor := c, keyAllowed := true }

/-- A scalar without quotes; a key may begin after it if its last gap ended a line. -/
def plainWord : LayoutStep := fun s => do
  let s ← s.noteCandidate
  let (text, after) := plainScalar s.inFlow (s.indent + 1) s.cursor
  return { s.push (.scalar (String.ofList text) true) with
    cursor := after.after, keyAllowed := after.endedLine }

/-- A character at which a plain scalar may start. -/
def startsPlain (inFlow : Bool) (c : Cursor) : Bool :=
  match c.peek with
  | none => false
  | some ch =>
    !(isSpace ch || isBreak ch || "-?:,[]\x7b\x7d#&*!|>'\"%@`".toList.contains ch)
      || (!endsWord (c.peekAt 1) && (ch == '-' || (!inFlow && (ch == '?' || ch == ':'))))

/-- **The sign ahead**, given its first character. -/
def sign (ch : Char) : LayoutStep := fun s =>
  let c := s.cursor
  let alone := endsWord (c.peekAt 1)
  if ch == '%' && c.column == 0 then s.directiveLine
  else if ch == '-' && c.column == 0 && c.atMarker '-' then s.marker .documentStart
  else if ch == '.' && c.column == 0 && c.atMarker '.' then s.marker .documentEnd
  else if ch == '[' then s.openBracket .openList
  else if ch == '{' then s.openBracket .openMap
  else if ch == ']' then s.closeBracket .closeList
  else if ch == '}' then s.closeBracket .closeMap
  else if ch == ',' then s.commaSign
  else if ch == '-' && alone then s.dashSign
  else if ch == '?' && (s.inFlow || alone) then s.keySign
  else if ch == ':' && (s.inFlow || alone) then s.valueSign
  else if ch == '*' then s.word fun c => do let (n, c) ← readName c; return (.reference n, c)
  else if ch == '&' then s.word fun c => do let (n, c) ← readName c; return (.anchor n, c)
  else if ch == '!' then s.word readTag
  else if ch == '|' && !s.inFlow then s.barScalar false
  else if ch == '>' && !s.inFlow then s.barScalar true
  else if ch == '\'' || ch == '"' then
    s.word fun c => do
      let (text, c) ← quotedScalar (ch == '"') c
      return (.scalar (String.ofList text) false, c)
  else if startsPlain s.inFlow c then s.plainWord
  else .error .malformedYaml

/-- **All signs from a place on.** The fuel is the number of characters ahead, of which every sign
uses up one. -/
def readAll : Nat → LayoutStep
  | 0, _ => .error .malformedYaml
  | fuel + 1, s => do
    let s := s.toNextSign (s.cursor.rest.length + 1)
    let s ← s.dropStale
    let s := s.close s.cursor.column
    match s.cursor.peek with
    | none => (s.close (-1)).dropCandidate
    | some ch => readAll fuel (← s.sign ch)

end Layout

/-- A character that a document may hold. -/
def isDocumentChar (c : Char) : Bool :=
  let n := c.toNat
  n == 0x9 || n == 0xA || n == 0xD || (0x20 ≤ n && n ≤ 0x7E) || n == 0x85
    || (0xA0 ≤ n && n ≤ 0xD7FF) || (0xE000 ≤ n && n ≤ 0xFFFD) || 0x10000 ≤ n

/-- **The signs of a text**, a byte-order mark at its start left out. -/
def tokens (text : List Char) : Except Fault (List Token) := do
  if !text.all isDocumentChar then .error .malformedYaml
  let body := if text.head? == some '\uFEFF' then text.drop 1 else text
  let s ← (Layout.start body).readAll (body.length + 1)
  return s.tokens.toList

end ChannelSerde.Document.Yaml
