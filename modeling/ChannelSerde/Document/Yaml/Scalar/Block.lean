import ChannelSerde.Document.Fault
import ChannelSerde.Document.Yaml.Cursor

/-!
# Block scalars

A literal scalar keeps its lines, a folded one joins them where neither line starts with a blank. A
header may say how deep the lines are indented and what becomes of the line ends after the last
line: by default one is kept, with a hyphen none, with a plus sign all of them.
-/

namespace ChannelSerde.Document.Yaml

/-- **What becomes of the line ends after the last line.** -/
inductive Chomping where
  | strip
  | clip
  | keep
  deriving DecidableEq, Repr

/-- What a sign in the header says. -/
def chomping? (c : Option Char) : Option Chomping :=
  if c == some '+' then some .keep else if c == some '-' then some .strip else none

/-- The header's depth, which is one digit and not zero. -/
def depth? (c : Cursor) : Except Fault (Option Nat × Cursor) :=
  match c.peek with
  | some ch =>
    if ch == '0' then .error .malformedYaml
    else if ch.isDigit then .ok (some (ch.toNat - '0'.toNat), c.next)
    else .ok (none, c)
  | none => .ok (none, c)

/-- **The header** after its bar: sign and depth in either order. -/
def blockHeader (c : Cursor) : Except Fault ((Chomping × Option Nat) × Cursor) := do
  let (header, c) ← (match chomping? c.peek with
    | some sign => do
      let (depth, c) ← depth? c.next
      .ok ((sign, depth), c)
    | none => do
      let (depth, c) ← depth? c
      match depth, chomping? c.peek with
      | some n, some sign => .ok ((sign, some n), c.next)
      | depth, _ => .ok ((.clip, depth), c))
  if endsField c.peek then .ok (header, c) else .error .malformedYaml

/-- **The rest of a line that says nothing**: blanks, a comment, the line's end. -/
def emptyRest (c : Cursor) : Except Fault Cursor :=
  let c := c.dropBlanks.dropComment
  if endsLine c.peek then .ok ((c.takeBreak?.map (·.2)).getD c) else .error .malformedYaml

/-- The line ends ahead, blanks before them not counted, and the greatest column that blanks
reach. -/
def leadingBreaks (fuel : Nat) (before : List Char) (depth : Nat) (c : Cursor) :
    List Char × Nat × Cursor :=
  match fuel with
  | 0 => (before, depth, c)
  | fuel + 1 =>
    let c := c.dropBlanks
    let depth := max depth c.column
    match c.takeBreak? with
    | some (b, c) => leadingBreaks fuel (before ++ [b]) depth c
    | none => (before, depth, c)

/-- The place after the blanks of an indentation. -/
def dropIndent (indent : Nat) (c : Cursor) : Cursor :=
  c.skip (min (indent - c.column) (c.rest.takeWhile (· == ' ')).length)

/-- The line ends ahead in a scalar of a known indentation. -/
def innerBreaks (fuel : Nat) (indent : Nat) (before : List Char) (c : Cursor) :
    List Char × Cursor :=
  let c := dropIndent indent c
  match fuel with
  | 0 => (before, c)
  | fuel + 1 =>
    match c.takeBreak? with
    | some (b, c) => innerBreaks fuel indent (before ++ [b]) c
    | none => (before, c)

/-- The character starts a word, not a gap. -/
def startsWord (c : Option Char) : Bool :=
  match c with
  | some ch => !isSpace ch
  | none => true

/-- The lines of a block scalar from one of them on: what they say up to the last line, the end of
that line, the line ends after it. What has been said and the line ends since are given; the fuel is
the number of characters ahead. -/
def blockLines (folded : Bool) (indent : Nat) (fuel : Nat) (before breaks : List Char)
    (last : List Char) (c : Cursor) : List Char × List Char × List Char × Cursor :=
  match fuel with
  | 0 => (before, last, breaks, c)
  | fuel + 1 =>
    if c.column == indent && c.peek.isSome then
      let wordFirst := startsWord c.peek
      let (line, c) := c.span (!isBreak ·)
      let said := before ++ breaks ++ line
      let (ending, c) : List Char × Cursor := match c.takeBreak? with
        | some (b, c) => ([b], c)
        | none => ([], c)
      let (breaks, c) := innerBreaks (c.rest.length + 1) indent [] c
      if c.column == indent && c.peek.isSome then
        let joint :=
          if folded && ending == ['\n'] && wordFirst && startsWord c.peek then
            if breaks.isEmpty then [' '] else []
          else ending
        blockLines folded indent fuel (said ++ joint) breaks ending c
      else (said, ending, breaks, c)
    else (before, last, breaks, c)

/-- **A block scalar**, from its bar on, given the indentation of what it stands in. -/
def blockScalar (folded : Bool) (outer : Int) (c : Cursor) : Except Fault (List Char × Cursor) := do
  let ((chomping, depth), c) ← blockHeader c.next
  let c ← emptyRest c
  let least := max (outer + 1) 1
  let (indent, breaks, c) := match depth with
    | none =>
      let (breaks, deepest, c) := leadingBreaks (c.rest.length + 1) [] 0 c
      (max least.toNat deepest, breaks, c)
    | some n =>
      let indent := least.toNat + n - 1
      let (breaks, c) := innerBreaks (c.rest.length + 1) indent [] c
      (indent, breaks, c)
  let (said, ending, breaks, c) := blockLines folded indent (c.rest.length + 1) [] breaks [] c
  return (match chomping with
    | .strip => said
    | .clip => said ++ ending
    | .keep => said ++ ending ++ breaks, c)

end ChannelSerde.Document.Yaml
