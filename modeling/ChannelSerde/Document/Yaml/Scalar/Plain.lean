import ChannelSerde.Document.Yaml.Cursor

/-!
# Plain scalars

A scalar without quotes goes on until something ends it: a colon with a blank behind it, a hash with
a blank before it, a line that is not indented enough, a document marker, and inside brackets also a
comma, a question mark or a bracket. Its line ends are folded as in quoted scalars. Only blanks may
stand between its words, so a tab after a word is left over.
-/

namespace ChannelSerde.Document.Yaml

/-- **A run of characters without a gap**, given whether brackets are open. -/
def plainRun (inFlow : Bool) : List Char → List Char
  | [] => []
  | ch :: rest =>
    if isSpace ch || isBreak ch then []
    else if inFlow && ",?[]\x7b\x7d".toList.contains ch then []
    else if ch == ':' && (endsWord rest.head?
        || (inFlow && rest.head?.any ",[]\x7b\x7d".toList.contains)) then []
    else ch :: plainRun inFlow rest

/-- **The gap after a run**: the text it counts as, the place after it, and whether a line ended in
it. -/
structure Gap where
  text : List Char
  after : Cursor
  endedLine : Bool

/-- The line ends in a gap after the first; nothing when a document marker comes next. -/
def gapBreaks (fuel : Nat) (before : List Char) (c : Cursor) : Option (List Char) × Cursor :=
  match fuel with
  | 0 => (some before, c)
  | fuel + 1 =>
    if c.atAnyMarker then (none, c)
    else
      let c := c.dropBlanks
      match c.takeBreak? with
      | some (b, c) => gapBreaks fuel (before ++ [b]) c
      | none => (some before, c)

/-- **The gap ahead.** -/
def gap (c : Cursor) : Gap :=
  let (blanks, c) := c.span (· == ' ')
  match c.takeBreak? with
  | none => ⟨blanks, c, false⟩
  | some (first, c) =>
    match gapBreaks (c.rest.length + 1) [] c with
    | (none, c) => ⟨[], c, true⟩
    | (some breaks, c) =>
      let front := if first != '\n' then [first] else if breaks.isEmpty then [' '] else []
      ⟨front ++ breaks, c, true⟩

/-- A plain scalar from its next run on: what it says, the place after it, and whether a line ended
in the last gap. Text and gap so far are given; the fuel is the number of characters ahead. -/
def plainBody (inFlow : Bool) (least : Int) (fuel : Nat) (before : List Char) (last : Gap) :
    List Char × Gap :=
  match fuel with
  | 0 => (before, last)
  | fuel + 1 =>
    let c := last.after
    let run := if c.peek == some '#' then [] else plainRun inFlow c.rest
    if run.isEmpty then (before, last)
    else
      let said := before ++ last.text ++ run
      let following := gap (c.skip run.length)
      if following.text.isEmpty || (!inFlow && (following.after.column : Int) < least) then
        (said, following)
      else plainBody inFlow least fuel said following

/-- **A plain scalar**, given whether brackets are open and the least column of its further
lines. -/
def plainScalar (inFlow : Bool) (least : Int) (c : Cursor) : List Char × Gap :=
  plainBody inFlow least (c.rest.length + 1) [] ⟨[], c, false⟩

end ChannelSerde.Document.Yaml
