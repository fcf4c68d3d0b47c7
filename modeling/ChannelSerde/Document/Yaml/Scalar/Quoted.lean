import ChannelSerde.Document.Fault
import ChannelSerde.Document.Yaml.Cursor

/-!
# Quoted scalars

Between single quotes everything stands for itself, but for a quote, which is written twice. Between
double quotes a backslash starts an escape. In both, a line's end counts as a blank, further line
ends count as themselves, and the blanks around them do not count at all.
-/

namespace ChannelSerde.Document.Yaml

/-- The character of a short escape. -/
def shortEscape? (c : Char) : Option Char :=
  match c with
  | '0' => some '\x00'
  | 'a' => some '\x07'
  | 'b' => some '\x08'
  | 't' => some '\t'
  | '\t' => some '\t'
  | 'n' => some '\n'
  | 'v' => some '\x0b'
  | 'f' => some '\x0c'
  | 'r' => some '\r'
  | 'e' => some '\x1b'
  | ' ' => some ' '
  | '"' => some '"'
  | '\\' => some '\\'
  | '/' => some '/'
  | 'N' => some '\u0085'
  | '_' => some '\u00A0'
  | 'L' => some '\u2028'
  | 'P' => some '\u2029'
  | _ => none

/-- The number of hexadecimal digits after an escape. -/
def escapeWidth? (c : Char) : Option Nat :=
  match c with
  | 'x' => some 2
  | 'u' => some 4
  | 'U' => some 8
  | _ => none

/-- The value of a hexadecimal digit. -/
def hexDigit? (c : Char) : Option Nat :=
  if c.isDigit then some (c.toNat - '0'.toNat)
  else if 'a' ≤ c && c ≤ 'f' then some (c.toNat - 'a'.toNat + 10)
  else if 'A' ≤ c && c ≤ 'F' then some (c.toNat - 'A'.toNat + 10)
  else none

/-- The number that hexadecimal digits spell, if all of them are such and there are enough. -/
def hexNumber? (width : Nat) (cs : List Char) : Option Nat :=
  if cs.length < width then none
  else (cs.take width).foldl (fun n c => do return (← n) * 16 + (← hexDigit? c)) (some 0)

/-- **An escape**, its backslash read: the character it stands for. -/
def escape (c : Cursor) : Except Fault (Char × Cursor) :=
  match c.peek with
  | none => .error .malformedYaml
  | some e =>
    match shortEscape? e with
    | some d => .ok (d, c.next)
    | none =>
      match escapeWidth? e with
      | none => .error .malformedYaml
      | some width =>
        match hexNumber? width c.next.rest with
        | none => .error .malformedYaml
        | some n =>
          if Nat.pow 2 31 ≤ n then .error .overflow
          else if 0x10FFFF < n then .error .outOfRange
          else
            let ch := if 0xD800 ≤ n && n ≤ 0xDFFF then '\uFFFD' else Char.ofNat n
            .ok (ch, c.next.skip width)

/-- **The line ends that follow a folded one**: a document marker may not stand at the start of any
of the lines. -/
def foldedBreaks (fuel : Nat) (before : List Char) (c : Cursor) :
    Except Fault (List Char × Cursor) :=
  match fuel with
  | 0 => .error .malformedYaml
  | fuel + 1 =>
    if c.atAnyMarker then .error .malformedYaml
    else
      let c := c.dropWhile isSpace
      match c.takeBreak? with
      | some (b, c) => foldedBreaks fuel (before ++ [b]) c
      | none => .ok (before, c)

/-- **Blanks inside quotes**: as they are, unless the line ends. -/
def foldedSpaces (fuel : Nat) (c : Cursor) : Except Fault (List Char × Cursor) :=
  let (spaces, c) := c.span isSpace
  match c.peek with
  | none => .error .malformedYaml
  | some _ =>
    match c.takeBreak? with
    | none => .ok (spaces, c)
    | some (first, c) => do
      let (breaks, c) ← foldedBreaks fuel [] c
      let front := if first != '\n' then [first] else if breaks.isEmpty then [' '] else []
      return (front ++ breaks, c)

/-- The inside of a quoted scalar; `before` is what has been read so far. The fuel is the number of
characters ahead. -/
def quotedBody (double : Bool) (fuel : Nat) (before : List Char) (c : Cursor) :
    Except Fault (List Char × Cursor) :=
  match fuel with
  | 0 => .error .malformedYaml
  | fuel + 1 =>
    match c.peek with
    | none => .error .malformedYaml
    | some ch =>
      if ch == '\'' && !double then
        if c.peekAt 1 == some '\'' then quotedBody double fuel (before ++ ['\'']) (c.skip 2)
        else .ok (before, c.next)
      else if ch == '"' && double then .ok (before, c.next)
      else if ch == '\\' && double then
        match c.next.takeBreak? with
        | some (_, c) => do
          let (breaks, c) ← foldedBreaks fuel [] c
          quotedBody double fuel (before ++ breaks) c
        | none => do
          let (d, c) ← escape c.next
          quotedBody double fuel (before ++ [d]) c
      else if isSpace ch || isBreak ch then do
        let (spaces, c) ← foldedSpaces fuel c
        quotedBody double fuel (before ++ spaces) c
      else
        let (chars, c) := c.span fun d =>
          d != '\'' && d != '"' && d != '\\' && !isSpace d && !isBreak d
        if chars.isEmpty then quotedBody double fuel (before ++ [ch]) c.next
        else quotedBody double fuel (before ++ chars) c

/-- **A quoted scalar**, from its opening quote on. -/
def quotedScalar (double : Bool) (c : Cursor) : Except Fault (List Char × Cursor) :=
  quotedBody double (c.rest.length + 1) [] c.next

end ChannelSerde.Document.Yaml
