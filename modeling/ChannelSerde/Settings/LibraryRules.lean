import ChannelSerde.Decimal.Binary64
import ChannelSerde.Settings.TextRules
import ChannelSerde.Text.Blank
import ChannelSerde.Text.Digit

/-!
# The rules as the library has them

The rules for texts that settings are read by when the program runs.

An integer is spelled by digits, with single underscores between them, after a sign and before a
point with zeros. Zeros at its front are dropped first, and what stands between them with them. What
is left may be too long.

A span of time is written in the ISO form (`PT1M30S`), or as days and a time of day
(`1 day, 00:01:00`). It is counted in whole microseconds, and only the last step, from microseconds
to seconds, rounds. The longest span is one of 999999999 days and a part of a day; below nought there
is no room for the part of a day, and the rule fails with an error of its own.
-/

namespace ChannelSerde.Settings

open Text Decimal

/-! ## Integers -/

/-- The digits of a number in which single underscores may stand between digits. -/
def groupedDigits? : List Char → Option (List Nat)
  | [] => none
  | [c] => (asciiDigit? c).map ([·])
  | c :: '_' :: rest => do
    let v ← asciiDigit? c
    let vs ← groupedDigits? rest
    some (v :: vs)
  | c :: rest => do
    let v ← asciiDigit? c
    let vs ← groupedDigits? rest
    some (v :: vs)

/-- What comes after zeros, and after underscores among them. Where no digit comes, the last of them
is kept. -/
def afterZeros (last : Char) : List Char → List Char
  | [] => [last]
  | c :: rest =>
    if c == '0' || c == '_' then afterZeros c rest
    else if c == '.' then last :: c :: rest
    else c :: rest

/-- A number without a point that has zeros after it. -/
def withoutFraction (cs : List Char) : List Char :=
  match cs.dropWhile (· != '.') with
  | '.' :: '0' :: zeros => if zeros.all (· == '0') then cs.takeWhile (· != '.') else cs
  | _ => cs

/-- The greatest number of digits of an integer. -/
def maxDigits : Nat := 4300

/-- **The integer that a text spells.** -/
def spelledInteger (text : String) : Except Refusal Int :=
  let (negative, unsigned) : Bool × List Char := match trimNumeral text.toList with
    | '-' :: rest => (true, rest)
    | '+' :: '0' :: rest => (false, afterZeros '0' rest)
    | '+' :: rest => (false, rest)
    | '0' :: rest => (false, afterZeros '0' rest)
    | cs => (false, cs)
  match groupedDigits? (withoutFraction unsigned) with
  | none => .error .unreadableInteger
  | some ds =>
    if maxDigits < ds.length then .error .integerTooLong
    else .ok (if negative then -(digitsToNat ds : Int) else digitsToNat ds)

/-! ## Spans of time -/

/-- **A span of time** without its sign. -/
structure Span where
  days : Nat
  seconds : Nat
  microseconds : Nat
  deriving DecidableEq, Repr

/-- The bound below which every count in a text has to stay. -/
def countLimit : Nat := Nat.pow 2 32

/-- A count that is not too large. -/
def count? (n : Nat) : Option Nat := if n < countLimit then some n else none

/-- The greatest number of days of a span. -/
def maxDays : Nat := 999999999

/-- A span whose parts have been carried over, if it is not too long. -/
def Span.carried? (s : Span) : Option Span := do
  let seconds ← count? (s.seconds + s.microseconds / 1000000)
  let days ← count? (s.days + seconds / 86400)
  if maxDays < days then none
  else some ⟨days, seconds % 86400, s.microseconds % 1000000⟩

/-- The seconds of a span. -/
def Span.toSeconds (negative : Bool) (s : Span) : Float :=
  nearestFloat negative ((s.days * 86400 + s.seconds) * 1000000 + s.microseconds) 1000000

/-- The number in the digits at the front, and what comes after. -/
def leadingCount? (cs : List Char) : Option (Nat × List Char) := do
  let ds := cs.takeWhile Char.isDigit
  if ds.isEmpty then none
  let n ← count? (digitsToNat (ds.filterMap asciiDigit?))
  some (n, cs.drop ds.length)

/-- The fraction after a point or a comma, as a double. -/
def leadingFraction? (cs : List Char) : Option (Float × List Char) :=
  match cs with
  | c :: rest =>
    if c == '.' || c == ',' then
      let ds := rest.takeWhile Char.isDigit
      let (n, d) := (ds.filterMap asciiDigit?).foldl
        (fun (n, d) v => (n * floatOfInt 10 + floatOfInt v, d * floatOfInt 10))
        (floatOfInt 0, floatOfInt 1)
      some (n / d, rest.drop ds.length)
    else none
  | [] => none

/-- The whole part of a double that is not negative. -/
def wholeOf (x : Float) : Nat := x.floor.toUInt64.toNat

/-- The microseconds of a fraction of a second, a half rounded up. -/
def microsecondsOf (x : Float) : Nat := (x * floatOfInt 1000000).round.toUInt64.toNat

/-- The span with some seconds more, given as a count and a fraction of a unit. -/
def Span.addSeconds? (s : Span) (unit n : Nat) (fraction : Float) : Option Span := do
  let extra := fraction * floatOfInt unit
  let seconds ← count? (s.seconds + (← count? (unit * n)))
  let seconds ← count? (seconds + wholeOf extra)
  let microseconds ← count? (s.microseconds + microsecondsOf (extra - extra.floor))
  some { s with seconds, microseconds }

/-- The span with some days more, given as a count and a fraction of a unit. -/
def Span.addDays? (s : Span) (unit n : Nat) (fraction : Float) : Option Span := do
  let extra := fraction * floatOfInt unit
  let days ← count? (s.days + (← count? (unit * n)))
  let days ← count? (days + wholeOf extra)
  Span.addSeconds? { s with days } 86400 0 (extra - extra.floor)

/-- The days of a unit of the ISO form: months have thirty and years 365. -/
def isoDays? (c : Char) : Option Nat :=
  match c with
  | 'Y' => some 365
  | 'M' => some 30
  | 'W' => some 7
  | 'D' => some 1
  | _ => none

/-- The seconds of a unit of the ISO form after its T. -/
def isoSeconds? (c : Char) : Option Nat :=
  match c with
  | 'H' => some 3600
  | 'M' => some 60
  | 'S' => some 1
  | _ => none

/-- The rest of the ISO form: whether the T has been passed, whether the last number had a fraction,
and the span so far. The fuel is the number of characters ahead. -/
def isoFrom (fuel : Nat) (passedT hadFraction : Bool) (s : Span) (cs : List Char) : Option Span :=
  match fuel, cs with
  | _, [] => some s
  | 0, _ => none
  | fuel + 1, 'T' :: rest => if passedT then none else isoFrom fuel true hadFraction s rest
  | fuel + 1, cs => do
    let (n, rest) ← leadingCount? cs
    if hadFraction then none
    let (fraction, fractional, rest) := match leadingFraction? rest with
      | some (x, rest) => (x, true, rest)
      | none => (floatOfInt 0, false, rest)
    match rest with
    | [] => none
    | u :: rest =>
      let s ← if passedT then (isoSeconds? u).bind (s.addSeconds? · n fraction)
        else (isoDays? u).bind (s.addDays? · n fraction)
      isoFrom fuel passedT fractional s rest

/-- The two digits at the front. -/
def twoDigits? (cs : List Char) : Option (Nat × List Char) :=
  match cs with
  | a :: b :: rest => do
    let a ← asciiDigit? a
    let b ← asciiDigit? b
    some (10 * a + b, rest)
  | _ => none

/-- **A time of day**: hours, minutes and perhaps seconds with a fraction, of which six digits
count. The hours may be more than a day has. -/
def timeOfDay? (cs : List Char) : Option Span := do
  let (hours, rest) ← twoDigits? cs
  let (minutes, rest) ← match rest with
    | ':' :: rest => twoDigits? rest
    | _ => none
  if 59 < minutes then none
  match rest with
  | [] => some ⟨0, hours * 3600 + minutes * 60, 0⟩
  | ':' :: rest =>
    let (seconds, rest) ← twoDigits? rest
    if 59 < seconds then none
    let total := hours * 3600 + minutes * 60 + seconds
    match rest with
    | [] => some ⟨0, total, 0⟩
    | c :: ds =>
      if (c == '.' || c == ',') && !ds.isEmpty && ds.all Char.isDigit then
        let kept := ds.take 6
        let kept := kept ++ List.replicate (6 - kept.length) '0'
        some ⟨0, total, digitsToNat (kept.filterMap asciiDigit?)⟩
      else none
  | _ => none

/-- The text after a day's word: its first letter, the letters a and y, the letter s. -/
def afterDayWord? (cs : List Char) : Option (List Char) :=
  match cs.map Char.toLower, cs with
  | 'd' :: 'a' :: 'y' :: 's' :: _, cs => some (cs.drop 4)
  | 'd' :: 'a' :: 'y' :: _, cs => some (cs.drop 3)
  | 'd' :: 'a' :: _, _ => none
  | 'd' :: _, cs => some (cs.drop 1)
  | _, _ => none

/-- The text without the given character at its front. -/
def dropOne (c : Char) (cs : List Char) : List Char :=
  if cs.head? == some c then cs.drop 1 else cs

/-- **Days, and perhaps a time of day.** -/
def daysAndTime? (cs : List Char) : Option Span := do
  let (days, rest) ← leadingCount? cs
  let rest ← afterDayWord? (dropOne ' ' rest)
  let rest := dropOne ' ' (dropOne ',' rest)
  if rest.isEmpty then some ⟨days, 0, 0⟩
  else
    let time ← timeOfDay? rest
    some { time with days }

/-- A span in any of its forms; a text with a letter d has days in it. -/
def span? (cs : List Char) : Option Span :=
  match cs with
  | 'P' :: rest => isoFrom rest.length false false ⟨0, 0, 0⟩ rest
  | cs => if cs.any (·.toLower == 'd') then daysAndTime? cs else timeOfDay? cs

/-- A span below nought has more than the greatest number of days. -/
def Span.isBeyond (s : Span) (negative : Bool) : Bool :=
  negative && s.days == maxDays && (s.seconds != 0 || s.microseconds != 0)

/-- **The span of time that a text spells.** The ISO form has three characters at least, the sign
counted. -/
def spelledSpan (text : String) : SpanReading :=
  let cs := text.toList
  let (negative, unsigned) : Bool × List Char := match cs with
    | '-' :: rest => (true, rest)
    | '+' :: rest => (false, rest)
    | cs => (false, cs)
  if unsigned.head? == some 'P' && cs.length < 3 then .refused
  else
    match (span? unsigned).bind Span.carried? with
    | none => .refused
    | some s => if s.isBeyond negative then .raised "OverflowError" else .seconds (s.toSeconds negative)

/-- **The rules of the library.** -/
@[reducible]
def TextRules.library : TextRules where
  integer := spelledInteger
  span := spelledSpan

end ChannelSerde.Settings
