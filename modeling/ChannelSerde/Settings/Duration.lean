import ChannelSerde.Decimal.Binary64
import ChannelSerde.Settings.TextRules
import ChannelSerde.Text.Blank
import ChannelSerde.Text.Digit

/-!
# Durations

A duration is written as a number with a unit (`500ms`, `60s`, `2m`, `1h`, or no unit for seconds), or
in some way that the rule for spans takes. The first is a product of two doubles.

The long small letter s counts as an s when case does not matter, so `5ſ` is recognised as a number
with a unit; but no unit is spelled with it, and the text is then neither a duration nor to be tried
in another way.
-/

namespace ChannelSerde.Settings

open Text Decimal

/-- **What is no answer about a setting**, and is not told as a problem of it either. -/
inductive Escape where
  /-- A number has a unit that does not exist. -/
  | unknownUnit
  /-- A rule fails with an error of its own. -/
  | raised (error : String)
  deriving DecidableEq, Repr

/-- **Why a text is no duration.** -/
inductive DurationError where
  /-- It is spelled as none. -/
  | unreadable
  | escape (e : Escape)
  deriving DecidableEq, Repr

/-! ## A number and a unit -/

/-- **A unit** with what one of it is in seconds. -/
structure TimeUnit where
  name : String
  seconds : Float

/-- The units. -/
def timeUnits : List TimeUnit := [
  ⟨"ms", nearestFloat false 1 1000⟩, ⟨"s", floatOfInt 1⟩, ⟨"m", floatOfInt 60⟩,
  ⟨"h", floatOfInt 3600⟩]

/-- A character with its case left out: the long s is an s. -/
def caseless (c : Char) : Char := if c == 'ſ' then 's' else c.toLower

/-- The digits of any script at the front, by value. -/
def leadingDigits (cs : List Char) : List Nat × List Char :=
  let ds := cs.takeWhile fun c => (digit? c).isSome
  (ds.filterMap digit?, cs.drop ds.length)

/-- A number at the front: its digits, how many of them follow the point, and what comes after. -/
def leadingNumber? (cs : List Char) : Option (List Nat × Nat × List Char) :=
  let (whole, rest) := leadingDigits cs
  if whole.isEmpty then none
  else
    match rest with
    | '.' :: ds =>
      let (fraction, after) := leadingDigits ds
      if fraction.isEmpty then some (whole, 0, rest)
      else some (whole ++ fraction, fraction.length, after)
    | _ => some (whole, 0, rest)

/-- **A number and a unit**: the number and the characters of the unit, none for seconds. -/
def amount? (cs : List Char) : Option (Float × List Char) := do
  let (digits, places, rest) ← leadingNumber? cs
  let unit := rest.dropWhile isBlank
  if unit.isEmpty || timeUnits.any fun u => u.name.toList == unit.map caseless then
    some (nearestDecimal false (digitsToNat digits) (-(places : Int)), unit)
  else none

/-- The seconds of a number and a unit. -/
def amountSeconds (x : Float) (unit : List Char) : Except DurationError Float :=
  let name := if unit.isEmpty then ['s'] else unit.map Char.toLower
  match timeUnits.find? fun u => u.name.toList == name with
  | some u => .ok (x * u.seconds)
  | none => .error (.escape .unknownUnit)

/-! ## Durations in every form -/

/-- **The seconds of a duration.** Blanks around it do not count. -/
def durationSeconds [TextRules] (text : String) : Except DurationError Float :=
  match amount? (trimChars text.toList) with
  | some (x, unit) => amountSeconds x unit
  | none =>
    match TextRules.span (trim text) with
    | .seconds x => .ok x
    | .refused => .error .unreadable
    | .raised e => .error (.escape (.raised e))

end ChannelSerde.Settings
