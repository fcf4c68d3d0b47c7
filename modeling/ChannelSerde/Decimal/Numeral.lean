import ChannelSerde.Decimal.Binary64
import ChannelSerde.Text.Blank
import ChannelSerde.Text.Digit

/-!
# Numerals

Texts that are read as a number whatever blanks stand around them. Digits may be of any script, and
a single underscore may stand between two of them. An integer may be read in another base than ten,
with or without the mark of that base; a floating-point number may be a word.
-/

namespace ChannelSerde.Decimal

open Text

/-- The value of a digit or a letter in bases up to sixteen. -/
def digitOrLetter? (c : Char) : Option Nat :=
  match digit? c with
  | some d => some d
  | none =>
    let l := c.toLower
    if 'a' ≤ l && l ≤ 'f' then some (l.toNat - 'a'.toNat + 10) else none

/-- The values of the digits of a numeral, single underscores between them left out. -/
def digitValues? (value? : Char → Option Nat) : List Char → Option (List Nat)
  | [] => some []
  | [c] => (value? c).map ([·])
  | c :: '_' :: d :: rest => do
    let v ← value? c
    let vs ← digitValues? value? (d :: rest)
    some (v :: vs)
  | c :: d :: rest => do
    let v ← value? c
    let vs ← digitValues? value? (d :: rest)
    some (v :: vs)

/-- The sign at the front, negative or not, and the text after it. -/
def splitSign : List Char → Bool × List Char
  | '-' :: cs => (true, cs)
  | '+' :: cs => (false, cs)
  | cs => (false, cs)

/-- The mark of a base. -/
def baseMark? (base : Nat) : Option Char :=
  if base == 2 then some 'b' else if base == 8 then some 'o'
  else if base == 16 then some 'x' else none

/-- The digits after the mark of their base, if it is there; an underscore may follow the mark. -/
def dropBaseMark (base : Nat) (cs : List Char) : List Char :=
  match cs with
  | '0' :: m :: rest =>
    if some m.toLower == baseMark? base then
      match rest with
      | '_' :: ds => ds
      | ds => ds
    else cs
  | _ => cs

/-- **An integer in a base.** -/
def integer? (base : Nat) (cs : List Char) : Option Int := do
  let (negative, unsigned) := splitSign (trimNumeral cs)
  let ds := dropBaseMark base unsigned
  let vs ← digitValues? digitOrLetter? ds
  if vs.isEmpty || !vs.all (· < base) then none
  let n := vs.foldl (fun n d => base * n + d) 0
  some (if negative then -(n : Int) else n)

/-- The words for values without digits. -/
def wordValue? (negative : Bool) (cs : List Char) : Option Float :=
  let small := cs.map Char.toLower
  if small == "inf".toList || small == "infinity".toList then some (infinity negative)
  else if small == "nan".toList then some notNumber
  else none

/-- The exponent that follows the digits of a number, zero where there is none. -/
def exponent? : List Char → Option Int
  | [] => some 0
  | e :: cs =>
    if e == 'e' || e == 'E' then do
      let (negative, ds) := splitSign cs
      let vs ← digitValues? digit? ds
      if vs.isEmpty then none
      let n := digitsToNat vs
      some (if negative then -(n : Int) else n)
    else none

/-- The character may stand among digits. -/
def isDigitOrUnderscore (c : Char) : Bool := (digit? c).isSome || c == '_'

/-- **A floating-point number**: digits before or after a point, an exponent, or a word. -/
def float? (cs : List Char) : Option Float :=
  let (negative, unsigned) := splitSign (trimNumeral cs)
  match wordValue? negative unsigned with
  | some x => some x
  | none => do
    let whole := unsigned.takeWhile isDigitOrUnderscore
    let rest := unsigned.dropWhile isDigitOrUnderscore
    let (fraction, rest) := match rest with
      | '.' :: ds => (ds.takeWhile isDigitOrUnderscore, ds.dropWhile isDigitOrUnderscore)
      | ds => ([], ds)
    let before ← digitValues? digit? whole
    let after ← digitValues? digit? fraction
    if before.isEmpty && after.isEmpty then none
    let e ← exponent? rest
    some (nearestDecimal negative (digitsToNat (before ++ after)) (e - after.length))

end ChannelSerde.Decimal
