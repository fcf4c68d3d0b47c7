import ChannelSerde.Decimal.Binary64

/-!
# The shortest decimal that reads back

A double is written with the fewest digits from which it can be read again. The reals that round to
a double form an interval around it, its ends included exactly when the significand is even. For one
digit, then two, and so on up to seventeen, the decimal grid of that many digits is asked for the
two neighbours of the value; the first grid with a neighbour in the interval gives the digits, the
nearer neighbour of two, the even one at a tie. If any point of a grid lies in the interval so does
one of the two neighbours, so no shorter decimal is missed.

Where the point and the exponent go is no part of that: `Layout` says it.
-/

namespace ChannelSerde.Decimal

/-- **A positive decimal**: `digits` times ten to the `exponent`. -/
structure Scaled where
  digits : Nat
  exponent : Int
  deriving DecidableEq, Repr

/-- A decimal without the zeros at its end; the fuel is the number of digits. -/
def Scaled.stripZeros : Nat → Scaled → Scaled
  | 0, d => d
  | fuel + 1, d =>
    if d.digits != 0 && d.digits % 10 == 0 then
      Scaled.stripZeros fuel ⟨d.digits / 10, d.exponent + 1⟩
    else d

/-- **The reals that round to a double**, all over one denominator: `low/den` to `high/den` around
`value/den`. -/
structure Interval where
  low : Nat
  value : Nat
  high : Nat
  den : Nat
  closed : Bool

/-- The interval of the double `significand` times two to the `exponent`. Below a power of two the
doubles are twice as dense, so the lower end is then half as far away. -/
def Interval.of (significand : Nat) (exponent : Int) : Interval :=
  let narrow := significand == Nat.pow 2 52 && leastExponent < exponent
  let up := Nat.pow 2 exponent.toNat
  let down := Nat.pow 2 (-exponent).toNat
  { low := (4 * significand - if narrow then 1 else 2) * up
    value := 4 * significand * up
    high := (4 * significand + 2) * up
    den := 4 * down
    closed := significand % 2 == 0 }

/-- The quotient `num/den` lies in the interval. -/
def Interval.contains (i : Interval) (num den : Nat) : Bool :=
  let a := num * i.den
  if i.closed then i.low * den ≤ a && a ≤ i.high * den
  else i.low * den < a && a < i.high * den

/-- **The number of digits before the point**: the least `k` with the value below ten to the `k`,
negative where zeros follow the point. The fuel bounds the search on either side. -/
def magnitude (num den : Nat) : Int :=
  let rec above : Nat → Nat → Int
    | 0, k => k
    | fuel + 1, k => if num < den * Nat.pow 10 k then k else above fuel (k + 1)
  let rec below : Nat → Nat → Int
    | 0, k => -k
    | fuel + 1, k => if num * Nat.pow 10 (k + 1) < den then below fuel (k + 1) else -k
  if den ≤ num then above 400 1 else below 400 0

/-- The grid's neighbour of the value that is in the interval, for decimals that count in tens to
the `exponent`: the nearer of two, the even one at a tie. -/
def Interval.onGrid (i : Interval) (exponent : Int) : Option Scaled :=
  let up := Nat.pow 10 exponent.toNat
  let down := Nat.pow 10 (-exponent).toNat
  let lower := i.value * down / (i.den * up)
  let rest := i.value * down % (i.den * up)
  let fits (n : Nat) : Bool := i.contains (n * up) down
  match fits lower && lower != 0, fits (lower + 1) with
  | false, false => none
  | true, false => some ⟨lower, exponent⟩
  | false, true => some ⟨lower + 1, exponent⟩
  | true, true =>
    if 2 * rest < i.den * up || (2 * rest == i.den * up && lower % 2 == 0) then
      some ⟨lower, exponent⟩
    else some ⟨lower + 1, exponent⟩

/-- **The shortest decimal in the interval**, from grids of `n` digits on, with `17 - n` further
grids to try. -/
def Interval.shortestFrom (i : Interval) (size : Int) : Nat → Scaled
  | 0 => ⟨i.value / i.den, 0⟩
  | left + 1 =>
    match i.onGrid (size - (17 - left : Nat)) with
    | some d => d
    | none => i.shortestFrom size left

/-- **The shortest decimal that reads back as a positive double.** -/
def shortest (significand : Nat) (exponent : Int) : Scaled :=
  let i := Interval.of significand exponent
  (i.shortestFrom (magnitude i.value i.den) 17).stripZeros 20

/-! ## Layout -/

/-- **How a number is laid out**: which decimal exponents are written without an exponent part, what
ends a whole number, the mark of the exponent and its least number of digits, and the words for
values that have no digits. -/
structure Layout where
  leastPlain : Int
  greatestPlain : Int
  wholeTail : String
  exponentMark : Char
  exponentWidth : Nat
  infinity : String
  notNumber : String

/-- A number's decimal digits. -/
def digitChars (n : Nat) : List Char :=
  Nat.toDigits 10 n

/-- The exponent part: mark, sign, digits. -/
def Layout.exponentPart (l : Layout) (e : Int) : List Char :=
  let ds := digitChars e.natAbs
  l.exponentMark :: (if e < 0 then '-' else '+')
    :: List.replicate (l.exponentWidth - ds.length) '0' ++ ds

/-- **A positive decimal in a layout.** The scientific exponent is the one that leaves a single
digit before the point. -/
def Layout.write (l : Layout) (d : Scaled) : List Char :=
  let ds := digitChars d.digits
  let scientific : Int := d.exponent + ds.length - 1
  if l.leastPlain ≤ scientific && scientific ≤ l.greatestPlain then
    let before : Int := scientific + 1
    if before ≤ 0 then '0' :: '.' :: List.replicate (-before).toNat '0' ++ ds
    else if ds.length ≤ before.toNat then
      ds ++ List.replicate (before.toNat - ds.length) '0' ++ l.wholeTail.toList
    else ds.take before.toNat ++ '.' :: ds.drop before.toNat
  else
    (match ds with
      | [] => []
      | [c] => [c]
      | c :: rest => c :: '.' :: rest) ++ l.exponentPart scientific

/-- **A double in a layout.** -/
def Layout.show (l : Layout) (x : Float) : String :=
  let sign (negative : Bool) (s : List Char) : String :=
    String.ofList (if negative then '-' :: s else s)
  match Binary64.ofFloat x with
  | .nan => l.notNumber
  | .infinity negative => sign negative l.infinity.toList
  | .finite negative 0 _ => sign negative ('0' :: l.wholeTail.toList)
  | .finite negative m e => sign negative (l.write (shortest m e))

/-- **The layout of floating-point values in properties and messages**: positional from 0.0001 to
below 10^16, always with a point or an exponent, and an exponent of at least two digits. -/
def plainLayout : Layout :=
  { leastPlain := -4, greatestPlain := 15, wholeTail := ".0", exponentMark := 'e',
    exponentWidth := 2,
    infinity := "inf", notNumber := "nan" }

/-- The text of a floating-point value. -/
def floatText (x : Float) : String :=
  plainLayout.show x

end ChannelSerde.Decimal
