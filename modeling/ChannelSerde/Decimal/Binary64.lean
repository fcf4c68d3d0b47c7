/-!
# Binary64 numbers as integers

A double is, apart from the infinities and the values that are no number, an integer times a power
of two. Reading a double from decimal text and writing one as decimal text are both decided in exact
natural-number arithmetic on that pair, so nothing depends on how an intermediate step rounds.

`nearestBits` goes from a quotient of naturals to the nearest double; `Binary64.ofFloat` goes back
from a double to its integer and its power of two. Powers are those of `Nat.pow`, by name: what the
sign for them means is a matter of the instances in scope.
-/

namespace ChannelSerde.Decimal

/-- **What a double stands for**: no number, an infinity, or an integer times a power of two. -/
inductive Binary64 where
  | nan
  | infinity (negative : Bool)
  | finite (negative : Bool) (significand : Nat) (exponent : Int)
  deriving DecidableEq, Repr

/-- The smallest power of two that a double counts in. -/
def leastExponent : Int := -1074

/-- **The parts of a double.** A subnormal has the least exponent and a significand below 2^52,
every other number a significand with the leading bit. -/
def Binary64.ofFloat (x : Float) : Binary64 :=
  let bits := x.toBits.toNat
  let negative := bits / Nat.pow 2 63 == 1
  let biased := bits / Nat.pow 2 52 % Nat.pow 2 11
  let fraction := bits % Nat.pow 2 52
  if biased == 2047 then (if fraction == 0 then .infinity negative else .nan)
  else if biased == 0 then .finite negative fraction leastExponent
  else .finite negative (Nat.pow 2 52 + fraction) (leastExponent + (biased - 1 : Nat))

/-! ## From a quotient to the nearest double -/

/-- A quotient of naturals rounded to the nearest integer, a tie to the even one. -/
def roundHalfEven (num den : Nat) : Nat :=
  let whole := num / den
  let rest := num % den
  if den < 2 * rest || (den == 2 * rest && whole % 2 == 1) then whole + 1 else whole

/-- A quotient of naturals divided by a power of two, as a quotient of naturals. -/
def scaleDown (num den : Nat) (exponent : Int) : Nat × Nat :=
  if 0 ≤ exponent then (num, den * Nat.pow 2 exponent.toNat)
  else (num * Nat.pow 2 (-exponent).toNat, den)

/-- **The exponent at which a positive quotient has 53 bits**, never below the least one. -/
def exponentOf (num den : Nat) : Int :=
  let guess : Int := (num.log2 : Int) - den.log2 - 52
  let scaled := scaleDown num den guess
  max (if scaled.1 < Nat.pow 2 52 * scaled.2 then guess - 1 else guess) leastExponent

/-- The bit pattern of positive infinity. -/
def infinityBits : Nat := 2047 * Nat.pow 2 52

/-- **The bit pattern of the double nearest to a quotient**, a tie going to the even significand.
Adding the significand, its leading bit included, to the exponent's field lets a carry out of the
significand raise the exponent by itself; from the largest double it reaches infinity. -/
def nearestBits (num den : Nat) : Nat :=
  if num == 0 then 0
  else
    let exponent := exponentOf num den
    let scaled := scaleDown num den exponent
    min infinityBits
      ((exponent - leastExponent).toNat * Nat.pow 2 52 + roundHalfEven scaled.1 scaled.2)

/-- The double nearest to a quotient, with the given sign. -/
def nearestFloat (negative : Bool) (num den : Nat) : Float :=
  let bits := nearestBits num den
  Float.ofBits (UInt64.ofNat (if negative then Nat.pow 2 63 + bits else bits))

/-- The value that is no number. -/
def notNumber : Float := Float.ofBits (UInt64.ofNat (Nat.pow 2 63 - Nat.pow 2 51))

/-- An infinite value. -/
def infinity (negative : Bool) : Float :=
  Float.ofBits (UInt64.ofNat (if negative then Nat.pow 2 63 + infinityBits else infinityBits))

/-- The double nearest to an integer, infinite when the integer is beyond all doubles. -/
def floatOfInt (i : Int) : Float :=
  nearestFloat (i < 0) i.natAbs 1

/-- **A double with a decimal exponent read exactly**: the one nearest to `digits` times ten to the
`exponent`. Beyond 400 decimal places on either side the answer is known without the power. -/
def nearestDecimal (negative : Bool) (digits : Nat) (exponent : Int) : Float :=
  let magnitude : Int := exponent + (Nat.toDigits 10 digits).length
  if digits == 0 || magnitude < -400 then nearestFloat negative 0 1
  else if 400 < magnitude then nearestFloat negative (Nat.pow 2 2000) 1
  else if 0 ≤ exponent then nearestFloat negative (digits * Nat.pow 10 exponent.toNat) 1
  else nearestFloat negative digits (Nat.pow 10 (-exponent).toNat)

end ChannelSerde.Decimal
