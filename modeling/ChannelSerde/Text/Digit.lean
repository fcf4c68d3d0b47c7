/-!
# Decimal digits

A decimal digit is any character of the general category Nd: every script's digits form a run of
ten in increasing order, so a digit's value is its distance from the zero of its run. The zeros
are those of version 14 of the Unicode character database. A duration's number may be written
with any of them; a port may not, and asks for `asciiDigit?` instead.
-/

namespace ChannelSerde.Text

/-- **The zero of every run of ten decimal digits**, in increasing order. -/
def digitZeros : List Nat := [
  0x30, 0x660, 0x6F0, 0x7C0, 0x966, 0x9E6, 0xA66, 0xAE6, 0xB66, 0xBE6,
  0xC66, 0xCE6, 0xD66, 0xDE6, 0xE50, 0xED0, 0xF20, 0x1040, 0x1090, 0x17E0,
  0x1810, 0x1946, 0x19D0, 0x1A80, 0x1A90, 0x1B50, 0x1BB0, 0x1C40, 0x1C50, 0xA620,
  0xA8D0, 0xA900, 0xA9D0, 0xA9F0, 0xAA50, 0xABF0, 0xFF10, 0x104A0, 0x10D30, 0x11066,
  0x110F0, 0x11136, 0x111D0, 0x112F0, 0x11450, 0x114D0, 0x11650, 0x116C0, 0x11730, 0x118E0,
  0x11950, 0x11C50, 0x11D50, 0x11DA0, 0x16A60, 0x16AC0, 0x16B50, 0x1D7CE, 0x1D7D8, 0x1D7E2,
  0x1D7EC, 0x1D7F6, 0x1E140, 0x1E2F0, 0x1E950, 0x1FBF0]

/-- **The value of a decimal digit** of any script, `none` for every other character. -/
def digit? (c : Char) : Option Nat :=
  (digitZeros.find? fun z => z ≤ c.toNat && c.toNat < z + 10).map (c.toNat - ·)

/-- **The value of an ASCII digit**, `none` for every other character. -/
def asciiDigit? (c : Char) : Option Nat :=
  if c.isDigit then some (c.toNat - '0'.toNat) else none

/-- The number that a list of digit values spells in base ten, most significant first. -/
def digitsToNat (ds : List Nat) : Nat :=
  ds.foldl (fun n d => 10 * n + d) 0

example : digit? '٣' = some 3 ∧ digit? '7' = some 7 ∧ digit? 'x' = none := by decide +kernel

end ChannelSerde.Text
