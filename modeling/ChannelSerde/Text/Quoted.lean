import ChannelSerde.Text.Printable

/-!
# Quoted text

A text inside a message is quoted so that its ends and its odd characters can be seen. The quote is
the apostrophe, unless the text has an apostrophe and no double quote. The backslash, the quote in
use, the line feed, the carriage return and the tab have short escapes; any other character that is
not printable is written by its number, in two, four or eight hexadecimal digits.
-/

namespace ChannelSerde.Text

/-- A number in small hexadecimal digits, with zeros in front up to the width. -/
def hexDigits (width n : Nat) : List Char :=
  let ds := Nat.toDigits 16 n
  List.replicate (width - ds.length) '0' ++ ds

/-- **The quote for a text**: the double one exactly when the text has an apostrophe and no double
quote. -/
def quoteFor (cs : List Char) : Char :=
  if cs.contains '\'' && !cs.contains '"' then '"' else '\''

/-- One character as it stands between the given quotes. -/
def escapeChar (quote c : Char) : List Char :=
  if c == '\\' || c == quote then ['\\', c]
  else if c == '\n' then ['\\', 'n']
  else if c == '\r' then ['\\', 'r']
  else if c == '\t' then ['\\', 't']
  else if isPrintable c then [c]
  else if c.toNat < 0x100 then '\\' :: 'x' :: hexDigits 2 c.toNat
  else if c.toNat < 0x10000 then '\\' :: 'u' :: hexDigits 4 c.toNat
  else '\\' :: 'U' :: hexDigits 8 c.toNat

/-- **A text in quotes.** -/
def quoteChars (cs : List Char) : List Char :=
  let q := quoteFor cs
  q :: cs.flatMap (escapeChar q) ++ [q]

/-- **A text in quotes.** -/
def quote (s : String) : String :=
  String.ofList (quoteChars s.toList)

/-- **Bytes in quotes**, after the letter b: every byte outside printable ASCII by its number. -/
def quoteBytes (bs : List UInt8) : String :=
  let cs := bs.map fun b => Char.ofNat b.toNat
  let q := quoteFor cs
  let escape (c : Char) : List Char :=
    if c == '\\' || c == q then ['\\', c]
    else if c == '\n' then ['\\', 'n']
    else if c == '\r' then ['\\', 'r']
    else if c == '\t' then ['\\', 't']
    else if 0x20 ≤ c.toNat && c.toNat ≤ 0x7E then [c]
    else '\\' :: 'x' :: hexDigits 2 c.toNat
  String.ofList ('b' :: q :: cs.flatMap escape ++ [q])

example : quote "it's" = "\"it's\"" ∧ quote "a\tb" = "'a\\tb'" := by decide +kernel

end ChannelSerde.Text
