import ChannelSerde.Text.LowerCase.Table

/-!
# Small letters

Turning a text into small letters is a matter of one character at a time but for two: the dotted
capital I becomes two characters, and a capital sigma becomes the final form where a word ends. A
word ends at a sigma when a cased letter stands before it and none after it, case-ignorable marks
looked through on both sides.

Where only ASCII words are recognised the plain `asciiLower` is enough, and says so.
-/

namespace ChannelSerde.Text

/-- The small letter of a character, the character itself when it has none of its own. -/
def lowerChar (c : Char) : Char :=
  if c.toNat < 0x80 then c.toLower
  else match lowerRuns.find? fun r =>
      r.1 ≤ c.toNat && c.toNat ≤ r.2.1 && (c.toNat - r.1) % r.2.2.1 == 0 with
    | some r => Char.ofNat ((c.toNat : Int) + r.2.2.2).toNat
    | none => c

/-- The character lies in one of the ranges. -/
def inRanges (ranges : List (Nat × Nat)) (c : Char) : Bool :=
  ranges.any fun r => r.1 ≤ c.toNat && c.toNat ≤ r.2

/-- **A cased letter comes next**, case-ignorable characters looked through. -/
def casedNext (cs : List Char) : Bool :=
  match cs.dropWhile (inRanges caseIgnorableRanges) with
  | [] => false
  | c :: _ => inRanges casedRanges c

/-- The small letters of a text; `before` are the characters already passed, last one first. -/
def lowerFrom (before : List Char) : List Char → List Char
  | [] => []
  | c :: rest =>
    let small : List Char :=
      if c == '\u0130' then ['i', '\u0307']
      else if c == '\u03A3' then
        if casedNext before && !casedNext rest then ['\u03C2'] else ['\u03C3']
      else [lowerChar c]
    small ++ lowerFrom (c :: before) rest

/-- **A text in small letters.** -/
def toLowerCase (s : String) : String :=
  String.ofList (lowerFrom [] s.toList)

/-- A text with its ASCII capitals made small, for words that are told apart in ASCII alone. -/
def asciiLower (s : String) : String :=
  String.ofList (s.toList.map Char.toLower)

end ChannelSerde.Text
