/-!
# Bytes in base 64

Four characters stand for three bytes. Characters outside the alphabet are skipped; reading ends
where padding completes a group of four, whatever follows.
-/

namespace ChannelSerde.Document.Yaml

/-- The six bits of a character. -/
def sextet? (c : Char) : Option Nat :=
  if 'A' ≤ c && c ≤ 'Z' then some (c.toNat - 'A'.toNat)
  else if 'a' ≤ c && c ≤ 'z' then some (c.toNat - 'a'.toNat + 26)
  else if '0' ≤ c && c ≤ '9' then some (c.toNat - '0'.toNat + 52)
  else if c == '+' then some 62
  else if c == '/' then some 63
  else none

/-- **The bytes from a place on**: `filled` characters of the present group came before it, their
bits that make no byte yet are `bits`, and `pads` padding characters followed the last of them.
Nothing where a group is left incomplete. -/
def bytesFrom (filled bits pads : Nat) : List Char → Option (List UInt8)
  | [] => if filled == 0 then some [] else none
  | c :: rest =>
    if c == '=' then
      if 2 ≤ filled then
        if 4 ≤ filled + pads + 1 then some [] else bytesFrom filled bits (pads + 1) rest
      else bytesFrom filled bits pads rest
    else match sextet? c with
      | none => bytesFrom filled bits pads rest
      | some v =>
        match filled with
        | 0 => bytesFrom 1 v 0 rest
        | 1 => (bytesFrom 2 (v % 16) 0 rest).map (UInt8.ofNat (bits * 4 + v / 16) :: ·)
        | 2 => (bytesFrom 3 (v % 4) 0 rest).map (UInt8.ofNat (bits * 16 + v / 4) :: ·)
        | _ => (bytesFrom 0 0 0 rest).map (UInt8.ofNat (bits * 64 + v) :: ·)

/-- **The bytes of a text in base 64.** Every character is ASCII. -/
def decodeBase64 (cs : List Char) : Option (List UInt8) :=
  if cs.all (·.toNat < 0x80) then bytesFrom 0 0 0 cs else none

end ChannelSerde.Document.Yaml
