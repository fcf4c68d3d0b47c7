import ChannelSerde.Document.Fault
import ChannelSerde.Text.Digit
import ChannelSerde.Text.Quoted
import ChannelSerde.Value

/-!
# JSON documents

One value with blanks around it. Beyond the standard, three words stand for the values that have no
digits (`NaN`, `Infinity` and `-Infinity`). A number is an integer of any size unless it has a point
or an exponent. Of members with one name the last counts. A number ends where it can go on no
further, so `1.` is the number one and a full stop that nothing expects.

Every reader takes the characters ahead and gives back what it read with the characters that are
left, or nothing where no such value starts. The fuel of the two readers that call each other is the
length of the text, of which every call uses up a character.
-/

namespace ChannelSerde.Document.Json

open Text Decimal

/-- The four blanks that may stand between tokens. -/
def isGap (c : Char) : Bool :=
  c == ' ' || c == '\t' || c == '\n' || c == '\r'

/-- The characters from the next token on. -/
def dropGap (cs : List Char) : List Char := cs.dropWhile isGap

/-! ## Strings -/

/-- The value of a hexadecimal digit. -/
def hexDigit? (c : Char) : Option Nat :=
  if c.isDigit then some (c.toNat - '0'.toNat)
  else if 'a' ≤ c && c ≤ 'f' then some (c.toNat - 'a'.toNat + 10)
  else if 'A' ≤ c && c ≤ 'F' then some (c.toNat - 'A'.toNat + 10)
  else none

/-- The number in the next four hexadecimal digits. -/
def codeUnit? : List Char → Option (Nat × List Char)
  | a :: b :: c :: d :: rest => do
    let a ← hexDigit? a
    let b ← hexDigit? b
    let c ← hexDigit? c
    let d ← hexDigit? d
    some (((a * 16 + b) * 16 + c) * 16 + d, rest)
  | _ => none

/-- The character of a code unit, the replacement character for half a pair. -/
def charOfUnit (n : Nat) : Char :=
  if n < 0xD800 || 0xDFFF < n then Char.ofNat n else '\uFFFD'

/-- **The character that an escaped code unit starts**: two units that form a pair are one
character. -/
def escapedUnit? (cs : List Char) : Option (Char × List Char) :=
  match codeUnit? cs with
  | none => none
  | some (high, rest) =>
    match rest with
    | '\\' :: 'u' :: ahead =>
      match codeUnit? ahead with
      | some (low, after) =>
        if 0xD800 ≤ high && high ≤ 0xDBFF && 0xDC00 ≤ low && low ≤ 0xDFFF then
          some (Char.ofNat (0x10000 + (high - 0xD800) * 0x400 + (low - 0xDC00)), after)
        else some (charOfUnit high, rest)
      | none => some (charOfUnit high, rest)
    | _ => some (charOfUnit high, rest)

/-- The character of a short escape. -/
def shortEscape? (c : Char) : Option Char :=
  match c with
  | '"' => some '"'
  | '\\' => some '\\'
  | '/' => some '/'
  | 'b' => some '\x08'
  | 'f' => some '\x0c'
  | 'n' => some '\n'
  | 'r' => some '\r'
  | 't' => some '\t'
  | _ => none

/-- **The rest of a string** up to its closing quote; `before` are the characters read so far, last
one first. A control character has to be escaped. -/
def stringBody (fuel : Nat) (before : List Char) (cs : List Char) :
    Option (String × List Char) :=
  match fuel, cs with
  | 0, _ => none
  | _, [] => none
  | fuel + 1, c :: rest =>
    if c == '"' then some (String.ofList before.reverse, rest)
    else if c == '\\' then
      match rest with
      | [] => none
      | 'u' :: ahead =>
        match escapedUnit? ahead with
        | some (d, after) => stringBody fuel (d :: before) after
        | none => none
      | e :: after =>
        match shortEscape? e with
        | some d => stringBody fuel (d :: before) after
        | none => none
    else if c.toNat < 0x20 then none
    else stringBody fuel (c :: before) rest

/-- A string whose opening quote has been read. -/
def readString (cs : List Char) : Option (String × List Char) :=
  stringBody (cs.length + 1) [] cs

/-! ## Numbers -/

/-- The digits at the front. -/
def spanDigits (cs : List Char) : List Char × List Char := cs.span Char.isDigit

/-- The number a list of ASCII digits spells. -/
def natOf (ds : List Char) : Nat := digitsToNat (ds.filterMap asciiDigit?)

/-- The digits of a whole part: a zero alone, or digits that start with another one. -/
def wholePart : List Char → Option (List Char × List Char)
  | '0' :: rest => some (['0'], rest)
  | cs =>
    let (ds, rest) := spanDigits cs
    if ds.isEmpty then none else some (ds, rest)

/-- The digits after a point, none where no digit follows the point. -/
def fractionPart : List Char → List Char × List Char
  | '.' :: rest =>
    let (ds, after) := spanDigits rest
    if ds.isEmpty then ([], '.' :: rest) else (ds, after)
  | cs => ([], cs)

/-- An exponent, none where the mark is followed by no number. -/
def exponentPart (cs : List Char) : Option (Int × List Char) :=
  match cs with
  | c :: rest =>
    if c == 'e' || c == 'E' then
      let (negative, digits) : Bool × List Char := match rest with
        | '-' :: ds => (true, ds)
        | '+' :: ds => (false, ds)
        | ds => (false, ds)
      let (ds, after) := spanDigits digits
      if ds.isEmpty then none
      else some (if negative then -(natOf ds : Int) else natOf ds, after)
    else none
  | [] => none

/-- **A number.** -/
def readNumber (cs : List Char) : Option (Except Fault Value × List Char) :=
  let (negative, unsigned) : Bool × List Char := match cs with
    | '-' :: rest => (true, rest)
    | _ => (false, cs)
  match wholePart unsigned with
  | none => none
  | some (whole, afterWhole) =>
    let (fraction, afterFraction) := fractionPart afterWhole
    match exponentPart afterFraction, fraction with
    | none, [] =>
      let n : Int := natOf whole
      if maxDigits < whole.length then some (.error .outOfRange, afterFraction)
      else some (.ok (.scalar (.int (if negative then -n else n))), afterFraction)
    | none, _ =>
      some (.ok (.scalar (.float
        (nearestDecimal negative (natOf (whole ++ fraction)) (-(fraction.length : Int))))),
        afterFraction)
    | some (e, after), _ =>
      some (.ok (.scalar (.float
        (nearestDecimal negative (natOf (whole ++ fraction)) (e - fraction.length)))), after)

/-! ## Values -/

/-- The words that stand for values. -/
def words : List (String × Scalar) := [
  ("null", .null), ("true", .bool true), ("false", .bool false),
  ("NaN", .float notNumber), ("Infinity", .float (infinity false)),
  ("-Infinity", .float (infinity true))]

/-- The value of the word at the front. -/
def readWord (cs : List Char) : Option (Value × List Char) :=
  (words.find? fun w => w.1.toList.isPrefixOf cs).map fun w =>
    (.scalar w.2, cs.drop w.1.toList.length)

/-- What reading a part gives: the part and the characters left, or why the document is refused. -/
abbrev Outcome (α : Type) := Except Fault (α × List Char)

mutual

/-- **A value** that starts at the first character. -/
def readValue : Nat → List Char → Outcome Value
  | 0, _ => .error .malformedJson
  | fuel + 1, cs =>
    match cs with
    | '"' :: rest =>
      match readString rest with
      | some (s, after) => .ok (.text s, after)
      | none => .error .malformedJson
    | '[' :: rest =>
      match dropGap rest with
      | ']' :: after => .ok (.list [], after)
      | ahead => readItems fuel [] ahead
    | '{' :: rest =>
      match dropGap rest with
      | '}' :: after => .ok (.map [], after)
      | ahead => readMembers fuel [] ahead
    | _ =>
      match readWord cs with
      | some r => .ok r
      | none =>
        match readNumber cs with
        | some (.ok v, after) => .ok (v, after)
        | some (.error f, _) => .error f
        | none => .error .malformedJson

/-- The items of a list from the next one on; `before` are those read so far, last one first. -/
def readItems : Nat → List Value → List Char → Outcome Value
  | 0, _, _ => .error .malformedJson
  | fuel + 1, before, cs =>
    match readValue fuel cs with
    | .error f => .error f
    | .ok (v, rest) =>
      match dropGap rest with
      | ',' :: after => readItems fuel (v :: before) (dropGap after)
      | ']' :: after => .ok (.list (v :: before).reverse, after)
      | _ => .error .malformedJson

/-- The members of an object from the next one on; `before` are those read so far, last one
first. -/
def readMembers : Nat → List (Scalar × Value) → List Char → Outcome Value
  | 0, _, _ => .error .malformedJson
  | fuel + 1, before, cs =>
    match cs with
    | '"' :: rest =>
      match readString rest with
      | none => .error .malformedJson
      | some (name, afterName) =>
        match dropGap afterName with
        | ':' :: ahead =>
          match readValue fuel (dropGap ahead) with
          | .error f => .error f
          | .ok (v, left) =>
            match dropGap left with
            | ',' :: after => readMembers fuel ((.text name, v) :: before) (dropGap after)
            | '}' :: after => .ok (Value.ofEntries ((.text name, v) :: before).reverse, after)
            | _ => .error .malformedJson
        | _ => .error .malformedJson
    | _ => .error .malformedJson

end

/-- **The value of a JSON document**: one value, blanks around it, and nothing else. -/
def read (text : List Char) : Except Fault Value :=
  match readValue (2 * text.length + 2) (dropGap text) with
  | .error f => .error f
  | .ok (v, rest) => if (dropGap rest).isEmpty then .ok v else .error .malformedJson

end ChannelSerde.Document.Json
