import ChannelSerde.Text.Blank

/-!
# Kinds of nodes

What a node stands for is said by its tag, or, for a scalar without quotes and tag, by the way it is
spelled. The spellings are tried in a fixed order: switches, then floating-point numbers, integers,
the merge sign, null, dates and moments, the sign of a default value. Whatever is none of these is
text.
-/

namespace ChannelSerde.Document.Yaml

/-- **What a node stands for.** -/
inductive Kind where
  | null
  | bool
  | int
  | float
  | bytes
  | moment
  | text
  | list
  | map
  /-- The key whose value is merged into its mapping. -/
  | merge
  /-- The key of a default value. -/
  | default
  /-- A tag without a meaning here. -/
  | unknown
  deriving DecidableEq, Repr

/-- The start of every tag that has a meaning. -/
def tagStart : String := "tag:yaml.org,2002:"

/-- The tags and their kinds. -/
def tagNames : List (String × Kind) := [
  ("null", .null), ("bool", .bool), ("int", .int), ("float", .float), ("binary", .bytes),
  ("timestamp", .moment), ("str", .text), ("seq", .list), ("map", .map), ("merge", .merge),
  ("value", .default)]

/-- **The kind of a tag.** -/
def kindOfTag (tag : String) : Kind :=
  ((tagNames.find? fun t => tagStart ++ t.1 == tag).map (·.2)).getD .unknown

/-! ## Spellings

Each is a test on the characters of a scalar, written as the sequence of what it may consist of. -/

/-- The text without a sign at its front. -/
def dropSign : List Char → List Char
  | '+' :: cs => cs
  | '-' :: cs => cs
  | cs => cs

/-- A digit or an underscore. -/
def isDigitOrLow (c : Char) : Bool := c.isDigit || c == '_'

/-- An exponent with its sign and at least one digit, or nothing. -/
def isExponent : List Char → Bool
  | [] => true
  | e :: s :: ds =>
    (e == 'e' || e == 'E') && (s == '+' || s == '-') && !ds.isEmpty && ds.all Char.isDigit
  | _ => false

/-- What may follow the point of a number: digits, then an exponent. -/
def isFractionTail (cs : List Char) : Bool := isExponent (cs.dropWhile isDigitOrLow)

/-- The text after digits of which the first is a digit, underscores counted as digits after it. -/
def afterDigits? (cs : List Char) : Option (List Char) :=
  match cs with
  | c :: rest => if c.isDigit then some (rest.dropWhile isDigitOrLow) else none
  | [] => none

/-- The text after at least one group of a colon and a number below sixty, of one or two digits. All
groups are taken. -/
def afterSixties? (cs : List Char) : Option (List Char) :=
  let rec go (taken : Bool) : List Char → Option (List Char)
    | ':' :: a :: b :: rest =>
      if a.isDigit && b.isDigit && a ≤ '5' then go true rest
      else if a.isDigit then go true (b :: rest)
      else none
    | [':', a] => if a.isDigit then some [] else none
    | rest => if taken then some rest else none
  go false cs

/-- The words for infinity and for no number, each with its point. -/
def isPointWord (words : List String) (cs : List Char) : Bool :=
  words.any (·.toList == cs)

/-- **The spelling of a floating-point number.** -/
def spellsFloat (cs : List Char) : Bool :=
  let unsigned := dropSign cs
  (match afterDigits? unsigned with
    | some ('.' :: tail) => isFractionTail tail
    | some _ => false
    | none => false)
  || (match cs with
    | '.' :: tail =>
      match afterDigits? tail with
      | some after => isExponent after
      | none => false
    | _ => false)
  || (match afterDigits? unsigned with
    | some groups =>
      match afterSixties? groups with
      | some ('.' :: tail) => tail.all isDigitOrLow
      | _ => false
    | none => false)
  || isPointWord [".inf", ".Inf", ".INF"] unsigned
  || isPointWord [".nan", ".NaN", ".NAN"] cs

/-- A hexadecimal digit or an underscore. -/
def isHexOrLow (c : Char) : Bool :=
  isDigitOrLow c || ('a' ≤ c && c ≤ 'f') || ('A' ≤ c && c ≤ 'F')

/-- **The spelling of an integer.** -/
def spellsInt (cs : List Char) : Bool :=
  match dropSign cs with
  | [] => false
  | ['0'] => true
  | '0' :: 'b' :: ds => !ds.isEmpty && ds.all fun c => c == '0' || c == '1' || c == '_'
  | '0' :: 'x' :: ds => !ds.isEmpty && ds.all isHexOrLow
  | '0' :: ds => ds.all fun c => ('0' ≤ c && c ≤ '7') || c == '_'
  | cs@(c :: _) =>
    c.isDigit &&
      match afterDigits? cs with
      | some [] => true
      | some groups => afterSixties? groups == some []
      | none => false

/-- The words for switches. -/
def switchWords : List (String × Bool) := [
  ("yes", true), ("no", false), ("true", true), ("false", false), ("on", true), ("off", false)]

/-- **The spelling of a switch**: small letters, capitals, or a capital at the front. -/
def spellsSwitch (cs : List Char) : Bool :=
  switchWords.any fun w =>
    let small := w.1.toList
    cs == small || cs == small.map Char.toUpper
      || cs == (small.take 1).map Char.toUpper ++ small.drop 1

/-- **The spelling of null**; the empty text stands for it too. -/
def spellsNull (cs : List Char) : Bool :=
  ["~", "null", "Null", "NULL"].any (·.toList == cs)

/-! ## Dates and moments -/

/-- **The parts of a moment as they are spelled.** The time is absent from a date. -/
structure Stamp where
  year : List Char
  month : List Char
  day : List Char
  time : Option (List Char × List Char × List Char × List Char)
  /-- The offset: negative or not, hours, minutes; the zone Z is no hours. -/
  zone : Option (Bool × List Char × List Char)
  deriving DecidableEq, Repr

/-- A number of digits in the given range at the front, as many as there are. -/
def takeDigits? (least most : Nat) (cs : List Char) : Option (List Char × List Char) :=
  let ds := (cs.take most).takeWhile Char.isDigit
  if ds.length < least then none else some (ds, cs.drop ds.length)

/-- The text after a given character. -/
def after? (c : Char) : List Char → Option (List Char)
  | d :: rest => if d == c then some rest else none
  | [] => none

/-- The offset at the end of a moment, blanks before it not counted. -/
def zone? (cs : List Char) : Option (Option (Bool × List Char × List Char)) :=
  let spaced := cs.dropWhile fun c => c == ' ' || c == '\t'
  match spaced with
  | [] => if cs.isEmpty then some none else none
  | ['Z'] => some (some (false, [], []))
  | s :: rest => do
    if s != '+' && s != '-' then none
    let (hours, left) ← takeDigits? 1 2 rest
    match left with
    | [] => some (some (s == '-', hours, []))
    | ':' :: ds =>
      let (minutes, left) ← takeDigits? 2 2 ds
      if left.isEmpty then some (some (s == '-', hours, minutes)) else none
    | _ => none

/-- **The parts of a date or a moment**, none where the text is spelled otherwise. -/
def stamp? (cs : List Char) : Option Stamp := do
  let (year, cs) ← takeDigits? 4 4 cs
  let (month, cs) ← takeDigits? 1 2 (← after? '-' cs)
  let (day, cs) ← takeDigits? 1 2 (← after? '-' cs)
  match cs with
  | [] => some ⟨year, month, day, none, none⟩
  | c :: rest =>
    let timeText ←
      if c == 'T' || c == 't' then some rest
      else if c == ' ' || c == '\t' then some (rest.dropWhile fun c => c == ' ' || c == '\t')
      else none
    let (hour, cs) ← takeDigits? 1 2 timeText
    let (minute, cs) ← takeDigits? 2 2 (← after? ':' cs)
    let (second, cs) ← takeDigits? 2 2 (← after? ':' cs)
    let (fraction, cs) := match cs with
      | '.' :: ds => (ds.takeWhile Char.isDigit, ds.dropWhile Char.isDigit)
      | cs => ([], cs)
    let zone ← zone? cs
    some ⟨year, month, day, some (hour, minute, second, fraction), zone⟩

/-- **The spelling of a date or a moment**: a date alone has two digits for month and day. -/
def spellsMoment (cs : List Char) : Bool :=
  match stamp? cs with
  | some s => s.time.isSome || (s.month.length == 2 && s.day.length == 2)
  | none => false

/-- **What a plain scalar stands for.** A single line feed at its end does not count. -/
def kindOfPlain (text : String) : Kind :=
  let cs := text.toList
  let cs := if cs.getLast? == some '\n' then cs.dropLast else cs
  if cs.isEmpty then (if text.isEmpty then .null else .text)
  else if spellsSwitch cs then .bool
  else if spellsFloat cs then .float
  else if spellsInt cs then .int
  else if cs == ['<', '<'] then .merge
  else if spellsNull cs then .null
  else if spellsMoment cs then .moment
  else if cs == ['='] then .default
  else .text

end ChannelSerde.Document.Yaml
