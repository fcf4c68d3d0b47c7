import ChannelSerde.Decimal.Numeral
import ChannelSerde.Document.Yaml.Base64
import ChannelSerde.Document.Yaml.Layout
import ChannelSerde.Document.Yaml.Node
import ChannelSerde.Text.LowerCase
import ChannelSerde.Value

/-!
# YAML documents

The value of a document is the value of its root. Merging comes first: a mapping gets the entries of
every mapping under its merge keys, ahead of its own, so that its own entries count. Then each node
gets the value that its kind promises. Where several nodes have none, the fault of the one nearest
to the root is reported, and of those the first; a node that contains itself is found out last.
-/

namespace ChannelSerde.Document.Yaml

open Text Decimal

/-! ## Merging -/

/-- A node without a value, as the entry of a mapping that cannot be merged. -/
def unmergeable : List (Node × Node) := [(.scalar .unknown "", .scalar .unknown "")]

/-- What a merge key contributes: the entries of its mapping, or those of a list of mappings, where
earlier mappings count. -/
def contribution : Node → Option (List (Node × Node))
  | .map _ entries => some entries
  | .list _ items => do
    let parts ← items.mapM fun n => match n with
      | .map _ entries => some entries
      | .around => some []
      | _ => none
    some parts.reverse.flatten
  | .around => some []
  | .scalar _ _ => none

/-- The key is a merge sign. -/
def Node.isMerge : Node → Bool
  | .scalar .merge _ => true
  | .list .merge _ => true
  | .map .merge _ => true
  | _ => false

/-- **The entries of a mapping with those that are merged into it**, which come first. -/
def mergeEntries (entries : List (Node × Node)) : List (Node × Node) :=
  match (entries.filter (·.1.isMerge)).mapM (contribution ·.2) with
  | some parts => parts.flatten ++ entries.filter (!·.1.isMerge)
  | none => unmergeable

mutual

/-- **A tree without merge keys.** -/
def Node.merged : Node → Node
  | .scalar k t => .scalar k t
  | .list k items => .list k (mergedItems items)
  | .map k entries => .map k (mergeEntries (mergedPairs entries))
  | .around => .around

/-- The items of a list without merge keys. -/
def mergedItems : List Node → List Node
  | [] => []
  | n :: rest => n.merged :: mergedItems rest

/-- The entries of a mapping, each without merge keys inside. -/
def mergedPairs : List (Node × Node) → List (Node × Node)
  | [] => []
  | (k, v) :: rest => (k.merged, v.merged) :: mergedPairs rest

end

/-! ## Scalars -/

/-- The text without its sign, and whether that is a minus sign; a text without characters is
missing. -/
def signed (cs : List Char) : Except Fault (Bool × List Char) :=
  match cs with
  | [] => .error .missingText
  | '-' :: rest => .ok (true, rest)
  | '+' :: rest => .ok (false, rest)
  | cs => .ok (false, cs)

/-- A text cut at its colons. -/
def atColons (cs : List Char) : List (List Char) :=
  match cs with
  | [] => [[]]
  | c :: rest =>
    if c == ':' then [] :: atColons rest
    else match atColons rest with
      | part :: parts => (c :: part) :: parts
      | [] => [[c]]

/-- A number that has to exist. -/
def required {α : Type} : Option α → Except Fault α
  | some a => .ok a
  | none => .error .outOfRange

/-- An integer in base ten, which may not be longer than the longest one that is read. -/
def decimalInteger (cs : List Char) : Except Fault Int :=
  if maxDigits < (cs.filter fun c => (digit? c).isSome).length then .error .outOfRange
  else required (integer? 10 cs)

/-- **The integer that a text spells**: in base two, eight, sixteen, ten or sixty. -/
def intValue (text : String) : Except Fault Int := do
  let (negative, cs) ← signed (text.toList.filter (· != '_'))
  let apply (n : Int) : Int := if negative then -n else n
  match cs with
  | [] => .error .missingText
  | ['0'] => return 0
  | '0' :: 'b' :: ds => return apply (← required (integer? 2 ds))
  | '0' :: 'x' :: ds => return apply (← required (integer? 16 ds))
  | '0' :: _ => return apply (← required (integer? 8 cs))
  | _ =>
    if cs.contains ':' then do
      let parts ← (atColons cs).mapM decimalInteger
      return apply (parts.foldl (fun n d => 60 * n + d) 0)
    else return apply (← decimalInteger cs)

/-- The sum of numbers in base sixty, the last of them ones, added from the ones up. -/
def sixtiesSum (parts : List Float) : Float :=
  (parts.reverse.foldl (fun (sum, base) d => (sum + d * floatOfInt base, base * 60))
    ((floatOfInt 0, 1) : Float × Int)).1

/-- **The floating-point number that a text spells.** -/
def floatValue (text : String) : Except Fault Float := do
  let (negative, cs) ← signed (toLowerCase (String.ofList (text.toList.filter (· != '_')))).toList
  let apply (x : Float) : Float := if negative then -x else x
  if cs == ".inf".toList then return apply (infinity false)
  else if cs == ".nan".toList then return notNumber
  else if cs.contains ':' then
    let parts ← (atColons cs).mapM fun p => required (float? p)
    return apply (sixtiesSum parts)
  else return apply (← required (float? cs))

/-- The number of a list of ASCII digits. -/
def natOfDigits (ds : List Char) : Nat := digitsToNat (ds.filterMap asciiDigit?)

/-- **The date or moment of its spelled parts**, which has to exist. A fraction of a second counts
down to the microsecond. -/
def stampValue (s : Stamp) : Except Fault Scalar :=
  let date : Date := ⟨natOfDigits s.year, natOfDigits s.month, natOfDigits s.day⟩
  match s.time with
  | none => if date.exists? then .ok (.date date) else .error .outOfRange
  | some (hour, minute, second, fraction) =>
    let digits := fraction.take 6
    let offset := s.zone.map fun (negative, hours, minutes) =>
      let n : Int := natOfDigits hours * 60 + natOfDigits minutes
      if negative then -n else n
    let moment : Moment :=
      { date, hour := natOfDigits hour, minute := natOfDigits minute, second := natOfDigits second
        microsecond := natOfDigits (digits ++ List.replicate (6 - digits.length) '0'), offset }
    if moment.exists? then .ok (.moment moment) else .error .outOfRange

/-- **The value of a scalar of a kind.** -/
def scalarValue (kind : Kind) (text : String) : Except Fault Scalar :=
  match kind with
  | .null => .ok .null
  | .bool =>
    match switchWords.find? fun w => w.1 == toLowerCase text with
    | some w => .ok (.bool w.2)
    | none => .error .unknownWord
  | .int => (intValue text).map .int
  | .float => (floatValue text).map .float
  | .bytes =>
    match decodeBase64 text.toList with
    | some bs => .ok (.bytes bs)
    | none => .error .malformedYaml
  | .moment =>
    match stamp? text.toList with
    | some s => stampValue s
    | none => .error .unreadableMoment
  | .text => .ok (.text text)
  | _ => .error .malformedYaml

/-- The text that a node gives to a scalar kind: its own, or that of its default value. -/
def Node.scalarText? : Node → Option String
  | .scalar _ t => some t
  | .map _ entries => defaultText? entries
  | _ => none
where
  /-- The text of the first default value among entries. -/
  defaultText? : List (Node × Node) → Option String
    | [] => none
    | (.scalar .default _, v) :: _ => v.scalarText?
    | _ :: rest => defaultText? rest

/-! ## Values -/

/-- **A fault and its distance from the root.** -/
abbrev Misfit := Nat × Fault

/-- Two results together; of two faults the nearer, the first of equals. -/
def together {α β : Type} (a : Except Misfit α) (b : Except Misfit β) : Except Misfit (α × β) :=
  match a, b with
  | .ok a, .ok b => .ok (a, b)
  | .error f, .ok _ => .error f
  | .ok _, .error g => .error g
  | .error f, .error g => .error (if g.1 < f.1 then g else f)

/-- The distance of a fault that is found out last. -/
def farthest : Nat := Nat.pow 10 9

/-- The key that a node is. A list or a mapping is no key. -/
def keyValue (depth : Nat) (n : Node) : Except Misfit Scalar :=
  match n with
  | .scalar .default t => .ok (.text t)
  | .scalar kind t => (scalarValue kind t).mapError (depth, ·)
  | .list _ _ => .error (depth, .malformedYaml)
  | .map .map _ => .error (depth, .malformedYaml)
  | .map kind _ =>
    match n.scalarText? with
    | some t => (scalarValue kind t).mapError (depth, ·)
    | none => .error (depth, .malformedYaml)
  | .around => .error (depth, .malformedYaml)

mutual

/-- **The value of a node** at a distance from the root. -/
def nodeValue (depth : Nat) : Node → Except Misfit Value
  | .scalar kind t => ((scalarValue kind t).map .scalar).mapError (depth, ·)
  | .list .list items => (itemValues (depth + 1) items).map .list
  | .list _ _ => .error (depth, .malformedYaml)
  | .map .map entries => (entryValues (depth + 1) entries).map Value.ofEntries
  | .map kind entries =>
    match Node.scalarText? (.map kind entries) with
    | some t => ((scalarValue kind t).map .scalar).mapError (depth, ·)
    | none => .error (depth, .malformedYaml)
  | .around => .error (farthest, .endless)

/-- The values of a list's items. -/
def itemValues (depth : Nat) : List Node → Except Misfit (List Value)
  | [] => .ok []
  | n :: rest =>
    (together (nodeValue depth n) (itemValues depth rest)).map fun (v, vs) => v :: vs

/-- The keys and values of a mapping's entries. -/
def entryValues (depth : Nat) : List (Node × Node) → Except Misfit (List (Scalar × Value))
  | [] => .ok []
  | (k, v) :: rest =>
    (together (together (keyValue depth k) (nodeValue depth v)) (entryValues depth rest)).map
      fun (e, es) => e :: es

end

/-- **The value of a YAML document**; a text without a document has the value null. -/
def read (text : List Char) : Except Fault Value := do
  match ← readDocument (← tokens text) with
  | none => return .null
  | some root => (nodeValue 0 root.merged).mapError (·.2)

end ChannelSerde.Document.Yaml
