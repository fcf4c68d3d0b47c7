import ChannelSerde.Calendar
import ChannelSerde.Decimal.Shortest
import ChannelSerde.Text.Quoted

/-!
# Configuration values

What a configuration document holds, and what settings and error details are given as: scalars,
lists and mappings. A mapping keeps its entries in order, and its keys are scalars by type, so a
list can never be a key.

A value is written in three ways, and they differ. `Scalar.text` is the plain text of a scalar,
`Value.literal` shows a value with its structure and quotes, and `Value.propertyText` is the text
that a property gets: switches in small letters, lists joined by commas, all else plain.
-/

namespace ChannelSerde

/-- **A value without parts.** -/
inductive Scalar where
  | null
  | bool (b : Bool)
  | int (i : Int)
  | float (x : Float)
  | text (s : String)
  | bytes (bs : List UInt8)
  | date (d : Date)
  | moment (m : Moment)
  deriving DecidableEq, Repr

/-- **A configuration value.** -/
inductive Value where
  | scalar (s : Scalar)
  | list (items : List Value)
  | map (entries : List (Scalar × Value))
  deriving Repr

instance : Inhabited Value := ⟨.scalar .null⟩

namespace Scalar

/-- **A scalar as plain text.** -/
def plain : Scalar → String
  | null => "None"
  | bool b => if b then "True" else "False"
  | int i => toString i
  | float x => Decimal.floatText x
  | text s => s
  | bytes bs => Text.quoteBytes bs
  | date d => d.text
  | moment m => m.text

/-- **A scalar inside a written list or mapping**: texts in quotes, dates by their parts. -/
def literal : Scalar → String
  | text s => Text.quote s
  | date d => d.literal
  | moment m => m.literal
  | s => s.plain

/-- The exact number a scalar stands for, as an integer times a power of two. Switches count as one
and zero. -/
def number? : Scalar → Option (Int × Int)
  | bool b => some (if b then 1 else 0, 0)
  | int i => some (i, 0)
  | float x =>
    match Decimal.Binary64.ofFloat x with
    | .finite negative m e => some (if negative then -(m : Int) else m, e)
    | _ => none
  | _ => none

/-- **Two scalars are one key.** Numbers are compared by value whatever their kind, so a switch that
is on is the key one; values that are no number are the same as nothing. -/
def sameKey (a b : Scalar) : Bool :=
  match a, b with
  | null, null => true
  | text s, text t => s == t
  | bytes s, bytes t => s == t
  | date d, date e => d == e
  | moment m, moment n => m.same n
  | a, b =>
    match a.number?, b.number? with
    | some (m, e), some (n, f) =>
      let least := min e f
      m * Int.pow 2 (e - least).toNat == n * Int.pow 2 (f - least).toNat
    | none, none =>
      match a, b with
      | float x, float y => x == y
      | _, _ => false
    | _, _ => false

end Scalar

namespace Value

mutual

/-- Two values are the same or they are not. -/
def decideEq : (a b : Value) → Decidable (a = b)
  | .scalar s, .scalar t =>
    if h : s = t then isTrue (by rw [h]) else isFalse fun e => h (Value.scalar.inj e)
  | .list as, .list bs =>
    match decideItems as bs with
    | isTrue h => isTrue (by rw [h])
    | isFalse h => isFalse fun e => h (Value.list.inj e)
  | .map es, .map fs =>
    match decideEntries es fs with
    | isTrue h => isTrue (by rw [h])
    | isFalse h => isFalse fun e => h (Value.map.inj e)
  | .scalar _, .list _ | .scalar _, .map _ | .list _, .scalar _ | .list _, .map _
  | .map _, .scalar _ | .map _, .list _ => isFalse Value.noConfusion

/-- Two lists of values are the same or they are not. -/
def decideItems : (as bs : List Value) → Decidable (as = bs)
  | [], [] => isTrue rfl
  | [], _ :: _ | _ :: _, [] => isFalse (by simp)
  | a :: as, b :: bs =>
    match decideEq a b, decideItems as bs with
    | isTrue h, isTrue h' => isTrue (by rw [h, h'])
    | isFalse h, _ => isFalse fun e => h (List.cons.inj e).1
    | _, isFalse h' => isFalse fun e => h' (List.cons.inj e).2

/-- Two lists of entries are the same or they are not. -/
def decideEntries : (es fs : List (Scalar × Value)) → Decidable (es = fs)
  | [], [] => isTrue rfl
  | [], _ :: _ | _ :: _, [] => isFalse (by simp)
  | (k, v) :: es, (l, w) :: fs =>
    if h : k = l then
      match decideEq v w, decideEntries es fs with
      | isTrue h', isTrue h'' => isTrue (by rw [h, h', h''])
      | isFalse h', _ => isFalse fun e => h' (Prod.mk.inj (List.cons.inj e).1).2
      | _, isFalse h' => isFalse fun e => h' (List.cons.inj e).2
    else isFalse fun e => h (Prod.mk.inj (List.cons.inj e).1).1

end

instance : DecidableEq Value := decideEq

/-- The null value. -/
abbrev null : Value := .scalar .null

/-- A text as a value. -/
abbrev text (s : String) : Value := .scalar (.text s)

mutual

/-- **A value with its structure**: lists in brackets, mappings in braces, texts in quotes. -/
def literal : Value → String
  | .scalar s => s.literal
  | .list items => "[" ++ ", ".intercalate (literals items) ++ "]"
  | .map entries => "\x7b" ++ ", ".intercalate (entryLiterals entries) ++ "\x7d"

/-- The items of a list, each with its structure. -/
def literals : List Value → List String
  | [] => []
  | v :: rest => v.literal :: literals rest

/-- The entries of a mapping, each with its structure. -/
def entryLiterals : List (Scalar × Value) → List String
  | [] => []
  | (k, v) :: rest => (k.literal ++ ": " ++ v.literal) :: entryLiterals rest

end

mutual

/-- **The text a property gets from a value.** -/
def propertyText : Value → String
  | .scalar (.bool b) => if b then "true" else "false"
  | .scalar s => s.plain
  | .list items => ",".intercalate (propertyTexts items)
  | .map entries => (Value.map entries).literal

/-- The texts of a list's items. -/
def propertyTexts : List Value → List String
  | [] => []
  | v :: rest => v.propertyText :: propertyTexts rest

end

/-- A mapping's entries with a value put in: it takes the place of the value of the same key, whose
first spelling stays, or goes to the end. -/
def putKey (k : Scalar) (v : Value) : List (Scalar × Value) → List (Scalar × Value)
  | [] => [(k, v)]
  | e :: rest => if e.1.sameKey k then (e.1, v) :: rest else e :: putKey k v rest

/-- The mapping of a list of entries, a later value of a key in place of an earlier one. -/
def ofEntries (es : List (Scalar × Value)) : Value :=
  .map (es.foldl (fun acc e => putKey e.1 e.2 acc) [])

/-- The value is null. -/
def isNull : Value → Bool
  | .scalar .null => true
  | _ => false

end Value

end ChannelSerde
