import ChannelSerde.Config.DottedKeys
import ChannelSerde.Settings.Duration

/-!
# Reading one setting

A setting is given as a value of any kind and read as a switch, a text, a port, a number of seconds
or a set of variables. Each reader is lenient in its own way: a switch may be a word or a number, a
port may be a text that the rule for integers takes. What cannot be read is refused with a cause.

Settings are read together: `Checked` collects what is wrong with each of them, in the order in
which they are declared.
-/

namespace ChannelSerde.Settings

open Text Decimal

/-- **A refused value** and the path that leads to it. -/
structure Problem where
  path : List String
  cause : Refusal
  deriving DecidableEq, Repr

/-- **Settings read together**: what was read, or all problems. -/
abbrev Checked (α : Type) := Except (List Problem) α

/-- Nothing read yet. -/
def Checked.start {α : Type} (a : α) : Checked α := .ok a

/-- A further setting beside those that were read before. -/
def Checked.and {α β : Type} (f : Checked (α → β)) (a : Checked α) : Checked β :=
  match f, a with
  | .ok f, .ok a => .ok (f a)
  | .error ps, .ok _ => .error ps
  | .ok _, .error qs => .error qs
  | .error ps, .error qs => .error (ps ++ qs)

section Laws

variable {α β γ : Type}

theorem Checked.map_and (h : β → γ) (f : Checked (α → β)) (a : Checked α) :
    (Checked.and f a).map h = Checked.and (f.map fun g x => h (g x)) a := by
  cases f <;> cases a <;> rfl

theorem Checked.and_ok (f : Checked (α → β)) (x : α) :
    Checked.and f (.ok x) = f.map fun g => g x := by
  cases f <;> rfl

theorem Checked.map_start (h : α → β) (a : α) : (Checked.start a).map h = Checked.start (h a) := rfl

end Laws

/-! ## Integers -/

/-- **A whole number that a double is**, if it is one. Beyond 64 bits it is too long. -/
def integerOfFloat (x : Float) : Except Refusal Int :=
  match Binary64.ofFloat x with
  | .finite negative m e =>
    let scale := Nat.pow 2 (-e).toNat
    let n := m * Nat.pow 2 e.toNat
    if n % scale != 0 then .error .fractional
    else if Nat.pow 2 63 ≤ n / scale then .error .integerTooLong
    else .ok (if negative then -(n / scale : Nat) else (n / scale : Nat))
  | _ => .error .notFinite

/-- **An integer.** A switch counts as one or zero. -/
def integerOf [TextRules] : Value → Except Refusal Int
  | .scalar (.int i) => .ok i
  | .scalar (.bool b) => .ok (if b then 1 else 0)
  | .scalar (.float x) => integerOfFloat x
  | .scalar (.text s) => TextRules.integer s
  | _ => .error .notInteger

/-- **A port.** -/
def portOf [TextRules] (v : Value) : Except Refusal (Fin (maxPort + 1)) := do
  let i ← integerOf v
  if i < 0 then .error .belowLeast
  else if h : i.toNat < maxPort + 1 then .ok ⟨i.toNat, h⟩
  else .error .aboveGreatest

/-! ## Switches -/

/-- The words for switches that are off. -/
def offWords : List String := ["0", "off", "f", "false", "n", "no"]

/-- The words for switches that are on. -/
def onWords : List String := ["1", "on", "t", "true", "y", "yes"]

/-- **A switch**: a word in any case, or the number one or zero. -/
def switchOf : Value → Except Refusal Bool
  | .scalar (.bool b) => .ok b
  | .scalar (.text s) =>
    let word := String.ofList (s.toList.map Char.toLower)
    if onWords.contains word then .ok true
    else if offWords.contains word then .ok false
    else .error .unknownSwitchWord
  | .scalar (.int i) =>
    if i == 0 then .ok false
    else if i == 1 then .ok true
    else if -(Int.pow 2 63) ≤ i && i < Int.pow 2 63 then .error .unknownSwitchWord
    else .error .notSwitch
  | .scalar (.float x) =>
    match integerOfFloat x with
    | .ok 0 => .ok false
    | .ok 1 => .ok true
    | .ok _ => .error .unknownSwitchWord
    | .error _ => .error .notSwitch
  | _ => .error .notSwitch

/-! ## Texts, variables and seconds -/

/-- **A text.** -/
def textOf : Value → Except Refusal String
  | .scalar (.text s) => .ok s
  | _ => .error .notText

/-- A value that may be null. -/
def optional {α : Type} (read : Value → Except Refusal α) (v : Value) : Except Refusal (Option α) :=
  if v.isNull then .ok none else (read v).map some

/-- **A number of seconds**, which is greater than zero. -/
def positiveOf (v : Value) : Except Refusal Float := do
  let x ← match v with
    | .scalar (.float x) => .ok x
    | .scalar (.bool b) => .ok (floatOfInt (if b then 1 else 0))
    | .scalar (.int i) =>
      match Binary64.ofFloat (floatOfInt i) with
      | .finite _ _ _ => .ok (floatOfInt i)
      | _ => .error .notNumber
    | _ => .error .notNumber
  if x > floatOfInt 0 then .ok x else .error .notPositive

/-- **A timeout**: a number of seconds, or a text that spells a duration. The inner result is
refused; the outer one is no answer at all. -/
def timeoutOf [TextRules] (v : Value) : Except Escape (Except Refusal (Option Float)) :=
  match v with
  | .scalar (.text s) =>
    match durationSeconds s with
    | .ok x => .ok ((positiveOf (.scalar (.float x))).map some)
    | .error .unreadable => .ok (.error (.invalidDuration s))
    | .error (.escape e) => .error e
  | v => .ok (optional positiveOf v)

/-- **Variables**: texts under names. -/
def variablesOf (field : String) : Value → Checked Config.Properties
  | .map entries =>
    let read (e : Scalar × Value) : Checked (String × String) :=
      match textOf e.2 with
      | .ok s => .ok (e.1.plain, s)
      | .error c => .error [⟨[field, e.1.plain], c⟩]
    (entries.foldr (fun e rest => Checked.and ((read e).map List.cons) rest) (.ok [])).map
      OrderedMap.ofList
  | _ => .error [⟨[field], .notVariables⟩]

/-! ## Fields -/

/-- **Settings as they are given**: values under names. -/
abbrev Fields := OrderedMap String Value

/-- A field that is read by a reader, or its default where it is not given. -/
def Fields.read {α : Type} (fs : Fields) (name : String) (default : α)
    (reader : Value → Except Refusal α) : Checked α :=
  match fs.get? name with
  | none => .ok default
  | some v => (reader v).mapError fun c => [⟨[name], c⟩]

theorem Fields.read_insert_of_ne {α : Type} (fs : Fields) {name field : String} (h : name ≠ field)
    (v : Value) (default : α) (reader : Value → Except Refusal α) :
    Fields.read (fs.insert field v) name default reader = fs.read name default reader := by
  rw [Fields.read, OrderedMap.get?_insert_of_ne fs h]
  rfl

/-- The fields that are none of those declared. -/
def Fields.unknown (fs : Fields) (declared : List String) : Checked Unit :=
  match fs.keys.filter fun k => !declared.contains k with
  | [] => .ok ()
  | ks => .error (ks.map fun k => ⟨[k], .unknownField⟩)

/-- **Why settings are refused.** -/
inductive SettingsError where
  /-- A value is not answered, and not refused. -/
  | escape (e : Escape)
  /-- The problems of settings, and the start of their keys if they come from a configuration. -/
  | invalid (start : Option String) (problems : List Problem)
  deriving DecidableEq, Repr

/-- What is said of settings that come from a configuration. -/
def SettingsError.message? : SettingsError → Option String
  | .invalid (some start) _ => some ("Invalid settings under " ++ quote start)
  | _ => none

/-- Settings that come from the keys with a given start. -/
def SettingsError.under (start : String) : SettingsError → SettingsError
  | .invalid _ problems => .invalid (some start) problems
  | e => e

end ChannelSerde.Settings
