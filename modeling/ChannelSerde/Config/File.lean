import ChannelSerde.Config.Properties
import ChannelSerde.Config.Source
import ChannelSerde.Document.Json
import ChannelSerde.Document.Yaml.Basic

/-!
# The application's configuration file

A file's suffix says how it is read: JSON, YAML or property lines. Nested mappings become dotted
keys, so the formats say the same things. The file is looked for first and opened next; its suffix
is looked at only then, and its text only if the suffix is known.

A YAML document whose value is void (null, zero, a switch that is off, anything empty) counts as an
empty mapping; a JSON document never does.
-/

namespace ChannelSerde.Config

open Text Document

/-- **A relative path**: its components, without empty ones and without single full stops. -/
structure FilePath where
  components : List String
  deriving DecidableEq, Repr

namespace FilePath

/-- A text cut at its slashes. -/
def atSlashes : List Char → List (List Char)
  | [] => [[]]
  | c :: rest =>
    if c == '/' then [] :: atSlashes rest
    else match atSlashes rest with
      | part :: parts => (c :: part) :: parts
      | [] => [[c]]

/-- The path that a text spells. -/
def ofText (s : String) : FilePath :=
  ⟨((atSlashes s.toList).map String.ofList).filter fun p => p != "" && p != "."⟩

/-- The path with slashes, a full stop if it has no components. -/
def text (p : FilePath) : String :=
  if p.components.isEmpty then "." else "/".intercalate p.components

/-- The last component. -/
def name (p : FilePath) : String := p.components.getLast?.getD ""

/-- **The suffix**: the name from its last full stop on. A full stop that is the first or the last
character starts none. -/
def suffix (p : FilePath) : String :=
  let cs := p.name.toList
  let tail := (cs.reverse.takeWhile (· != '.')).reverse
  if tail.isEmpty || cs.length ≤ tail.length + 1 then "" else String.ofList ('.' :: tail)

end FilePath

/-- **What is found at a path.** -/
inductive FileContent where
  | missing
  | directory
  | bytes (bs : List UInt8)

/-- **Why a configuration file cannot be loaded.** -/
inductive FileError where
  | notFound (path : FilePath)
  | directory
  | unknownSuffix (suffix : String)
  | notText
  | document (fault : Fault)
  | notMapping (path : FilePath)

/-- The message of the faults that have one. -/
def FileError.message? : FileError → Option String
  | .notFound path => some ("Config file not found: " ++ path.text)
  | .unknownSuffix suffix =>
    some ("Unsupported config format: " ++ suffix ++ ". Use .json, .yaml or .properties")
  | .notMapping path =>
    some ("Config file " ++ path.text ++ " must contain a mapping at the top level")
  | _ => none

/-- **A format of configuration files.** -/
inductive FileFormat where
  | json
  | yaml
  | properties
  deriving DecidableEq, Repr

/-- The format of a suffix. -/
def FileFormat.ofSuffix? (suffix : String) : Option FileFormat :=
  if suffix == ".json" then some .json
  else if suffix == ".yaml" || suffix == ".yml" then some .yaml
  else if suffix == ".properties" then some .properties
  else none

/-- **A void value**: null, zero, off, or empty. -/
def isVoid : Value → Bool
  | .scalar .null => true
  | .scalar (.bool b) => !b
  | .scalar (.int i) => i == 0
  | .scalar (.float x) => x == Decimal.floatOfInt 0
  | .scalar (.text s) => s.isEmpty
  | .scalar (.bytes bs) => bs.isEmpty
  | .scalar _ => false
  | .list items => items.isEmpty
  | .map entries => entries.isEmpty

/-- The value of a text in a format. -/
def FileFormat.read (text : String) : FileFormat → Except Fault Value
  | .json => Json.read text.toList
  | .yaml => (Yaml.read text.toList).map fun v => if isVoid v then .map [] else v
  | .properties =>
    .ok (.map ((readProperties text).entries.map fun e => (.text e.1, .text e.2)))

/-- The properties of a document's value, which has to be a mapping. -/
def propertiesOfDocument (path : FilePath) : Value → Except FileError Properties
  | .map entries => .ok (dotted entries "")
  | _ => .error (.notMapping path)

/-- **The source of a configuration file.** -/
def load (path : FilePath) (content : FileContent) (ordinal : Int) : Except FileError Source :=
  match content with
  | .missing => .error (.notFound path)
  | .directory => .error .directory
  | .bytes bs =>
    match FileFormat.ofSuffix? path.suffix with
    | none => .error (.unknownSuffix path.suffix)
    | some format =>
      match String.fromUTF8? ⟨bs.toArray⟩ with
      | none => .error .notText
      | some text => do
        let value ← (format.read (String.ofList (unifyNewlines text.toList))).mapError .document
        let properties ← propertiesOfDocument path value
        return .ofProperties ("ApplicationConfigSource[" ++ path.name ++ "]") properties ordinal

end ChannelSerde.Config
