import ChannelSerde.Config.DottedKeys
import ChannelSerde.Text.Blank
import ChannelSerde.Text.LowerCase

/-!
# Configuration sources

A source is whatever lists names and answers keys: a map of properties, the environment, the serde
settings this library adds, or something foreign. Listing and answering are separate. The
environment answers a dotted key from a variable that is spelled with underscores and lists only the
variable; a foreign source may list a name that it does not answer. So a source is given by what it
lists and by what it answers, and nothing is assumed between the two.

Sources are ranked by ordinal, the greatest first. The well-known ones are named here.
-/

namespace ChannelSerde.Config

open Text

/-- Environment variables. -/
def environmentOrdinal : Int := 300

/-- The application's configuration file. -/
def applicationOrdinal : Int := 250

/-- The serde settings of detected channels. -/
def layerOrdinal : Int := 200

/-- The address of a started registry. -/
def devServicesOrdinal : Int := 150

/-- The connector bindings of detected channels. -/
def defaultsOrdinal : Int := 100

/-- **A source of configuration.** -/
structure Source where
  /-- What the source is called in listings. -/
  name : String
  /-- Its rank: the greatest is asked first. -/
  ordinal : Int
  /-- The properties it shows as its own. -/
  properties : Properties
  /-- The names it lists. -/
  names : List String
  /-- What it answers to a key. -/
  answer : String → Option String

namespace Source

/-- **A source over properties** lists its keys and answers exactly those. -/
def ofProperties (name : String) (properties : Properties) (ordinal : Int) : Source :=
  { name, ordinal, properties, names := properties.keys, answer := properties.get? }

/-- The properties of values: a key whose value is null is left out. -/
def propertiesOf (values : OrderedMap String Value) : Properties :=
  OrderedMap.ofList (values.entries.filterMap fun e =>
    if e.2.isNull then none else some (e.1, e.2.propertyText))

/-- **A source over values.** -/
def ofValues (name : String) (values : OrderedMap String Value) (ordinal : Int) : Source :=
  ofProperties name (propertiesOf values) ordinal

/-- **The key with underscores** for everything but ASCII letters and digits. -/
def underscored (key : String) : String :=
  String.ofList (key.toList.map fun c => if c.isAlphanum then c else '_')

/-- ASCII letters made capitals. -/
def capitals (key : String) : String :=
  String.ofList (key.toList.map Char.toUpper)

/-- **What the environment answers**: the variable of the very name, else the one with underscores,
else that in capitals. An underscored name is ASCII, so its capitals are too. -/
def environmentAnswer (vars : Properties) (key : String) : Option String :=
  (vars.get? key).or
    ((vars.get? (underscored key)).or (vars.get? (capitals (underscored key))))

/-- **The environment as a source** lists its variables by their own names. -/
def environment (vars : Properties) (ordinal : Int) : Source :=
  { name := "EnvConfigSource", ordinal, properties := vars, names := vars.keys
    answer := environmentAnswer vars }

/-- **A foreign source** that lists names and answers none of them. -/
def silent (name : String) (names : List String) (ordinal : Int) : Source :=
  { name, ordinal, properties := OrderedMap.empty, names, answer := fun _ => none }

/-- **A source over properties in one line**, for logs: name in quotes, ordinal, number of
entries. -/
def summary (s : Source) : String :=
  "MapConfigSource(name=" ++ quote s.name ++ ", ordinal=" ++ toString s.ordinal ++ ", size="
    ++ toString s.properties.size ++ ")"

theorem ofProperties_answer_isSome (name : String) (ps : Properties) (o : Int) (k : String) :
    ((ofProperties name ps o).answer k).isSome = true ↔ k ∈ (ofProperties name ps o).names :=
  OrderedMap.get?_isSome ps k

end Source

end ChannelSerde.Config
