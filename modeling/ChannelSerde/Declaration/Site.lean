import ChannelSerde.Declaration.TypeRef

/-!
# Declarations and classes

Markers stand on declarations: on a method, a field or a parameter. Each marker has a name that says
what it means and a value, the name of a channel. A class is known by its name, its first base, its
further bases, and whether it is an interface.
-/

namespace ChannelSerde

/-- **A marker.** -/
structure Marker where
  name : String
  value : String
  deriving DecidableEq, Repr

namespace Marker

/-- The start of every marker's name. -/
def markerStart : String := "protochannels.annotations."

/-- The method consumes a channel. -/
def incoming : String := markerStart ++ "Incoming"

/-- The method produces a channel. -/
def outgoing : String := markerStart ++ "Outgoing"

/-- The field or parameter sends to a channel. -/
def channel : String := markerStart ++ "Channel"

/-- The method consumes a channel whose payloads have a schema. -/
def protobufIncoming : String := markerStart ++ "ProtobufIncoming"

/-- The method produces a channel whose payloads have a schema. -/
def protobufOutgoing : String := markerStart ++ "ProtobufOutgoing"

/-- The field or parameter sends to a channel whose payloads have a schema. -/
def protobufChannel : String := markerStart ++ "ProtobufChannel"

end Marker

/-- **What is declared.** -/
inductive SiteKind where
  | method
  | field
  | parameter
  deriving DecidableEq, Repr

theorem SiteKind.ne_method_iff {k : SiteKind} : k ≠ method ↔ k = field ∨ k = parameter := by
  cases k <;> decide

/-- The word for a kind. -/
def SiteKind.word : SiteKind → String
  | method => "method"
  | field => "field"
  | parameter => "method_parameter"

/-- **A declaration.** A method has the type that it returns, and the types of its parameters; a
parameter has a position. -/
structure Site where
  kind : SiteKind
  owner : String
  name : String
  type : TypeRef
  parameters : List TypeRef
  markers : List Marker
  position : Option Int
  deriving DecidableEq, Repr

namespace Site

/-- **The full name of a declaration.** A parameter's has its position in it. -/
def fullName (s : Site) : String :=
  match s.kind with
  | .parameter =>
    s.owner ++ "#" ++ ((s.position.map toString).getD "None") ++ ":" ++ s.name
  | _ => s.owner ++ "." ++ s.name

/-- The first marker of a name. -/
def marker? (s : Site) (name : String) : Option Marker :=
  s.markers.find? (·.name == name)

end Site

/-- **Whether a class is an interface.** -/
inductive ClassForm where
  | ofClass
  | ofInterface
  deriving DecidableEq, Repr

/-- The word for a kind. -/
def ClassForm.word : ClassForm → String
  | ofClass => "class"
  | ofInterface => "interface"

/-- **The class at the root of every chain of bases.** -/
def rootClass : String := "builtins.object"

/-- **What is known of a class.** -/
structure ClassRecord where
  name : String
  /-- Its first base. -/
  parent : Option String
  /-- Its further bases. -/
  interfaces : List String
  kind : ClassForm
  deriving DecidableEq, Repr

end ChannelSerde
