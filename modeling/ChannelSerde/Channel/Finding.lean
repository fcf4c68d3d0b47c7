import ChannelSerde.Channel.Basic
import ChannelSerde.Declaration.Payload

/-!
# Detection of channels

Markers say where channels are used. Those for structured payloads name a channel that needs
settings whatever its type. The plain ones need a look at the type: what a method takes for an
incoming channel, what it returns for an outgoing one, what a field or parameter wraps for one that
is sent to.

Detection lists its findings first, in order; registering them is a fold over the list. So what is
found does not depend on what was registered before, and the two can be reasoned about apart. What
classifies types is given to detection, and need not know the classes of the index.
-/

namespace ChannelSerde

open Log

/-- **What detection finds.** -/
inductive Finding where
  /-- A class whose record is missing. -/
  | unknownClass (name : String)
  /-- A channel that needs settings, and why. -/
  | channel (direction : Direction) (name : String) (reason : String)
  deriving DecidableEq, Repr

namespace Finding

/-- The findings of a marker that needs no look at a type. -/
def marked (s : Symbols) (marker reason : String) (d : Direction) : List Finding :=
  (s.usages marker).map fun u => .channel d u.marker.value reason

/-- The classes that are missed when types are classified up to the first structured one. -/
def missed (k : Classifier) : List TypeRef → List Finding
  | [] => []
  | r :: rest =>
    (k.unknownClass? r).toList.map .unknownClass
      ++ if k.isStructured r then [] else missed k rest

/-- The findings of a plain marker: the types that decide, and the reason that is given. -/
def classified (k : Classifier) (d : Direction) (word : String) (u : Usage)
    (types : List TypeRef) : List Finding :=
  missed k types
    ++ if types.any k.isStructured then
      [.channel d u.marker.value (word ++ " on " ++ u.site.fullName)] else []

/-- The findings of incoming markers: they stand on methods, and a parameter decides. -/
def incoming (k : Classifier) (s : Symbols) : List Finding :=
  (s.usages Marker.incoming).flatMap fun u =>
    if u.site.kind = .method then classified k .incoming "Incoming" u u.site.parameters else []

/-- The findings of outgoing markers: they stand on methods, and what is returned decides. -/
def outgoing (k : Classifier) (s : Symbols) : List Finding :=
  (s.usages Marker.outgoing).flatMap fun u =>
    if u.site.kind = .method then classified k .outgoing "Outgoing" u [u.site.type] else []

/-- The findings of channel markers: they stand on fields and parameters, and what these wrap
decides. -/
def channels (k : Classifier) (s : Symbols) : List Finding :=
  (s.usages Marker.channel).flatMap fun u =>
    if u.site.kind = .method then []
    else classified k .outgoing "Channel" u u.site.type.firstArgument.toList

/-- **All findings**, in order. -/
def all (k : Classifier) (s : Symbols) : List Finding :=
  marked s Marker.protobufIncoming "ProtobufIncoming" .incoming
    ++ marked s Marker.protobufOutgoing "ProtobufOutgoing" .outgoing
    ++ marked s Marker.protobufChannel "ProtobufChannel" .outgoing
    ++ incoming k s ++ outgoing k s ++ channels k s

/-- The channels and records after a finding. -/
def absorb (acc : Channels × List Record) (f : Finding) : Channels × List Record :=
  match f with
  | .unknownClass name => (acc.1, acc.2 ++ [MessageRule.unknownClassRecord name])
  | .channel d name reason =>
    let (c, r) := acc.1.register d name reason
    (c, acc.2 ++ r.toList)

/-- The closing record of detection. -/
def summary (c : Channels) : Record :=
  record .channels .info ("Configured " ++ toString c.incoming.size ++ " incoming and "
    ++ toString c.outgoing.size ++ " outgoing Protobuf channels")

end Finding

/-- **The channels of an index**, added to those already registered, and the records of
detection. -/
def Channels.detectBy (k : Classifier) (s : Symbols) (registered : Channels) :
    Channels × List Record :=
  let (c, rs) := (Finding.all k s).foldl Finding.absorb (registered, [])
  (c, rs ++ [Finding.summary c])

/-- **The channels of an index by a rule** over its own classes. -/
def Channels.detect (k : MessageRule) (t : SymbolTable) (registered : Channels) :
    Channels × List Record :=
  registered.detectBy (k.classifier t.classes) t

/-- **The channels of any index by a rule** over the classes that it answers. -/
def Channels.detectIn (k : MessageRule) (s : Symbols) (registered : Channels) :
    Channels × List Record :=
  registered.detectBy (k.classifierOver s.classNamed) s

end ChannelSerde
