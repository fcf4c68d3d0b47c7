import ChannelSerde.Channel.Basic
import ChannelSerde.Config.Source
import ChannelSerde.Settings.Serde

/-!
# Serde settings of channels

The layer is a source of configuration that gives every registered channel its serializers, and
all of them together the settings of the connector. It ranks below the application's own
configuration, so each single key can be overridden there.

The properties are synthesized on the first read and kept for the reads that follow. An empty map
stands for "nothing kept yet", so a synthesis that is empty is made again each time; whatever
changes the channels drops what was kept, and so does switching the layer off.
-/

namespace ChannelSerde

open Config

/-- The start of the connector's registry keys. -/
def connectorStart : String := "mp.messaging.connector." ++ kafkaConnector ++ ".apicurio."

/-- **The key of the registry's address**, the only one that the connector reads. -/
def registryUrlKey : String := connectorStart ++ "registry.url"

namespace SerdeLayer

/-- What reads a payload. -/
def payloadDeserializer : String := "io.apicurio.registry.serde.protobuf.ProtobufKafkaDeserializer"

/-- What writes a payload. -/
def payloadSerializer : String := "io.apicurio.registry.serde.protobuf.ProtobufKafkaSerializer"

/-- What reads a key. -/
def keyDeserializer : String := "org.apache.kafka.common.serialization.UUIDDeserializer"

/-- What writes a key. -/
def keySerializer : String := "org.apache.kafka.common.serialization.UUIDSerializer"

/-- A switch as a property. -/
def flag (b : Bool) : String := if b then "true" else "false"

/-- **The settings of a channel**, by the ends of their keys. -/
def channelSettings : Direction → List (String × String)
  | .incoming => [
      ("connector", kafkaConnector), ("key.deserializer", keyDeserializer),
      ("value.deserializer", payloadDeserializer), ("auto.offset.reset", "earliest")]
  | .outgoing => [
      ("connector", kafkaConnector), ("key.serializer", keySerializer),
      ("value.serializer", payloadSerializer)]

/-- The settings of a channel, by their keys. -/
def channelProperties (d : Direction) (name : String) : List (String × String) :=
  (channelSettings d).map fun e => (channelStart d name ++ e.1, e.2)

/-- **The settings of the connector**, by their keys. A group that is not named is left out. -/
def connectorProperties (s : Settings.Serde) : List (String × String) :=
  let group := (Settings.DevServices.nonEmpty s.groupId).toList.map fun g =>
    ("registry.artifact.group-id", g)
  ([("protobuf.derive.class", flag s.deriveClass), ("registry.auto-register", flag s.autoRegister),
      ("registry.artifact-resolver-strategy", s.resolverStrategy),
      ("registry.find-latest", flag s.findLatest)] ++ group).map
    fun e => (connectorStart ++ e.1, e.2)

/-- **The properties of channels**: those of each channel, and those of the connector if there are
channels. -/
def synthesis (s : Settings.Serde) (incoming outgoing : OrderedSet String) : Properties :=
  OrderedMap.ofList (incoming.toList.flatMap (channelProperties .incoming)
    ++ outgoing.toList.flatMap (channelProperties .outgoing)
    ++ if incoming.isEmpty && outgoing.isEmpty then [] else connectorProperties s)

end SerdeLayer

/-- **The layer.** -/
structure SerdeLayer where
  settings : Settings.Serde
  incoming : OrderedSet String
  outgoing : OrderedSet String
  enabled : Bool
  /-- The properties of the last synthesis, empty where there are none to keep. -/
  kept : Properties

namespace SerdeLayer

/-- The name of the layer in listings. -/
def sourceName : String := "ProtobufChannelConfigSource"

/-- The layer without channels, switched off. -/
def empty (s : Settings.Serde) : SerdeLayer :=
  { settings := s, incoming := OrderedSet.empty, outgoing := OrderedSet.empty, enabled := false
    kept := OrderedMap.empty }

/-- The layer with a channel that is read from. -/
def addIncoming (o : SerdeLayer) (name : String) : SerdeLayer :=
  { o with incoming := o.incoming.insert name, kept := OrderedMap.empty }

/-- The layer with a channel that is written to. -/
def addOutgoing (o : SerdeLayer) (name : String) : SerdeLayer :=
  { o with outgoing := o.outgoing.insert name, kept := OrderedMap.empty }

/-- The layer with these channels and no others. -/
def withChannels (o : SerdeLayer) (incoming outgoing : List String) : SerdeLayer :=
  { o with incoming := .ofList incoming, outgoing := .ofList outgoing, kept := OrderedMap.empty }

/-- The layer switched on or off. -/
def switched (o : SerdeLayer) (b : Bool) : SerdeLayer :=
  { o with enabled := b, kept := if b then o.kept else OrderedMap.empty }

/-- **A read**: what was kept, or a new synthesis that is kept from now on. -/
def read (o : SerdeLayer) : Properties × SerdeLayer :=
  if !o.enabled || o.kept.size != 0 then (o.kept, o)
  else
    let properties := synthesis o.settings o.incoming o.outgoing
    (properties, { o with kept := properties })

/-- **What is done to a layer**: its channels are changed, it is switched on or off, or it is read. -/
inductive Use where
  | addIncoming (name : String)
  | addOutgoing (name : String)
  | setChannels (incoming outgoing : List String)
  | switch (b : Bool)
  /-- The value of a key is asked for. -/
  | value (key : String)
  /-- All properties are asked for. -/
  | properties
  /-- All keys are asked for. -/
  | names
  deriving DecidableEq, Repr

/-- **What a layer answers** to what is done to it. -/
inductive Answer where
  | done
  | value (v : Option String)
  | properties (p : Properties)
  | names (ks : List String)
  deriving DecidableEq

/-- **A use of a layer**: what is answered, and the layer after it. -/
def use (o : SerdeLayer) : Use → Answer × SerdeLayer
  | .addIncoming name => (.done, o.addIncoming name)
  | .addOutgoing name => (.done, o.addOutgoing name)
  | .setChannels incoming outgoing => (.done, o.withChannels incoming outgoing)
  | .switch b => (.done, o.switched b)
  | .value key => (.value (o.read.1.get? key), o.read.2)
  | .properties => (.properties o.read.1, o.read.2)
  | .names => (.names o.read.1.keys, o.read.2)

/-- **What a layer answers** to one use after the other. -/
def answers (o : SerdeLayer) : List Use → List Answer
  | [] => []
  | u :: us => (o.use u).1 :: answers (o.use u).2 us

/-- **The layer as a source of configuration**, as it stands. -/
def source (o : SerdeLayer) : Source :=
  .ofProperties sourceName o.read.1 layerOrdinal

end SerdeLayer

end ChannelSerde
