import ChannelSerde.Channel.SerdeLayer
import ChannelSerde.Config.Basic
import ChannelSerde.Log.Record

/-!
# The address of the registry

The connector reads the registry's address under one key, and a channel may have an address of its
own. Some other keys look as if they were read and are not; an address under one of them is refused
before anything is started, so that a container never hides the mistake. An address that is missing
altogether is only a warning, since it may still be given when the application starts.
-/

namespace ChannelSerde

open Log

namespace RegistryUrl

/-- **The keys that look as if they were read.** -/
def deadKeys : List String := [
  "apicurio.registry.url", "kafka.apicurio.registry.url",
  "mp.messaging.connector.smallrye-kafka.registry.url",
  "apicurio-registry.protobuf.registry-url"]

/-- **An address under a key that is not read.** -/
structure Misplaced where
  key : String
  value : Option String
  deriving DecidableEq, Repr

/-- What is said of it. -/
def Misplaced.message (m : Misplaced) : String :=
  "Registry URL is set via " ++ Text.quote m.key
    ++ ", which is not passed to the Kafka connector. Set " ++ registryUrlKey ++ "="
    ++ ((Settings.DevServices.nonEmpty m.value).getD "<registry-url>") ++ " instead."

/-- The first key with an address that is not read. -/
def deadKey? (c : Config) : Option String := deadKeys.find? c.isSet

/-- Nothing has to be checked: there are no channels, or the address is where it belongs. -/
def isSettled (c : Config) (channels : Channels) : Bool :=
  channels.isEmpty || c.isSet registryUrlKey

/-- **The address that is refused**, if one is. -/
def misplaced? (c : Config) (channels : Channels) : Option Misplaced :=
  if isSettled c channels then none else (deadKey? c).map fun k => ⟨k, c.get? k⟩

/-- The end of the key of a channel's own address. -/
def ownUrlEnd : String := "apicurio.registry.url"

/-- Every channel has an address of its own. -/
def everyChannelHasOne (c : Config) (channels : Channels) : Bool :=
  channels.listed.all fun (n, d) => c.isSet (channelStart d n ++ ownUrlEnd)

/-- What is logged when no address is known. -/
def missingRecord : Record :=
  record .registryUrl .warning
    ("No Apicurio Registry URL configured and no dev service is running; Protobuf channels will "
      ++ "fail to (de)serialize until " ++ registryUrlKey ++ " is set")

/-- **The check of a whole configuration**: a refusal, or what is logged. -/
def validate (c : Config) (channels : Channels) : Except Misplaced (List Record) :=
  match misplaced? c channels with
  | some m => .error m
  | none =>
    .ok (if isSettled c channels || everyChannelHasOne c channels then [] else [missingRecord])

/-- The start of the keys of all channels of a direction. -/
def directionStart (d : Direction) : String := "mp.messaging." ++ d.word ++ "."

/-- The end of the key of a channel's connector. -/
def connectorEnd : String := ".connector"

/-- The key is that of a channel's connector. -/
def isConnectorKey (key : String) : Bool :=
  (Text.startsWith key (directionStart .incoming) || Text.startsWith key (directionStart .outgoing))
    && Text.endsWith key connectorEnd

/-- The key of the address beside a connector's key. -/
def besideConnector (key : String) : String :=
  String.ofList (key.toList.take (key.length - connectorEnd.length)) ++ "." ++ ownUrlEnd

/-- **Some Kafka channel has no address of its own.** -/
def someChannelHasNone (c : Config) : Bool :=
  c.names.toList.any fun key =>
    isConnectorKey key && c.get? key == some kafkaConnector && !c.isSet (besideConnector key)

end RegistryUrl

end ChannelSerde
