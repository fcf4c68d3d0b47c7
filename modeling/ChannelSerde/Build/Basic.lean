import ChannelSerde.Channel.Finding
import ChannelSerde.DevService.Running
import ChannelSerde.Log.BuildId
import ChannelSerde.Log.Setup
import ChannelSerde.Declaration.Conversion

/-!
# A build

A build detects the channels of an application, gives them their settings, provides a registry if
one is needed, and makes every marker a plain one. It assembles one configuration: the user's
sources, the layer with the detected channels, the connector bindings, and the address of the
registry once there is one.

A misplaced address is refused before the registry is provided and the whole is checked again after
it. The second check can only warn: the further source has one key, that of the connector, and a
user who set it is not told to move it.

All of this is done under the id of the build (`BuildState.run`).
-/

namespace ChannelSerde

open Log

/-- **What a build is given.** -/
structure BuildInput where
  index : AnyIndex
  sources : List Config.Source
  mode : LaunchMode
  /-- What classifies types, if it is given. -/
  classifier? : Option Classifier
  buildId : String
  /-- The level for the library's logs; without one nothing is set up. -/
  logLevel : Option String

/-- What classifies types in a build: unless it is given, the standard rule over the classes of the
index. -/
def BuildInput.classifier (input : BuildInput) : Classifier :=
  input.classifier?.getD (MessageRule.standard.classifierOver input.index.symbols.classNamed)

/-- **What outlives a build**: the service, the layer if it is one for all builds, and the ids. -/
structure BuildState where
  service : DevService
  shared : Option SerdeLayer
  ids : BuildIds

/-- **Why a build stops.** -/
inductive BuildError where
  | misplacedUrl (m : RegistryUrl.Misplaced)
  | settings (e : Settings.SettingsError)
  | service (f : Failure)

/-- **What a build comes to.** -/
structure BuildOutcome where
  channels : Channels
  converted : AnyIndex
  config : Config
  layer : SerdeLayer
  provision : Option Provision

namespace Build

/-- The name of the source of connector bindings. -/
def defaultsSourceName : String := "DefaultValuesConfigSource"

/-- The name of the source of a provided registry. -/
def devServicesSourceName : String := "DevServicesConfigSource"

/-- The source of the connector bindings of channels. -/
def defaultsSource (c : Channels) : Config.Source :=
  .ofProperties defaultsSourceName (c.connectorBindings kafkaConnector) Config.defaultsOrdinal

/-- The source of a provided registry. -/
def provisionSource (p : Provision) : Config.Source :=
  .ofProperties devServicesSourceName p.config Config.devServicesOrdinal

/-- **The layer of a build**: the shared one, or a new one with the user's settings. -/
def layerOf (shared : Option SerdeLayer) (sources : List Config.Source) :
    Except Settings.SettingsError SerdeLayer :=
  match shared with
  | some o => .ok o
  | none =>
    (Settings.Serde.ofConfig (.ofSources sources) Settings.sectionStart).map SerdeLayer.empty

/-- The layer with the channels of a build, switched on. -/
def applied (o : SerdeLayer) (c : Channels) : SerdeLayer :=
  (o.withChannels c.incoming.toList c.outgoing.toList).switched true

/-- **The configuration of a build** before a registry is provided. -/
def assemble (sources : List Config.Source) (o : SerdeLayer) (c : Channels) : Config :=
  .ofSources (sources ++ [o.source, defaultsSource c])

/-- What is logged when dev services are switched off for all. -/
def disabledRecord : Record :=
  record .build .debug "Dev services are disabled globally"

/-- What the service is asked for. -/
def request (c : Config) (mode : LaunchMode) (s : Settings.DevServices) : Request :=
  { snapshot := .ofSettings s, timeout := s.timeout.map .real, config := c, mode }

/-- **A registry is provided** unless the build is for production or dev services are off. -/
def provide [Settings.TextRules] (s : DevService) (c : Config) (mode : LaunchMode) (w : World) :
    Reply (Except BuildError (Option Provision)) × DevService :=
  if mode = .production then (⟨.ok none, [], []⟩, s)
  else if !Settings.globallyEnabled c then (⟨.ok none, [], [disabledRecord]⟩, s)
  else
    match Settings.DevServices.ofConfig c Settings.sectionStart with
    | .error e => (⟨.error (.settings e), [], []⟩, s)
    | .ok settings =>
      let (reply, s) := s.ensure (request c mode settings) w
      (⟨reply.answer.mapError .service, reply.events, reply.records⟩, s)

/-- The closing record of a build. -/
def completeRecord (c : Channels) : Record :=
  record .build .info ("Build complete: " ++ toString c.listed.length ++ " Protobuf channels")

/-- The configuration with a provided registry. -/
def withProvision (c : Config) : Option Provision → Config
  | none => c
  | some p => c.adding (provisionSource p)

/-- **The end of a build**, once a registry has been provided or not. -/
def finish (input : BuildInput) (c : Config) (channels : Channels) (o : SerdeLayer)
    (p : Option Provision) : Except BuildError BuildOutcome × List Record :=
  let conversions := conversionRecords plainRules input.index.symbols.declarations
  let c := withProvision c p
  match RegistryUrl.validate c channels with
  | .error m => (.error (.misplacedUrl m), conversions)
  | .ok warnings =>
    (.ok { channels, converted := input.index.convert plainRules, config := c, layer := o
           provision := p },
      conversions ++ warnings ++ [completeRecord channels])

end Build

namespace BuildState

/-- **What a build does** under its id. -/
def work [Settings.TextRules] (st : BuildState) (input : BuildInput) (w : World) :
    Reply (Except BuildError BuildOutcome) × BuildState :=
  let (channels, detected) := Channels.none.detectBy input.classifier input.index.symbols
  match Build.layerOf st.shared input.sources with
  | .error e => (⟨.error (.settings e), [], detected⟩, st)
  | .ok o =>
    let o := Build.applied o channels
    let st := { st with shared := st.shared.map fun _ => o }
    let c := Build.assemble input.sources o channels
    match RegistryUrl.misplaced? c channels with
    | some m => (⟨.error (.misplacedUrl m), [], detected⟩, st)
    | none =>
      let (provided, service) := Build.provide st.service c input.mode w
      let st := { st with service }
      match provided.answer with
      | .error e => (⟨.error e, provided.events, detected ++ provided.records⟩, st)
      | .ok p =>
        let (result, records) := Build.finish input c channels o p
        (⟨result, provided.events, detected ++ provided.records ++ records⟩, st)

/-- The state as a build starts: its id is set. -/
def started (st : BuildState) (input : BuildInput) : BuildState :=
  { st with ids := st.ids.push input.buildId }

/-- The state as a build ends that was given a token: the id before its own is restored. -/
def restored (st : BuildState) (token : Nat) : BuildState :=
  { st with ids := (st.ids.reset? token).getD st.ids }

/-- **A build.** Its id is set first, and however it ends, the id before is restored. -/
def run [Settings.TextRules] (st : BuildState) (input : BuildInput) (w : World) :
    Reply (Except BuildError BuildOutcome) × BuildState :=
  let (reply, after) := (st.started input).work input w
  (reply, after.restored st.ids.tokens.length)

end BuildState

namespace Build

/-- **The setup of logs during a build.** -/
def logSetup (level : Option String) : Setup :=
  match level with
  | none => .plain
  | some word => Setup.plain.configure word

/-- The records of a build that reach the level set for it. -/
def shownRecords (level : Option String) (rs : List Record) : List Record :=
  rs.filter fun r => (logSetup level).enabled r.logger r.level.rank

/-- **The lines printed during a build.** -/
def printedLines (level : Option String) (build : String) (rs : List Record) : List String :=
  rs.flatMap fun r => (logSetup level).printed r.level.rank r.logger build r.message

end Build

end ChannelSerde
