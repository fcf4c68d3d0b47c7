import ChannelSerde.Channel.RegistryUrl
import ChannelSerde.DevService.Readiness
import ChannelSerde.DevService.Runtime
import ChannelSerde.DevService.Snapshot
import ChannelSerde.Settings.LaunchMode

/-!
# The dev service

One registry at most runs for all builds. A build that asks for the snapshot that is running gets
the same registry; one that asks for another stops it and starts anew. Nothing is started unless it
is wanted, needed and possible, in this order: the snapshot is enabled, no address is configured,
some Kafka channel has no address of its own, containers can be run.

Of a running registry three parts are kept: the container, what it exports, and the snapshot that it
was started with. They are set one after the other and let go together. What the outside does during
a call is data of that call: how the runtime's command ends, whether a container can be created, and
for each thing done to it whether that fails. A call gives back what it answers, the events it
caused, in order, and what it logged.
-/

namespace ChannelSerde

open Log

/-- **An event that the outside can see.** -/
inductive Event where
  | runtimeAsked
  /-- A container is asked for; the number is the one that it gets if it can be created. -/
  | creating (number : Nat) (spec : ContainerSpec)
  | started (number : Nat)
  | stopped (number : Nat)
  | probed (url : String) (timeout : Seconds)
  | exitHookRegistered
  deriving DecidableEq

/-- **A container that was created.** -/
structure Container where
  number : Nat
  id : Option String
  deriving DecidableEq

/-- **The dev service.** -/
structure DevService where
  /-- The container of the running registry. -/
  container : Option Container
  /-- What the running registry exports. -/
  exported : Option Config.Properties
  /-- What the running registry was started with. -/
  snapshot : Option Snapshot
  exitHookRegistered : Bool
  /-- The number of containers created so far. -/
  created : Nat
  runtime : RuntimeStatus
  deriving DecidableEq

/-- **What a build asks for.** -/
structure Request where
  snapshot : Snapshot
  timeout : Option Seconds
  config : Config
  mode : LaunchMode

/-- **What a new container does.** -/
structure Behaviour where
  id : Option String
  startFailure : Option Failure
  url : Except Failure String
  probeFailure : Option Failure
  stopFailure : Option Failure

/-- **What the outside does during a call.** -/
structure World where
  /-- How stopping the held container fails. -/
  heldStopFailure : Option Failure
  /-- How the runtime's command ends. -/
  runtime : ProbeEnd
  /-- The container that is created, or why none is. -/
  create : Except Failure Behaviour

/-- **A registry that has been provided.** -/
structure Provision where
  name : String
  containerId : Option String
  config : Config.Properties
  deriving DecidableEq

/-- **What a call comes to.** -/
structure Reply (α : Type) where
  answer : α
  events : List Event
  records : List Record

namespace DevService

/-- The name of the service. -/
def serviceName : String := "apicurio-registry-protobuf"

/-- The service before the first call. -/
def fresh (runtime : RuntimeStatus) : DevService :=
  { container := none, exported := none, snapshot := none, exitHookRegistered := false, created := 0
    runtime }

/-- A registry is running. -/
def running (s : DevService) : Bool := s.container.isSome

/-- What a registry under a base address exports. -/
def exports (baseUrl : String) : Config.Properties :=
  OrderedMap.ofList [(registryUrlKey, baseUrl ++ registryPath)]

/-- **What dependents are told of a running registry.** -/
def provision (s : DevService) (c : Container) : Provision :=
  { name := serviceName, containerId := c.id, config := s.exported.getD OrderedMap.empty }

/-! ## Stopping -/

/-- What is logged when stopping the registry fails. -/
def stopFailureRecord (f : Failure) : Record :=
  { record .devService .error "Failed to stop Apicurio Registry" with failure := some f.shown }

/-- **The service without its registry**, which is stopped; it is let go even if that fails. -/
def stop (s : DevService) (stopFailure : Option Failure) : Reply Unit × DevService :=
  match s.container with
  | none => (⟨(), [], []⟩, s)
  | some c =>
    (⟨(), [.stopped c.number], stopFailure.toList.map stopFailureRecord⟩,
      { s with container := none, exported := none, snapshot := none })

/-! ## Starting -/

/-- **Why nothing is started**, as it is logged. -/
def skipRecord? (r : Request) : Option Record :=
  if !r.snapshot.enabled then
    some (record .devService .debug
      "Not starting dev services for Apicurio Registry, as it has been disabled in the config.")
  else if r.config.isSet registryUrlKey then
    some (record .devService .debug ("Not starting dev services for Apicurio Registry, "
      ++ registryUrlKey ++ " is configured."))
  else if !RegistryUrl.someChannelHasNone r.config then
    some (record .devService .debug ("Not starting dev services for Apicurio Registry, all the "
      ++ "channels have a registry URL configured."))
  else none

/-- What is logged when containers cannot be run. -/
def noRuntimeRecord : Record :=
  record .devService .warning "Docker isn't working, please run Apicurio Registry yourself."

/-- **What a container is created with.** Others may share it during development only. -/
def spec (r : Request) : ContainerSpec :=
  { image := r.snapshot.image
    port := r.snapshot.port
    serviceName := if r.snapshot.isShared && r.mode == .development then some r.snapshot.serviceName
      else none
    environment := r.snapshot.environment }

/-- The time that a registry has to become ready. -/
def startTimeout (r : Request) : Seconds := r.timeout.getD Waiting.standardTimeout

/-- **A container is brought up**: started, asked for its address, waited for. The address, or the
first failure, and the events. -/
def bringUp (number : Nat) (timeout : Seconds) (b : Behaviour) :
    Except Failure String × List Event :=
  match b.startFailure, b.url with
  | some f, _ => (.error f, [.started number])
  | none, .error f => (.error f, [.started number])
  | none, .ok url =>
    (match b.probeFailure with
      | some f => .error f
      | none => .ok url, [.started number, .probed url timeout])

/-- **The failure to start a registry**: as it is if it is one, or with the failure that led to
it. -/
def startFailure (image : String) : Failure → Failure
  | .start e => .start e
  | .outside kind message =>
    .start
      { reason := "Failed to start Apicurio Registry dev service"
        details := [(.text "image", .text image), (.text "error", .text message)]
        cause := some kind }

/-- What is logged when a half-started container cannot be stopped. -/
def quietStopRecord (f : Failure) : Record :=
  { record .devService .debug "Could not stop half-started registry container" with
    failure := some f.shown }

/-- What is logged when the registry is up. -/
def startedRecord (baseUrl : String) : Record :=
  record .devService .info ("Dev Services for Apicurio Registry (Protobuf) started. "
    ++ "The registry is available at " ++ baseUrl ++ registryPath)

/-- **The service with a registry** that is up from now on. -/
def hold (s : DevService) (c : Container) (baseUrl : String) (snapshot : Snapshot) :
    Reply (Except Failure (Option Provision)) × DevService :=
  let held :=
    { s with container := some c, exported := some (exports baseUrl), snapshot := some snapshot
             exitHookRegistered := true }
  (⟨.ok (some (held.provision c)), if s.exitHookRegistered then [] else [.exitHookRegistered],
      [startedRecord baseUrl]⟩, held)

/-- **A container is created and brought up.** If that fails it is stopped and not held; if it
cannot even be created, the failure is answered as it is. -/
def launch (s : DevService) (r : Request) (w : World) :
    Reply (Except Failure (Option Provision)) × DevService :=
  let number := s.created + 1
  let creation := Event.creating number (spec r)
  match w.create with
  | .error f => (⟨.error f, [creation], []⟩, s)
  | .ok b =>
    let s := { s with created := number }
    match bringUp number (startTimeout r) b with
    | (.ok url, events) =>
      let (reply, s) := s.hold ⟨number, b.id⟩ url r.snapshot
      ({ reply with events := creation :: events ++ reply.events }, s)
    | (.error f, events) =>
      (⟨.error (startFailure r.snapshot.image f), creation :: events ++ [.stopped number],
        b.stopFailure.toList.map quietStopRecord⟩, s)

/-- The events of asking the runtime. -/
def askEvents (asked : RuntimeStatus.Reply) : List Event :=
  if asked.asked then [.runtimeAsked] else []

/-- **A registry is started** if it is wanted, needed and possible. -/
def start (s : DevService) (r : Request) (w : World) :
    Reply (Except Failure (Option Provision)) × DevService :=
  match skipRecord? r with
  | some skipped => (⟨.ok none, [], [skipped]⟩, s)
  | none =>
    let asked := s.runtime.ask w.runtime
    let events := askEvents asked
    let s := { s with runtime := asked.status }
    match asked.available with
    | .error f => (⟨.error f, events, asked.records⟩, s)
    | .ok false => (⟨.ok none, events, asked.records ++ [noRuntimeRecord]⟩, s)
    | .ok true =>
      let (reply, s) := s.launch r w
      ({ reply with
          events := events ++ reply.events
          records := asked.records ++ reply.records }, s)

/-- What is logged when another registry is asked for. -/
def restartRecord : Record :=
  record .devService .info "Apicurio Registry dev service configuration changed, restarting"

/-- The running registry was started with what is asked for. -/
def matchesRunning (s : DevService) (r : Request) : Bool := s.snapshot.any r.snapshot.same

/-- **A registry for a build**: the running one, a new one, or none. -/
def ensure (s : DevService) (r : Request) (w : World) :
    Reply (Except Failure (Option Provision)) × DevService :=
  match s.container with
  | none => s.start r w
  | some c =>
    if s.matchesRunning r then (⟨.ok (some (s.provision c)), [], []⟩, s)
    else
      let (stopped, s) := s.stop w.heldStopFailure
      let (reply, s) := s.start r w
      ({ reply with
          events := stopped.events ++ reply.events
          records := restartRecord :: stopped.records ++ reply.records }, s)

end DevService

end ChannelSerde
