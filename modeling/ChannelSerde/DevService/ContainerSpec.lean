import ChannelSerde.Config.DottedKeys

/-!
# The registry's container

What a container of the registry is created with. Inside, the registry always listens on one port;
outside, on the given one if that is greater than zero, and on any free one otherwise. A container
that others may share is labelled with the name of its service.
-/

namespace ChannelSerde

open Config

/-- **What a container is created with.** -/
structure ContainerSpec where
  image : String
  port : Int
  serviceName : Option String
  environment : Properties
  deriving DecidableEq

namespace ContainerSpec

/-- The port inside a container. -/
def innerPort : Nat := 8080

/-- The label of a container that others may share. -/
def serviceLabel : String := "quarkus-dev-service-apicurio-registry-protobuf"

/-- **The port outside**, none for any free one. -/
def outerPort (c : ContainerSpec) : Option Int := if 0 < c.port then some c.port else none

/-- **The labels of a container.** -/
def labels (c : ContainerSpec) : Option (String × String) :=
  c.serviceName.map (serviceLabel, ·)

/-- **The variables inside a container**: the given ones win. -/
def innerEnvironment (c : ContainerSpec) : Properties :=
  (OrderedMap.ofList [("QUARKUS_PROFILE", "prod")]).insertAll c.environment.entries

/-- **The address of a container** under a host and a port. -/
def url (host : String) (port : Int) : String := "http://" ++ host ++ ":" ++ toString port

end ContainerSpec

/-- The path of the registry's interface. -/
def registryPath : String := "/apis/registry/v3"

/-- The path under which the registry answers when it is ready. -/
def readinessPath : String := registryPath ++ "/system/info"

end ChannelSerde
