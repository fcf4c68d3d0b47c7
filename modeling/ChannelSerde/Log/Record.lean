/-!
# Log records

What happens during a build is told in log records, which are values: a function that logs gives its
records back in the order in which they were made. Where they go is decided elsewhere.
-/

namespace ChannelSerde.Log

/-- **How much a record matters.** -/
inductive Level where
  | debug
  | info
  | warning
  | error
  | critical
  deriving DecidableEq, Repr

/-- The rank of a level. -/
def Level.rank : Level → Nat
  | debug => 10
  | info => 20
  | warning => 30
  | error => 40
  | critical => 50

/-- The word for a level. -/
def Level.word : Level → String
  | debug => "DEBUG"
  | info => "INFO"
  | warning => "WARNING"
  | error => "ERROR"
  | critical => "CRITICAL"

/-- The name under which all of this library logs. -/
def libraryName : String := "protochannels"

/-- **A part of the library that logs.** -/
inductive Component where
  | build
  | channels
  | payloads
  | markers
  | registryUrl
  | devService
  | readiness
  | runtime
  deriving DecidableEq, Repr

/-- The name under which a part logs. -/
def Component.name : Component → String
  | build => libraryName ++ ".processor"
  | channels => libraryName ++ ".detection.registry"
  | payloads => libraryName ++ ".detection.classifier"
  | markers => libraryName ++ ".detection.transform"
  | registryUrl => libraryName ++ ".config.validation"
  | devService => libraryName ++ ".devservices.lifecycle"
  | readiness => libraryName ++ ".devservices.container"
  | runtime => libraryName ++ ".devservices.docker_status"

/-- **A log record**, with the failure that it reports if it reports one. -/
structure Record where
  level : Level
  logger : String
  message : String
  failure : Option String
  deriving DecidableEq, Repr

/-- A record of a part of the library. -/
def record (c : Component) (level : Level) (message : String) : Record :=
  { level, logger := c.name, message, failure := none }

end ChannelSerde.Log
