import ChannelSerde.Config.Basic
import ChannelSerde.Settings.Field

/-!
# Settings of the dev service

What a user may say about the registry that is started for a build: whether to start it at all, from
which image, under which port, and how long to wait for it. The same settings come from a
configuration or from given values; a configuration hands its texts to the same readers, and what it
leaves unset keeps its default.
-/

namespace ChannelSerde.Settings

open Text

/-- The start of the keys that this library reads. -/
def sectionStart : String := "apicurio-registry.protobuf."

/-- The key that switches dev services off for all. -/
def globalSwitchKey : String := "devservices.enabled"

/-- The key of the timeout for all dev services. -/
def globalTimeoutKey : String := "devservices.timeout"

/-- The image that is started if no other is named. -/
def defaultImage : String := "apicurio/apicurio-registry:3.1.4"

/-- The name of the service that others may share. -/
def defaultServiceName : String := "apicurio-registry"

/-- **Settings of the dev service.** -/
structure DevServices where
  enabled : Option Bool
  image : Option String
  port : Option (Fin (maxPort + 1))
  isShared : Bool
  serviceName : String
  environment : Config.Properties
  timeout : Option Float
  deriving DecidableEq

namespace DevServices

/-- The fields in the order in which they are declared. -/
def declared : List String :=
  ["enabled", "image_name", "port", "shared", "service_name", "container_env", "timeout_seconds"]

/-- An image that is named by blanks only is none. -/
def namedImage (image : Option String) : Option String :=
  image.filter fun s => !isBlankText s

/-- Settings with their parts read one after the other. -/
def ofParts (enabled : Option Bool) (image : Option String) (port : Option (Fin (maxPort + 1)))
    (isShared : Bool) (serviceName : String) (environment : Config.Properties)
    (timeout : Option Float) (_ : Unit) : DevServices :=
  { enabled, image := namedImage image, port, isShared, serviceName, environment, timeout }

/-- The timeout among fields. -/
def readTimeout [TextRules] (fs : Fields) : Except Escape (Checked (Option Float)) :=
  match fs.get? "timeout_seconds" with
  | none => .ok (.ok none)
  | some v => (timeoutOf v).map (·.mapError fun c => [⟨["timeout_seconds"], c⟩])

/-- The variables among fields. -/
def readEnvironment (fs : Fields) : Checked Config.Properties :=
  match fs.get? "container_env" with
  | none => .ok OrderedMap.empty
  | some v => variablesOf "container_env" v

/-- **Settings of given values.** -/
def ofFields [TextRules] (fs : Fields) : Except SettingsError DevServices :=
  match readTimeout fs with
  | .error e => .error (.escape e)
  | .ok timeout =>
    (Checked.start ofParts
      |>.and (fs.read "enabled" none (optional switchOf))
      |>.and (fs.read "image_name" none (optional textOf))
      |>.and (fs.read "port" none (optional portOf))
      |>.and (fs.read "shared" true switchOf)
      |>.and (fs.read "service_name" defaultServiceName textOf)
      |>.and (readEnvironment fs)
      |>.and timeout
      |>.and (fs.unknown declared)).mapError (.invalid none)

/-- A text that is not empty. -/
def nonEmpty (s : Option String) : Option String := s.filter fun t => !t.isEmpty

/-- **The values a configuration gives** under the start of a section. A timeout that is empty
leaves the word to the one for all dev services. -/
def fieldsOf (c : Config) (start : String) : Fields :=
  let text (name : String) : Option Value := (c.get? (start ++ name)).map .text
  let switch (name : String) : Option Value :=
    (c.switch? (start ++ name)).map fun b => .scalar (.bool b)
  let timeout := (nonEmpty (c.get? (start ++ "timeout"))).or (c.get? globalTimeoutKey)
  let environment := c.under (start ++ "container-env.")
  OrderedMap.ofList ([
      ("enabled", switch "enabled"), ("image_name", text "image-name"), ("port", text "port"),
      ("service_name", text "service-name"), ("timeout_seconds", timeout.map .text),
      ("shared", switch "shared"),
      ("container_env", some (.map (environment.entries.map fun e => (.text e.1, .text e.2))))
    ].filterMap fun e => e.2.map fun v => (e.1, v))

/-- **Settings from a configuration**, under the start of the library's keys. -/
def ofConfig [TextRules] (c : Config) (start : String) : Except SettingsError DevServices :=
  let place := start ++ "devservices."
  (ofFields (fieldsOf c place)).mapError (.under place)

end DevServices

/-- **Dev services are not switched off for all.** -/
def globallyEnabled (c : Config) : Bool :=
  (c.switch? globalSwitchKey).getD true

end ChannelSerde.Settings
