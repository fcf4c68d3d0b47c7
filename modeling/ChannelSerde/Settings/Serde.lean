import ChannelSerde.Settings.DevServices

/-!
# Settings of the serializers

What every channel's serializer and deserializer is told about the registry.
-/

namespace ChannelSerde.Settings

/-- The strategy by which a schema is found if no other is named. -/
def topicStrategy : String := "io.apicurio.registry.serde.strategy.SimpleTopicIdStrategy"

/-- **Settings of the serializers.** -/
structure Serde where
  deriveClass : Bool
  autoRegister : Bool
  resolverStrategy : String
  findLatest : Bool
  groupId : Option String
  deriving DecidableEq, Repr

namespace Serde

/-- The settings where nothing is said. -/
def standard : Serde :=
  { deriveClass := true, autoRegister := true, resolverStrategy := topicStrategy, findLatest := true
    groupId := none }

/-- The fields in the order in which they are declared. -/
def declared : List String :=
  ["derive_class", "auto_register", "artifact_resolver_strategy", "find_latest",
    "explicit_group_id"]

/-- **Settings of given values.** -/
def ofFields (fs : Fields) : Except SettingsError Serde :=
  let make (deriveClass autoRegister : Bool) (resolverStrategy : String) (findLatest : Bool)
      (groupId : Option String) (_ : Unit) : Serde :=
    { deriveClass, autoRegister, resolverStrategy, findLatest, groupId }
  (Checked.start make
    |>.and (fs.read "derive_class" standard.deriveClass switchOf)
    |>.and (fs.read "auto_register" standard.autoRegister switchOf)
    |>.and (fs.read "artifact_resolver_strategy" standard.resolverStrategy textOf)
    |>.and (fs.read "find_latest" standard.findLatest switchOf)
    |>.and (fs.read "explicit_group_id" standard.groupId (optional textOf))
    |>.and (fs.unknown declared)).mapError (.invalid none)

/-- **The values a configuration gives** under the start of a section. -/
def fieldsOf (c : Config) (start : String) : Fields :=
  let text (name : String) : Option Value := (c.get? (start ++ name)).map .text
  let switch (name : String) : Option Value :=
    (c.switch? (start ++ name)).map fun b => .scalar (.bool b)
  OrderedMap.ofList ([
      ("derive_class", switch "derive-class"), ("auto_register", switch "auto-register"),
      ("artifact_resolver_strategy", text "artifact-resolver-strategy"),
      ("find_latest", switch "find-latest"), ("explicit_group_id", text "explicit-group-id")
    ].filterMap fun e => e.2.map fun v => (e.1, v))

/-- **Settings from a configuration**, under the start of the library's keys. -/
def ofConfig (c : Config) (start : String) : Except SettingsError Serde :=
  (ofFields (fieldsOf c start)).mapError (.under start)

end Serde

end ChannelSerde.Settings
