import ChannelSerde.Log.Record
import ChannelSerde.OrderedMap
import ChannelSerde.Text.Order

/-!
# Channels

A channel has a name and a direction. The registry holds the channels that need settings for their
payloads; each is registered once, and its first registration is logged with the reason for it.
-/

namespace ChannelSerde

open Log

/-- **The direction of a channel.** -/
inductive Direction where
  | incoming
  | outgoing
  deriving DecidableEq, Repr

/-- The word for a direction. -/
def Direction.word : Direction → String
  | incoming => "incoming"
  | outgoing => "outgoing"

/-- The connector of channels over Kafka. -/
def kafkaConnector : String := "smallrye-kafka"

/-- **The start of a channel's keys.** -/
def channelStart (d : Direction) (name : String) : String :=
  "mp.messaging." ++ d.word ++ "." ++ name ++ "."

/-- **Channels that need settings for their payloads.** -/
structure Channels where
  incoming : OrderedSet String
  outgoing : OrderedSet String
  deriving DecidableEq

namespace Channels

/-- No channels. -/
def none : Channels := ⟨OrderedSet.empty, OrderedSet.empty⟩

/-- There are no channels. -/
def isEmpty (c : Channels) : Bool := c.incoming.isEmpty && c.outgoing.isEmpty

/-- The names of one direction. -/
def names (c : Channels) : Direction → OrderedSet String
  | .incoming => c.incoming
  | .outgoing => c.outgoing

/-- **The channels in order**: incoming ones first, each direction by name. -/
def listed (c : Channels) : List (String × Direction) :=
  (Text.sortNames c.incoming.toList).map (·, Direction.incoming)
    ++ (Text.sortNames c.outgoing.toList).map (·, Direction.outgoing)

/-- The channels with one more. -/
def add (c : Channels) (d : Direction) (name : String) : Channels :=
  match d with
  | .incoming => { c with incoming := c.incoming.insert name }
  | .outgoing => { c with outgoing := c.outgoing.insert name }

/-- What is logged about a new channel. An empty reason is the user's own wish. -/
def newRecord (d : Direction) (name reason : String) : Record :=
  record .channels .debug ("Configuring " ++ d.word ++ " channel " ++ name ++ " ("
    ++ (if reason.isEmpty then "explicit" else reason) ++ ")")

/-- **A registration**: the channels afterwards, and the record if the channel is new. -/
def register (c : Channels) (d : Direction) (name reason : String) : Channels × Option Record :=
  if name ∈ c.names d then (c, Option.none) else (c.add d name, some (newRecord d name reason))

theorem add_of_mem {c : Channels} {d : Direction} {name : String} (h : name ∈ c.names d) :
    c.add d name = c := by
  cases d with
  | incoming => exact congrArg (Channels.mk · c.outgoing) (OrderedSet.insert_of_mem h)
  | outgoing => exact congrArg (Channels.mk c.incoming) (OrderedSet.insert_of_mem h)

theorem register_fst (c : Channels) (d : Direction) (name reason : String) :
    (c.register d name reason).1 = c.add d name := by
  unfold register
  split
  · next h => exact (add_of_mem h).symm
  · rfl

theorem mem_names_add (c : Channels) (d : Direction) (name : String) (d' : Direction) (v : String) :
    v ∈ (c.add d name).names d' ↔ v ∈ c.names d' ∨ (d = d' ∧ name = v) := by
  cases d <;> cases d' <;> simp [add, names, OrderedSet.mem_insert, eq_comm]

/-- A channel that is new goes to the end of its direction, and the other stays as it is. -/
theorem toList_names_add {c : Channels} {d : Direction} {name : String} (h : name ∉ c.names d)
    (d' : Direction) :
    ((c.add d name).names d').toList = (c.names d').toList ++ if d = d' then [name] else [] := by
  cases d <;> cases d'
  · exact OrderedSet.toList_insert_of_notMem h
  · exact (List.append_nil _).symm
  · exact (List.append_nil _).symm
  · exact OrderedSet.toList_insert_of_notMem h

theorem mem_listed (c : Channels) (name : String) (d : Direction) :
    (name, d) ∈ c.listed ↔ name ∈ c.names d := by
  have hsorted : ∀ s : OrderedSet String, name ∈ Text.sortNames s.toList ↔ name ∈ s := fun s =>
    (Text.sortNames_perm s.toList).mem_iff
  cases d <;> simp [listed, names, hsorted]

/-- **The connector bindings of channels**, so that every channel is known to have one. -/
def connectorBindings (c : Channels) (connector : String) : OrderedMap String String :=
  OrderedMap.ofList (c.listed.map fun (n, d) => (channelStart d n ++ "connector", connector))

end Channels

end ChannelSerde
