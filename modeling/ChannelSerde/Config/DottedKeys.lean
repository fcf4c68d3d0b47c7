import ChannelSerde.OrderedMap
import ChannelSerde.Value

/-!
# Dotted keys

Nested mappings and dotted keys say the same thing: a mapping under `mp` with an entry `messaging`
gives the keys that start with `mp.messaging.`. A mapping is gone through in document order. A value
that is no mapping is filed under its key; a mapping is made dotted by itself first, and its entries
are then put in one after the other. A key that is met again, at whatever depth, takes the later
value. Null files nothing, so it neither sets a key nor erases one.
-/

namespace ChannelSerde.Config

/-- **Properties**: texts under keys, in order. -/
abbrev Properties := OrderedMap String String

mutual

/-- **Properties with what stands under a key put in.** -/
def fileValue (flat : Properties) (key : String) : Value → Properties
  | .scalar .null => flat
  | .scalar s => flat.insert key (Value.scalar s).propertyText
  | .list items => flat.insert key (Value.list items).propertyText
  | .map entries => flat.insertAll (fileEntries .empty (key ++ ".") entries).entries

/-- **Properties with the entries of a mapping put in**, their keys after the given start. -/
def fileEntries (flat : Properties) (start : String) : List (Scalar × Value) → Properties
  | [] => flat
  | (k, v) :: rest => fileEntries (fileValue flat (start ++ k.plain) v) start rest

end

/-- **A mapping as properties.** -/
def dotted (entries : List (Scalar × Value)) (start : String) : Properties :=
  fileEntries .empty start entries

end ChannelSerde.Config
