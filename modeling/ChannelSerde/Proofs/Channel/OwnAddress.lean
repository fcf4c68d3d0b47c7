import ChannelSerde.Proofs.Channel.Keys

/-!
# Channels without an address of their own

Whether a registry is needed is read off the names that a configuration lists. A name is taken for
the key of a channel's connector by its start and by its end, and the key of the channel's address is
made from it by exchanging the end. The two tests look at the name from either side, and nothing
makes them look at different parts of it. The start of a direction's keys ends with the full stop
with which the end begins, so for each direction there is one name more that passes both tests: the
one in which they share that stop (`isConnectorKey_iff`). It is the key of no channel, whatever
channels may be called.

Apart from these two names, a name is recognised exactly if it is the key of some channel's
connector, and the key that is made from it is that of the same channel's address
(`someChannelHasNone_iff`).
-/

namespace ChannelSerde

open Text

namespace RegistryUrl

/-! ## Names that are taken for a connector's key -/

/-- The start of a direction's keys and the end of a connector's share a full stop at most. -/
theorem length_shared_le {d : Direction} {n : Nat} (hn : n ≤ connectorEnd.toList.length)
    (h : connectorEnd.toList.take n <:+ (directionStart d).toList) : n ≤ 1 := by
  have hshort : ∀ d, ∀ n < connectorEnd.toList.length + 1,
      connectorEnd.toList.take n <:+ (directionStart d).toList → n ≤ 1 := by
    intro d
    cases d <;> decide
  exact hshort d n (Nat.lt_succ_of_le hn) h

/-- **A name is taken for the key of a channel's connector** if it is that of some channel, or if the
start of a direction and the end share their full stop. -/
theorem isConnectorKey_iff (key : String) :
    isConnectorKey key = true
      ↔ ∃ d, (∃ n, key = channelStart d n ++ "connector") ∨ key = directionStart d ++ "connector" := by
  have hend : connectorEnd = "." ++ "connector" := rfl
  have hboth : isConnectorKey key = true
      ↔ ∃ d, startsWith key (directionStart d) = true ∧ endsWith key connectorEnd = true := by
    rw [isConnectorKey, Bool.and_eq_true, Bool.or_eq_true]
    refine ⟨fun ⟨hs, he⟩ => hs.elim (⟨_, ·, he⟩) (⟨_, ·, he⟩), fun ⟨d, hs, he⟩ => ⟨?_, he⟩⟩
    cases d with
    | incoming => exact .inl hs
    | outgoing => exact .inr hs
  rw [hboth]
  refine exists_congr fun d => ⟨fun ⟨hs, he⟩ => ?_, ?_⟩
  · obtain ⟨n, rfl⟩ | ⟨n, hn, hshared, rfl⟩ := apart_or_shared hs he
    · exact .inl ⟨n, by rw [channelStart_append, String.append_assoc]; rfl⟩
    · obtain rfl | rfl := Nat.le_one_iff_eq_zero_or_eq_one.mp (length_shared_le hn hshared)
      · -- nothing is shared: the channel whose name is empty
        exact .inl ⟨"", by rw [channelStart_append]; rfl⟩
      · exact .inr rfl
  · rintro (⟨n, rfl⟩ | rfl)
    · rw [channelStart_append]
      refine ⟨startsWith_append _ _, ?_⟩
      rw [← String.append_assoc, ← hend]
      exact endsWith_append _ _
    · refine ⟨startsWith_append _ _, ?_⟩
      cases d <;> decide

/-- The key of the address is made by exchanging the end. -/
theorem besideConnector_append (front : String) :
    besideConnector (front ++ "." ++ "connector") = front ++ "." ++ ownUrlEnd := by
  have hkey : front ++ "." ++ "connector" = front ++ connectorEnd := String.append_assoc
  rw [hkey]
  unfold besideConnector
  rw [String.length_append, Nat.add_sub_cancel, String.toList_append, ← String.length_toList,
    List.take_left, String.ofList_toList]

theorem besideConnector_channel (d : Direction) (n : String) :
    besideConnector (channelStart d n ++ "connector") = channelStart d n ++ ownUrlEnd :=
  besideConnector_append ("mp.messaging." ++ d.word ++ "." ++ n)

theorem besideConnector_direction (d : Direction) :
    besideConnector (directionStart d ++ "connector") = directionStart d ++ ownUrlEnd :=
  besideConnector_append ("mp.messaging." ++ d.word)

/-! ## Addresses that are missing -/

/-- **An address is missing** beside the keys with some start: the connector is listed under that
start, it is Kafka's, and the address is not set there. -/
structure LacksAddress (c : Config) (start : String) : Prop where
  listed : start ++ "connector" ∈ c.names
  kafka : c.get? (start ++ "connector") = some kafkaConnector
  unset : c.isSet (start ++ ownUrlEnd) = false

/-- **Some channel has no address of its own**, for any configuration: exactly if the address is
missing beside the keys of a channel of some name, or beside those of a direction, as though it were
a channel. -/
theorem someChannelHasNone_iff (c : Config) :
    someChannelHasNone c = true
      ↔ (∃ d n, LacksAddress c (channelStart d n)) ∨ ∃ d, LacksAddress c (directionStart d) := by
  have hkey : ∀ {start : String}, isConnectorKey (start ++ "connector") = true →
      besideConnector (start ++ "connector") = start ++ ownUrlEnd → LacksAddress c start →
      someChannelHasNone c = true := by
    intro start hconnector hbeside h
    refine List.any_eq_true.mpr ⟨start ++ "connector", h.listed, ?_⟩
    simp [hconnector, hbeside, h.kafka, h.unset]
  constructor
  · intro h
    obtain ⟨key, hlisted, h⟩ := List.any_eq_true.mp h
    simp only [Bool.and_eq_true, beq_iff_eq, Bool.not_eq_true'] at h
    obtain ⟨⟨hconnector, hkafka⟩, hunset⟩ := h
    obtain ⟨d, ⟨n, rfl⟩ | rfl⟩ := (isConnectorKey_iff key).mp hconnector
    · rw [besideConnector_channel] at hunset
      exact .inl ⟨d, n, hlisted, hkafka, hunset⟩
    · rw [besideConnector_direction] at hunset
      exact .inr ⟨d, hlisted, hkafka, hunset⟩
  · rintro (⟨d, n, h⟩ | ⟨d, h⟩)
    · exact hkey ((isConnectorKey_iff _).mpr ⟨d, .inl ⟨n, rfl⟩⟩) (besideConnector_channel d n) h
    · exact hkey ((isConnectorKey_iff _).mpr ⟨d, .inr rfl⟩) (besideConnector_direction d) h

/-- A configuration that lists a direction's start with the end of a connector's key, and no other
name. -/
def bareConfiguration : Config where
  sources := [.ofProperties "application"
    (OrderedMap.ofList [("mp.messaging.incoming.connector", kafkaConnector)])
    Config.applicationOrdinal]
  ranked := List.pairwise_singleton _ _

/-- **A channel is found to have no address where there is no channel.** -/
theorem someChannelHasNone_without_channels :
    someChannelHasNone bareConfiguration = true
      ∧ ¬ ∃ d n, LacksAddress bareConfiguration (channelStart d n) := by
  refine ⟨by decide +kernel, fun ⟨d, n, h⟩ => ?_⟩
  have hnames : bareConfiguration.names = .ofList ["mp.messaging.incoming.connector"] := by
    decide +kernel
  have hkey := h.listed
  rw [hnames, OrderedSet.mem_ofList, List.mem_singleton, channelStart_append] at hkey
  -- the key of a channel has room for both stops
  have hlength := congrArg (·.toList.length) hkey
  simp only [String.toList_append, List.length_append] at hlength
  cases d <;> simp [directionStart, Direction.word] at hlength <;> omega

end RegistryUrl

end ChannelSerde
