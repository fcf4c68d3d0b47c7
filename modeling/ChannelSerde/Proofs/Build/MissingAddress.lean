import ChannelSerde.Proofs.Build.Precedence
import ChannelSerde.Proofs.Channel.OwnAddress

/-!
# An address that is missed is seen to be missing

Two checks of a build look for channels without an address. The service goes through the names that
a configuration lists and takes those for channels that look like the key of a connector; the check
at the end goes through the channels that were detected and makes the keys from their names. If the
second could miss an address that the first does not, a build would warn of it and never provide a
registry.

It cannot, whatever the channels are called. The bindings list the connector's key of every channel
(`connector_mem_names`), so the service comes across each of them; that the user, the layer or
nobody else answers the key makes no difference to that. A channel is then left out only where its
connector is another one.
-/

namespace ChannelSerde

open Config RegistryUrl

namespace RegistryUrl

/-- **When a missing address is warned of**: there are channels, no address is where it belongs, and
some channel has none of its own. -/
theorem missingRecord_mem_iff {c : Config} {channels : Channels} {rs : List Log.Record}
    (h : validate c channels = .ok rs) :
    missingRecord ∈ rs ↔ isSettled c channels = false
      ∧ ∃ d, ∃ n ∈ channels.names d, c.isSet (channelStart d n ++ ownUrlEnd) = false := by
  have hevery : everyChannelHasOne c channels = false
      ↔ ∃ d, ∃ n ∈ channels.names d, c.isSet (channelStart d n ++ ownUrlEnd) = false := by
    rw [everyChannelHasOne, List.all_eq_false]
    constructor
    · rintro ⟨⟨n, d⟩, hlisted, hunset⟩
      exact ⟨d, n, (Channels.mem_listed channels n d).mp hlisted, Bool.eq_false_iff.mpr hunset⟩
    · rintro ⟨d, n, hn, hunset⟩
      exact ⟨(n, d), (Channels.mem_listed channels n d).mpr hn, Bool.eq_false_iff.mp hunset⟩
  rw [← hevery, ← Bool.or_eq_false_iff]
  unfold validate at h
  cases hm : misplaced? c channels with
  | some m =>
    rw [hm] at h
    exact absurd h (by simp)
  | none =>
    rw [hm] at h
    obtain rfl := Except.ok.inj h
    cases isSettled c channels || everyChannelHasOne c channels <;> simp

end RegistryUrl

namespace Build

section Seen

variable {channels : Channels} {d : Direction} {n : String}

/-- **The key of every channel's connector is listed**, with a registry or without. -/
theorem connector_mem_names (sources : List Source) (o : SerdeLayer) (p : Option Provision)
    (hn : n ∈ channels.names d) :
    channelStart d n ++ "connector" ∈ (withProvision (assemble sources o channels) p).names := by
  have hbinding : channelStart d n ++ "connector" ∈ (defaultsSource channels).names := by
    show _ ∈ (channels.connectorBindings kafkaConnector).keys
    rw [Channels.connectorBindings, OrderedMap.mem_keys_ofList, List.map_map]
    exact List.mem_map.mpr ⟨(n, d), (Channels.mem_listed channels n d).mpr hn, rfl⟩
  have hmem : defaultsSource channels ∈ sources ++ [o.source, defaultsSource channels] := by simp
  cases p with
  | none => exact (mem_names_ofSources _ _).mpr ⟨_, hmem, hbinding⟩
  | some p =>
    rw [withProvision, assemble, adding_ofSources]
    exact (mem_names_ofSources _ _).mpr ⟨_, List.mem_append_left _ hmem, hbinding⟩

/-- **A Kafka channel without an address is seen.** -/
theorem someChannelHasNone_of_channel (sources : List Source) (o : SerdeLayer)
    (p : Option Provision) (hn : n ∈ channels.names d)
    (hkafka : (withProvision (assemble sources o channels) p).get? (channelStart d n ++ "connector")
      = some kafkaConnector)
    (hunset : (withProvision (assemble sources o channels) p).isSet (channelStart d n ++ ownUrlEnd)
      = false) :
    someChannelHasNone (withProvision (assemble sources o channels) p) = true :=
  (someChannelHasNone_iff _).mpr (.inl ⟨d, n, connector_mem_names sources o p hn, hkafka, hunset⟩)

end Seen

/-- **What is warned of is seen by the service.** For any channels, whatever their names, any
sources of the user's, and any layer: the configuration of a build, before a registry is provided or
after, has a channel without an address as far as the service can tell, if one of the channels has
Kafka's connector and no address of its own that is not blank. So where all of them have Kafka's
connector, the check of the whole configuration warns of a missing address only if the service sees
one to be missing. And the configuration and the channels that a build comes to are of that sort. -/
theorem missing_address_seen [Settings.TextRules] :
    (∀ (sources : List Source) (o : SerdeLayer) (channels : Channels) (p : Option Provision),
        let c := withProvision (assemble sources (applied o channels) channels) p
        (∀ d, ∀ n ∈ channels.names d,
            c.get? (channelStart d n ++ "connector") = some kafkaConnector →
            c.isSet (channelStart d n ++ ownUrlEnd) = false → someChannelHasNone c = true)
          ∧ ((∀ d, ∀ n ∈ channels.names d,
                c.get? (channelStart d n ++ "connector") = some kafkaConnector) →
              ∀ rs, validate c channels = .ok rs → missingRecord ∈ rs →
                someChannelHasNone c = true))
      ∧ ∀ (st : BuildState) (input : BuildInput) (w : World) (out : BuildOutcome),
          (st.run input w).1.answer = .ok out →
          ∃ o, out.config = withProvision
            (assemble input.sources (applied o out.channels) out.channels) out.provision := by
  refine ⟨fun sources o channels p => ?_, fun st input w out hrun => ?_⟩
  · intro c
    refine ⟨fun d n hn hkafka hunset => someChannelHasNone_of_channel sources _ p hn hkafka hunset,
      fun hkafka rs hvalid hwarned => ?_⟩
    obtain ⟨-, d, n, hn, hunset⟩ := (missingRecord_mem_iff hvalid).mp hwarned
    exact someChannelHasNone_of_channel sources _ p hn (hkafka d n hn) hunset
  · obtain ⟨o, p, rfl, -, -⟩ := outcome_of_answer hrun
    exact ⟨o, rfl⟩

section Blank

attribute [local instance] Settings.TextRules.library

/-- A build whose user has left the address blank is warned, and the service sees the channel that
the address is missing for. -/
theorem missing_address_seen_blankInput :
    (∀ d, ∀ n ∈ (channels blankInput).names d,
        blankConfiguration.get? (channelStart d n ++ "connector") = some kafkaConnector)
      ∧ validate blankConfiguration (channels blankInput) = .ok [missingRecord]
      ∧ someChannelHasNone blankConfiguration = true := by
  have hchannels := blankConfiguration_facts.1
  have hkafka : ∀ d, ∀ n ∈ (channels blankInput).names d,
      blankConfiguration.get? (channelStart d n ++ "connector") = some kafkaConnector := by
    rw [hchannels]
    intro d
    cases d <;> decide +kernel
  have hwarned : validate blankConfiguration (channels blankInput) = .ok [missingRecord] := by
    have hunset : blankConfiguration.isSet (channelStart .incoming "orders" ++ ownUrlEnd) = false :=
      by decide +kernel
    have hmissing : everyChannelHasOne blankConfiguration (channels blankInput) = false := by
      refine List.all_eq_false.mpr ⟨("orders", .incoming), ?_, Bool.eq_false_iff.mp hunset⟩
      rw [hchannels, Channels.mem_listed]
      decide
    have hsettled : isSettled blankConfiguration (channels blankInput) = false := by
      rw [hchannels]
      decide +kernel
    rw [validate, blankConfiguration_facts.2.1, hsettled, hmissing]
    rfl
  have hseen := (missing_address_seen.1 [blankAddress] (.empty .standard) (channels blankInput)
    none).2
  have hsame : withProvision (assemble [blankAddress] (applied (.empty .standard)
      (channels blankInput)) (channels blankInput)) none = blankConfiguration :=
    configuration_blankInput
  rw [hsame] at hseen
  exact ⟨hkafka, hwarned, hseen hkafka _ hwarned (List.mem_singleton_self _)⟩

end Blank

end Build

end ChannelSerde
