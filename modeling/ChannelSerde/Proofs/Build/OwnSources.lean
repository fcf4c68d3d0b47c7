import ChannelSerde.Build.Basic
import ChannelSerde.Proofs.Channel.Keys
import ChannelSerde.Proofs.Config.Listing

/-!
# What the library's own sources answer

A build adds two sources of its own before a registry is asked for: the layer with the settings of
the detected channels, and the connector bindings. Both are sources over properties, and whatever
the channels are called, all keys of these properties are the library's own
(`answer_of_not_ownKey`). So a key that is none of them has the value that the user's sources give
it (`get?_assemble`), and what the user has under a start that none of them has is not added to
(`under_assemble`).
-/

namespace ChannelSerde

open Config Text

namespace Build

/-- The layer of a build answers a synthesis: its channels are new, so nothing was kept. -/
theorem applied_read (o : SerdeLayer) (c : Channels) :
    (applied o c).read.1
      = SerdeLayer.synthesis o.settings (.ofList c.incoming.toList) (.ofList c.outgoing.toList) :=
  rfl

/-- The sources that a build adds to the user's before a registry is asked for. -/
def ownSources (o : SerdeLayer) (c : Channels) : List Source :=
  [(applied o c).source, defaultsSource c]

variable {o : SerdeLayer} {c : Channels} {k : String}

theorem mem_ownSources {s : Source} :
    s ∈ ownSources o c ↔ s = (applied o c).source ∨ s = defaultsSource c := by
  rw [ownSources, List.mem_cons, List.mem_singleton]

/-- **They answer no key but the library's own.** -/
theorem answer_of_not_ownKey (hk : ¬ OwnKey k) : ∀ s ∈ ownSources o c, s.answer k = none := by
  have hlayer : (applied o c).source.answer k = none := by
    show (applied o c).read.1.get? k = none
    rw [applied_read]
    exact SerdeLayer.synthesis_get?_of_not_ownKey hk _ _ _
  have hbindings : (defaultsSource c).answer k = none := by
    show (c.connectorBindings kafkaConnector).get? k = none
    rw [OrderedMap.get?_eq_none_iff, Channels.connectorBindings, OrderedMap.mem_keys_ofList,
      List.map_map, List.mem_map]
    rintro ⟨e, -, rfl⟩
    have hend : "connector" ∈ SerdeLayer.channelEnds e.2 := by cases e.2 <;> decide
    exact hk (.ofChannel e.1 hend)
  intro s hs
  obtain rfl | rfl := mem_ownSources.mp hs
  · exact hlayer
  · exact hbindings

/-- **They list no key but the library's own**, since they list what they answer. -/
theorem ownKey_of_mem_names {s : Source} (hs : s ∈ ownSources o c) (hk : k ∈ s.names) :
    OwnKey k := by
  have hanswered : (s.answer k).isSome = true := by
    obtain rfl | rfl := mem_ownSources.mp hs <;>
      exact (Source.ofProperties_answer_isSome _ _ _ k).mpr hk
  by_contra hnot
  rw [answer_of_not_ownKey hnot s hs] at hanswered
  exact Bool.false_ne_true hanswered

/-- **A key that is none of the library's own** has the value that the user's sources give it. -/
theorem get?_assemble (hk : ¬ OwnKey k) (sources : List Source) (o : SerdeLayer) (c : Channels) :
    (assemble sources (applied o c) c).get? k = (ofSources sources).get? k :=
  get?_ofSources_append_of_silent (answer_of_not_ownKey hk) sources

/-- **Under a start that is not about messaging** there is what the user's sources have there. -/
theorem under_assemble {start : String}
    (hstart : ∀ k, startsWith k start = true → startsWith k messagingStart = false)
    (sources : List Source) (o : SerdeLayer) (c : Channels) :
    (assemble sources (applied o c) c).under start = (ofSources sources).under start := by
  refine under_ofSources_append_of_silent (fun s hs k hk => ?_) (fun s hs k hk => ?_) sources
  · rw [← Bool.not_eq_true]
    exact fun h => not_ownKey_of_start (hstart k h) (ownKey_of_mem_names hs hk)
  · exact answer_of_not_ownKey (not_ownKey_of_start (hstart k hk)) s hs

end Build

end ChannelSerde
