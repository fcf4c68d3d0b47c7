import Mathlib.Data.List.Infix
import ChannelSerde.Channel.RegistryUrl

/-!
# The keys of the library's own settings

The name of a channel is any text, and it stands in the middle of the channel's keys, so what a key
is can only be read off its two ends. That is enough. The start tells the direction, and the ends of
the settings are suffix-free: none of them, with the full stop before it, is the last part of
another. So a key gives back its direction, its name and its setting (`channelStart_append_inj`),
whatever full stops the name has, and every setting of every channel is found under its key
(`synthesis_get?_channel`).

For the same reason no name can spell a key that says something else. Every key of the library's own
starts with the word for messaging, and none ends as the key of an address does
(`OwnKey.startsWith`, `OwnKey.endsWith_url`).
-/

namespace ChannelSerde

open Text RegistryUrl

namespace SerdeLayer

/-- The ends of the keys of a channel's settings. -/
def channelEnds (d : Direction) : List String := (channelSettings d).map Prod.fst

/-- The ends of the keys of the connector's settings, that of the group included. -/
def connectorEnds : List String :=
  ["protobuf.derive.class", "registry.auto-register", "registry.artifact-resolver-strategy",
    "registry.find-latest", "registry.artifact.group-id"]

end SerdeLayer

open SerdeLayer

/-- **A key of the library's own**: one of a channel of any name, or one of the connector. -/
inductive OwnKey : String → Prop
  | ofChannel {d : Direction} (name : String) {e : String} (he : e ∈ channelEnds d) :
      OwnKey (channelStart d name ++ e)
  | ofConnector {e : String} (he : e ∈ connectorEnds) : OwnKey (connectorStart ++ e)

/-! ## What a key is, by its ends -/

/-- The start of all keys about channels and connectors. -/
def messagingStart : String := "mp.messaging."

theorem channelStart_append (d : Direction) (name e : String) :
    channelStart d name ++ e = directionStart d ++ (name ++ ("." ++ e)) := by
  show directionStart d ++ name ++ "." ++ e = _
  generalize directionStart d = head
  simp only [String.append_assoc]

/-- **Every key of the library's own is about messaging.** -/
theorem OwnKey.startsWith {k : String} (h : OwnKey k) : startsWith k messagingStart = true := by
  cases h with
  | @ofChannel d name e he =>
    have hk : channelStart d name ++ e
        = messagingStart ++ (d.word ++ ("." ++ (name ++ ("." ++ e)))) := by
      unfold channelStart messagingStart
      simp only [String.append_assoc]
    rw [hk]
    exact startsWith_append _ _
  | @ofConnector e he =>
    have hk : connectorStart ++ e
        = messagingStart ++ ("connector." ++ (kafkaConnector ++ (".apicurio." ++ e))) := by
      unfold connectorStart messagingStart
      rw [show "mp.messaging.connector." = "mp.messaging." ++ "connector." from rfl]
      simp only [String.append_assoc]
    rw [hk]
    exact startsWith_append _ _

/-- **Every key of the library's own ends as some setting does.** -/
theorem OwnKey.exists_end {k : String} (h : OwnKey k) :
    ∃ s, ∃ e ∈ channelEnds .incoming ++ channelEnds .outgoing ++ connectorEnds, k = s ++ e := by
  cases h with
  | @ofChannel d name e he =>
    refine ⟨channelStart d name, e, List.mem_append_left _ (List.mem_append.mpr ?_), rfl⟩
    cases d with
    | incoming => exact .inl he
    | outgoing => exact .inr he
  | @ofConnector e he => exact ⟨connectorStart, e, List.mem_append_right _ he, rfl⟩

/-- **No key of the library's own ends as that of an address does.** -/
theorem OwnKey.endsWith_url {k : String} (h : OwnKey k) : endsWith k "url" = false := by
  have hends : ∀ e ∈ channelEnds .incoming ++ channelEnds .outgoing ++ connectorEnds,
      "url".toList.length ≤ e.toList.length ∧ endsWith e "url" = false := by
    decide
  obtain ⟨s, e, he, rfl⟩ := h.exists_end
  obtain ⟨hlength, hend⟩ := hends e he
  rw [endsWith_append_of_le hlength]
  exact hend

theorem not_ownKey_of_url {s e : String} (h : endsWith e "url" = true) : ¬ OwnKey (s ++ e) := by
  intro hown
  have hend := hown.endsWith_url
  unfold endsWith at h hend
  rw [List.isSuffixOf_iff_suffix] at h
  rw [← Bool.not_eq_true, List.isSuffixOf_iff_suffix, String.toList_append] at hend
  exact hend (h.trans (List.suffix_append _ _))

theorem not_ownKey_of_start {k : String} (h : startsWith k messagingStart = false) : ¬ OwnKey k :=
  fun hown => Bool.false_ne_true (h.symm.trans hown.startsWith)

theorem not_ownKey_registryUrlKey : ¬ OwnKey registryUrlKey := not_ownKey_of_url (by decide)

/-! ## Channels have their keys to themselves -/

/-- The ends of the settings are suffix-free. -/
theorem eq_of_suffix_of_mem_channelEnds {d : Direction} {e e' : String} (he : e ∈ channelEnds d)
    (he' : e' ∈ channelEnds d) (h : ("." ++ e).toList <:+ ("." ++ e').toList) : e = e' := by
  have hfree : ∀ d, ∀ e ∈ channelEnds d, ∀ e' ∈ channelEnds d,
      ("." ++ e).toList <:+ ("." ++ e').toList → e = e' := by
    intro d
    cases d <;> decide
  exact hfree d e he e' he' h

/-- No direction's keys are those of the other. -/
theorem eq_of_directionStart_append {d d' : Direction} {s t : String}
    (h : directionStart d ++ s = directionStart d' ++ t) : d = d' := by
  have hlength : (directionStart d).toList.length = (directionStart d').toList.length := by
    cases d <;> cases d' <;> decide
  rw [← String.toList_inj, String.toList_append, String.toList_append] at h
  have hstart := List.append_inj_left h hlength
  cases d <;> cases d'
  · rfl
  · exact absurd hstart (by decide)
  · exact absurd hstart (by decide)
  · rfl

/-- **A key gives back its direction, its name and its setting.** -/
theorem channelStart_append_inj {d d' : Direction} {n n' e e' : String} (he : e ∈ channelEnds d)
    (he' : e' ∈ channelEnds d') (h : channelStart d n ++ e = channelStart d' n' ++ e') :
    d = d' ∧ n = n' ∧ e = e' := by
  rw [channelStart_append, channelStart_append] at h
  obtain rfl := eq_of_directionStart_append h
  have hrest : n ++ ("." ++ e) = n' ++ ("." ++ e') := (String.append_right_inj _).mp h
  have hlast : ∀ s t : String, t.toList <:+ (s ++ t).toList := by
    intro s t
    rw [String.toList_append]
    exact List.suffix_append _ _
  -- of two last parts of one text, one is the last part of the other
  obtain rfl : e = e' := by
    obtain hs | hs := List.suffix_or_suffix_of_suffix (hlast n _) (hrest ▸ hlast n' _)
    · exact eq_of_suffix_of_mem_channelEnds he he' hs
    · exact (eq_of_suffix_of_mem_channelEnds he' he hs).symm
  exact ⟨rfl, (String.append_left_inj _).mp hrest, rfl⟩

namespace SerdeLayer

/-- A channel's setting is named by its end. -/
theorem eq_of_mem_channelSettings {d : Direction} {e v v' : String}
    (h : (e, v) ∈ channelSettings d) (h' : (e, v') ∈ channelSettings d) : v = v' := by
  have hone : ∀ d, ∀ p ∈ channelSettings d, ∀ q ∈ channelSettings d, p.1 = q.1 → p.2 = q.2 := by
    intro d
    cases d <;> decide
  exact hone d _ h _ h' rfl

/-! ## What is synthesized -/

theorem mem_flatMap_channelProperties {d : Direction} {names : List String} {p : String × String} :
    p ∈ names.flatMap (channelProperties d)
      ↔ ∃ n ∈ names, ∃ e ∈ channelSettings d, p = (channelStart d n ++ e.1, e.2) := by
  simp only [List.mem_flatMap, channelProperties, List.mem_map, eq_comm (b := p)]

theorem exists_of_mem_connectorProperties {s : Settings.Serde} {p : String × String}
    (h : p ∈ connectorProperties s) : ∃ e ∈ connectorEnds, p.1 = connectorStart ++ e := by
  obtain ⟨e, he, rfl⟩ := List.mem_map.mp h
  refine ⟨e.1, ?_, rfl⟩
  obtain hfixed | hgroup := List.mem_append.mp he
  · exact List.mem_append_left ["registry.artifact.group-id"] (List.mem_map_of_mem hfixed)
  · obtain ⟨g, -, rfl⟩ := List.mem_map.mp hgroup
    show "registry.artifact.group-id" ∈ connectorEnds
    decide

/-- **The properties that are synthesized** are the settings of channels, and of the connector. -/
theorem mem_synthesized {s : Settings.Serde} {incoming outgoing : OrderedSet String}
    {p : String × String}
    (h : p ∈ incoming.toList.flatMap (channelProperties .incoming)
      ++ outgoing.toList.flatMap (channelProperties .outgoing)
      ++ if incoming.isEmpty && outgoing.isEmpty then [] else connectorProperties s) :
    (∃ d n, ∃ e ∈ channelSettings d, p = (channelStart d n ++ e.1, e.2))
      ∨ ∃ e ∈ connectorEnds, p.1 = connectorStart ++ e := by
  obtain h | h := List.mem_append.mp h
  · obtain h | h := List.mem_append.mp h <;>
    · obtain ⟨n, -, e, he, rfl⟩ := mem_flatMap_channelProperties.mp h
      exact .inl ⟨_, n, e, he, rfl⟩
  · split at h
    · exact absurd h List.not_mem_nil
    · exact .inr (exists_of_mem_connectorProperties h)

/-- **Only keys of the library's own are synthesized.** -/
theorem synthesis_get?_of_not_ownKey {k : String} (hk : ¬ OwnKey k) (s : Settings.Serde)
    (incoming outgoing : OrderedSet String) : (synthesis s incoming outgoing).get? k = none := by
  rw [OrderedMap.get?_eq_none_iff, synthesis, OrderedMap.mem_keys_ofList]
  intro hmem
  obtain ⟨p, hp, rfl⟩ := List.mem_map.mp hmem
  obtain ⟨d, n, e, he, rfl⟩ | ⟨e, he, hkey⟩ := mem_synthesized hp
  · exact hk (.ofChannel n (List.mem_map_of_mem he))
  · exact hk (hkey ▸ .ofConnector he)

theorem connectorStart_append_ne (d : Direction) (n e e' : String) :
    connectorStart ++ e ≠ channelStart d n ++ e' := by
  intro h
  have hlength : (directionStart d).toList.length ≤ connectorStart.toList.length := by
    cases d <;> decide
  have hstart : connectorStart.toList.take (directionStart d).toList.length
      ≠ (directionStart d).toList := by
    cases d <;> decide
  rw [channelStart_append, ← String.toList_inj, String.toList_append, String.toList_append] at h
  have htake := congrArg (List.take (directionStart d).toList.length) h
  rw [List.take_append_of_le_length hlength, List.take_left] at htake
  exact hstart htake

/-- **Every setting of every channel is found under its key**, whatever the channels are called. -/
theorem synthesis_get?_channel (s : Settings.Serde) {incoming outgoing : OrderedSet String}
    {d : Direction} {n : String} (hn : n ∈ (Channels.mk incoming outgoing).names d)
    {e : String × String} (he : e ∈ channelSettings d) :
    (synthesis s incoming outgoing).get? (channelStart d n ++ e.1) = some e.2 := by
  refine OrderedMap.get?_ofList_of_forall ?_ fun p hp hkey => ?_
  · refine List.mem_append_left _ ?_
    cases d with
    | incoming =>
      exact List.mem_append_left _ (mem_flatMap_channelProperties.mpr ⟨n, hn, e, he, rfl⟩)
    | outgoing =>
      exact List.mem_append_right _ (mem_flatMap_channelProperties.mpr ⟨n, hn, e, he, rfl⟩)
  · -- whatever is filed under this key is this setting
    obtain ⟨d', n', e', he', rfl⟩ | ⟨e', -, hconnector⟩ := mem_synthesized hp
    · obtain ⟨rfl, -, hend⟩ := channelStart_append_inj (List.mem_map_of_mem he')
        (List.mem_map_of_mem he) hkey
      exact eq_of_mem_channelSettings (e := e.1) (hend ▸ he') he
    · exact absurd (hconnector.symm.trans hkey) (connectorStart_append_ne _ _ _ _)

end SerdeLayer

end ChannelSerde
