import Mathlib.Data.Finset.Card
import Mathlib.Data.List.Nodup
import ChannelSerde.Proofs.Channel.Keys
import ChannelSerde.Proofs.Channel.Unkept

/-!
# How many keys a layer lists

The keys of a layer are put together from the names of its channels, which are any text. The
synthesis files one property after the other, and a later one would take the place of an earlier one
with the same key. That this never happens is why the number of keys is what one expects: so many
for each channel, and those of the connector (`keys_counted`).

Which channels there are is a matter of what was done to the layer. It is said by `registered`,
which reads it off the uses and knows nothing of the layer; a layer follows its uses (`Follows.use`,
`follows_after`), however often they register a name and whatever is read in between.
-/

namespace ChannelSerde

namespace SerdeLayer

/-! ## What is registered -/

/-- **The names of a direction after a use**, by what the use says of them. -/
def Use.register (d : Direction) (names : Finset String) : Use → Finset String
  | .addIncoming name => if d = .incoming then insert name names else names
  | .addOutgoing name => if d = .outgoing then insert name names else names
  | .setChannels incoming outgoing =>
    match d with
    | .incoming => incoming.toFinset
    | .outgoing => outgoing.toFinset
  | .switch _ | .value _ | .properties | .names => names

/-- **The channels that some uses leave registered.** -/
def registered (uses : List Use) (d : Direction) : Finset String := uses.foldl (Use.register d) ∅

/-- The layer after some uses. -/
def after (o : SerdeLayer) (uses : List Use) : SerdeLayer := uses.foldl (fun o u => (o.use u).2) o

/-- The channels of a layer. -/
def channels (o : SerdeLayer) : Channels := ⟨o.incoming, o.outgoing⟩

/-- **A layer has some settings and channels**, and keeps nothing that is not current. -/
structure Follows (o : SerdeLayer) (s : Settings.Serde) (names : Direction → Finset String) :
    Prop where
  current : o.IsCurrent
  settings : o.settings = s
  channels : ∀ d, (o.channels.names d).toList.toFinset = names d

variable {o : SerdeLayer} {s : Settings.Serde} {names : Direction → Finset String}

theorem toFinset_insert (ns : OrderedSet String) (name : String) :
    (ns.insert name).toList.toFinset = insert name ns.toList.toFinset := by
  ext n
  rw [List.mem_toFinset, Finset.mem_insert, List.mem_toFinset]
  exact (ns.mem_insert name n).trans Or.comm

theorem toFinset_ofList (ns : List String) :
    (OrderedSet.ofList ns).toList.toFinset = ns.toFinset := by
  ext n
  rw [List.mem_toFinset, List.mem_toFinset]
  exact OrderedSet.mem_ofList ns n

theorem Follows.read (h : o.Follows s names) : o.read.2.Follows s names := by
  have hsame := o.unkept_read
  have hchannels : o.read.2.channels = o.channels :=
    congrArg (fun u => Channels.mk u.incoming u.outgoing) hsame
  exact ⟨h.current.read, (congrArg Unkept.settings hsame).trans h.settings,
    hchannels ▸ h.channels⟩

/-- **A layer follows a use.** -/
theorem Follows.use (h : o.Follows s names) (u : Use) :
    (o.use u).2.Follows s fun d => Use.register d (names d) u := by
  cases u with
  | value key | properties | names => exact h.read
  | switch b => exact ⟨h.current.switched b, h.settings, h.channels⟩
  | addIncoming name =>
    refine ⟨h.current.use _, h.settings, fun d => ?_⟩
    cases d with
    | incoming => exact (toFinset_insert _ _).trans (congrArg _ (h.channels .incoming))
    | outgoing => exact h.channels .outgoing
  | addOutgoing name =>
    refine ⟨h.current.use _, h.settings, fun d => ?_⟩
    cases d with
    | incoming => exact h.channels .incoming
    | outgoing => exact (toFinset_insert _ _).trans (congrArg _ (h.channels .outgoing))
  | setChannels incoming outgoing =>
    refine ⟨h.current.use _, h.settings, fun d => ?_⟩
    cases d <;> exact toFinset_ofList _

theorem Follows.after (h : o.Follows s names) (uses : List Use) :
    (o.after uses).Follows s fun d => uses.foldl (Use.register d) (names d) := by
  induction uses generalizing o names with
  | nil => exact h
  | cons u us ih => exact ih (h.use u)

/-- **A layer has the channels that were registered**, and the settings that it was made with. -/
theorem follows_after (s : Settings.Serde) (uses : List Use) :
    ((empty s).after uses).Follows s (registered uses) :=
  Follows.after ⟨isCurrent_of_kept_eq_empty rfl, rfl, fun d => by cases d <;> rfl⟩ uses

/-! ## No key is put in twice -/

theorem keys_channelProperties (d : Direction) (n : String) :
    (channelProperties d n).map Prod.fst = (channelEnds d).map (channelStart d n ++ ·) := by
  rw [channelProperties, channelEnds, List.map_map, List.map_map]
  rfl

theorem exists_of_mem_keys {d : Direction} {n k : String}
    (h : k ∈ (channelProperties d n).map Prod.fst) :
    ∃ e ∈ channelEnds d, channelStart d n ++ e = k := by
  rw [keys_channelProperties] at h
  exact List.mem_map.mp h

/-- **The keys of the channels of a direction are distinct**, as the channels are. -/
theorem nodup_keys_channels (d : Direction) {ns : List String} (h : ns.Nodup) :
    ((ns.flatMap (channelProperties d)).map Prod.fst).Nodup := by
  have hends : (channelEnds d).Nodup := by cases d <;> decide
  rw [List.map_flatMap, List.nodup_flatMap]
  refine ⟨fun n _ => ?_, h.imp fun {n n'} hne k hk hk' => ?_⟩
  · rw [keys_channelProperties]
    exact hends.map fun _ _ heq => (String.append_right_inj _).mp heq
  · -- a key of two channels gives back one name
    obtain ⟨e, he, rfl⟩ := exists_of_mem_keys hk
    obtain ⟨e', he', heq⟩ := exists_of_mem_keys hk'
    exact hne (channelStart_append_inj he' he heq).2.1.symm

theorem nodup_keys_connector (s : Settings.Serde) :
    ((connectorProperties s).map Prod.fst).Nodup := by
  have hall : (connectorEnds.map (connectorStart ++ ·)).Nodup :=
    (by decide : connectorEnds.Nodup).map fun _ _ heq => (String.append_right_inj _).mp heq
  unfold connectorProperties
  cases Settings.DevServices.nonEmpty s.groupId with
  | none => exact hall.sublist (List.take_sublist 4 (connectorEnds.map (connectorStart ++ ·)))
  | some g => exact hall

/-- **The properties that are synthesized**, in their order. -/
def synthesized (s : Settings.Serde) (c : Channels) : List (String × String) :=
  c.incoming.toList.flatMap (channelProperties .incoming)
    ++ c.outgoing.toList.flatMap (channelProperties .outgoing)
    ++ if c.isEmpty then [] else connectorProperties s

theorem mem_keys_channels {d : Direction} {ns : List String} {k : String}
    (h : k ∈ (ns.flatMap (channelProperties d)).map Prod.fst) :
    ∃ n ∈ ns, ∃ e ∈ channelEnds d, channelStart d n ++ e = k := by
  rw [List.map_flatMap] at h
  obtain ⟨n, hn, hk⟩ := List.mem_flatMap.mp h
  exact ⟨n, hn, exists_of_mem_keys hk⟩

/-- **No key is put in twice.** -/
theorem nodup_keys_synthesized (s : Settings.Serde) (c : Channels) :
    ((synthesized s c).map Prod.fst).Nodup := by
  rw [synthesized, List.map_append, List.map_append, List.nodup_append, List.nodup_append]
  refine ⟨⟨nodup_keys_channels _ c.incoming.nodup, nodup_keys_channels _ c.outgoing.nodup,
    fun k hk k' hk' heq => ?_⟩, ?_, fun k hk k' hk' heq => ?_⟩
  · -- a key gives back its direction
    obtain ⟨n, -, e, he, rfl⟩ := mem_keys_channels hk
    obtain ⟨n', -, e', he', rfl⟩ := mem_keys_channels hk'
    exact Direction.noConfusion (channelStart_append_inj he he' heq).1
  · split
    · exact List.nodup_nil
    · exact nodup_keys_connector s
  · have hchannel : ∃ d n e, k = channelStart d n ++ e := by
      obtain hk | hk := List.mem_append.mp hk <;>
      · obtain ⟨n, -, e, -, rfl⟩ := mem_keys_channels hk
        exact ⟨_, n, e, rfl⟩
    split at hk'
    · exact absurd hk' List.not_mem_nil
    · obtain ⟨d, n, e, rfl⟩ := hchannel
      obtain ⟨p, hp, rfl⟩ := List.mem_map.mp hk'
      obtain ⟨e', -, hconnector⟩ := exists_of_mem_connectorProperties hp
      exact connectorStart_append_ne d n e' e (hconnector.symm.trans heq.symm)

/-- **So every property that is put in stays**, at its place. -/
theorem synthesis_entries (s : Settings.Serde) (c : Channels) :
    (synthesis s c.incoming c.outgoing).entries = synthesized s c :=
  OrderedMap.entries_ofList (nodup_keys_synthesized s c)

/-! ## Counting -/

theorem length_channels (d : Direction) (ns : List String) :
    (ns.flatMap (channelProperties d)).length = (channelSettings d).length * ns.length := by
  simp [List.length_flatMap, channelProperties, Nat.mul_comm]

/-- The connector has four properties, and a fifth if the group is named. -/
theorem length_connectorProperties (s : Settings.Serde) :
    (connectorProperties s).length = 4 + if s.groupId.any (· ≠ "") then 1 else 0 := by
  unfold connectorProperties Settings.DevServices.nonEmpty
  cases s.groupId with
  | none => rfl
  | some g => by_cases h : g = "" <;> simp [h, Option.filter]

theorem Follows.isEmpty_iff (h : o.Follows s names) :
    o.channels.isEmpty = true ↔ names .incoming = ∅ ∧ names .outgoing = ∅ := by
  have hd : ∀ d, (o.channels.names d).isEmpty = true ↔ names d = ∅ := fun d => by
    rw [← h.channels d, List.toFinset_eq_empty_iff]
    exact List.isEmpty_iff
  rw [Channels.isEmpty, Bool.and_eq_true]
  exact and_congr (hd .incoming) (hd .outgoing)

/-- **How many properties there are.** -/
theorem Follows.length_synthesized (h : o.Follows s names) :
    (synthesized s o.channels).length
      = 4 * (names .incoming).card + 3 * (names .outgoing).card
        + if names .incoming = ∅ ∧ names .outgoing = ∅ then 0
          else 4 + if s.groupId.any (· ≠ "") then 1 else 0 := by
  have hcard : ∀ d, (o.channels.names d).toList.length = (names d).card := fun d => by
    rw [← h.channels d, List.toFinset_card_of_nodup (o.channels.names d).nodup]
  rw [synthesized, List.length_append, List.length_append, length_channels, length_channels,
    ← hcard .incoming, ← hcard .outgoing]
  congr 1
  by_cases hnone : o.channels.isEmpty = true
  · rw [if_pos hnone, if_pos (h.isEmpty_iff.mp hnone), List.length_nil]
  · rw [if_neg hnone, if_neg fun hnames => hnone (h.isEmpty_iff.mpr hnames),
      length_connectorProperties]

/-- **What a property is**: a setting of a channel that is registered, or one of the connector. -/
theorem Follows.mem_synthesized_iff (h : o.Follows s names) (p : String × String) :
    p ∈ synthesized s o.channels
      ↔ (∃ d, ∃ n ∈ names d, ∃ e ∈ channelSettings d, p = (channelStart d n ++ e.1, e.2))
        ∨ ¬ (names .incoming = ∅ ∧ names .outgoing = ∅) ∧ p ∈ connectorProperties s := by
  have hchannels : ∀ d, p ∈ (o.channels.names d).toList.flatMap (channelProperties d)
      ↔ ∃ n ∈ names d, ∃ e ∈ channelSettings d, p = (channelStart d n ++ e.1, e.2) := fun d => by
    simp only [mem_flatMap_channelProperties, ← h.channels d, List.mem_toFinset]
  have hconnector : (p ∈ if o.channels.isEmpty then [] else connectorProperties s)
      ↔ ¬ (names .incoming = ∅ ∧ names .outgoing = ∅) ∧ p ∈ connectorProperties s := by
    rw [← h.isEmpty_iff]
    cases o.channels.isEmpty <;> simp
  have hdirections : p ∈ o.channels.incoming.toList.flatMap (channelProperties .incoming)
        ∨ p ∈ o.channels.outgoing.toList.flatMap (channelProperties .outgoing)
      ↔ ∃ d, p ∈ (o.channels.names d).toList.flatMap (channelProperties d) := by
    constructor
    · rintro (hp | hp)
      · exact ⟨.incoming, hp⟩
      · exact ⟨.outgoing, hp⟩
    · rintro ⟨_ | _, hp⟩
      · exact .inl hp
      · exact .inr hp
  rw [synthesized, List.mem_append, List.mem_append, hdirections, hconnector]
  simp only [hchannels]

/-! ## What is listed -/

/-- **What is read from a layer that is on**, whatever is kept: the properties of its channels. -/
theorem Follows.read_entries (h : o.Follows s names) (hon : o.enabled = true) :
    o.read.1.entries = synthesized s o.channels := by
  rw [h.current.read_eq, Unkept.properties, show o.unkept.enabled = true from hon, if_pos rfl,
    show o.unkept.settings = s from h.settings]
  exact synthesis_entries s o.channels

/-- **How many keys a layer lists.** After any uses of a layer, which may register a channel any
number of times and in either direction, exchange the channels, switch the layer and read it in
between: if it is on, the keys that it lists are distinct, and there are four for each incoming
channel, three for each outgoing one and, if there is any channel, four of the connector and a fifth
if a group is named.

A key answers a value exactly if it is listed, and what it answers is the setting of a registered
channel that the key is made of, or the connector's. There is never a choice: whatever the channels
are called, a key of a channel gives back its direction, its name and its setting, and is none of
the connector's. -/
theorem keys_counted (s : Settings.Serde) (uses : List Use)
    (hon : ((empty s).after uses).enabled = true) :
    let o := (empty s).after uses
    let names := registered uses
    (∃ ks, (o.use .names).1 = .names ks ∧ ks.Nodup
      ∧ ks.length = 4 * (names .incoming).card + 3 * (names .outgoing).card
          + (if names .incoming = ∅ ∧ names .outgoing = ∅ then 0
            else 4 + if s.groupId.any (· ≠ "") then 1 else 0)
      ∧ ∀ k, k ∈ ks ↔ ∃ v, (o.use (.value k)).1 = .value (some v))
    ∧ (∀ k v, (o.use (.value k)).1 = .value (some v)
        ↔ (∃ d, ∃ n ∈ names d, ∃ e ∈ channelSettings d, k = channelStart d n ++ e.1 ∧ v = e.2)
          ∨ ¬ (names .incoming = ∅ ∧ names .outgoing = ∅) ∧ (k, v) ∈ connectorProperties s)
    ∧ ∀ d n, ∀ e ∈ channelEnds d,
        (∀ d' n', ∀ e' ∈ channelEnds d', channelStart d n ++ e = channelStart d' n' ++ e'
          → d = d' ∧ n = n' ∧ e = e')
        ∧ ∀ p ∈ connectorProperties s, p.1 ≠ channelStart d n ++ e := by
  intro o names
  have hfollows : o.Follows s names := follows_after s uses
  have hentries : o.read.1.entries = synthesized s o.channels := hfollows.read_entries hon
  have hvalue : ∀ k v, (o.use (.value k)).1 = .value (some v) ↔ (k, v) ∈ o.read.1.entries :=
    fun k v => by
      rw [← OrderedMap.get?_eq_some_iff]
      exact ⟨fun h => Answer.value.inj h, fun h => congrArg Answer.value h⟩
  refine ⟨⟨o.read.1.keys, rfl, o.read.1.nodup, ?_, fun k => ?_⟩, fun k v => ?_, fun d n e he =>
    ⟨fun d' n' e' he' => channelStart_append_inj he he', fun p hp => ?_⟩⟩
  · rw [OrderedMap.keys, List.length_map, hentries, hfollows.length_synthesized]
  · simp only [hvalue, OrderedMap.keys, List.mem_map, Prod.exists, exists_and_right,
      exists_eq_right]
  · rw [hvalue, hentries, hfollows.mem_synthesized_iff]
    simp only [Prod.mk.injEq]
  · obtain ⟨e', -, hp⟩ := exists_of_mem_connectorProperties hp
    exact hp ▸ connectorStart_append_ne d n e' e

/-- Channels without a name in both directions, and one whose name looks like a part of a key. -/
def oddlyNamed : List Use :=
  [.switch true, .addIncoming "", .names, .addIncoming "a.connector", .addOutgoing "",
    .addIncoming ""]

/-- They have twice four keys and three, next to four of the connector. -/
theorem keys_counted_oddlyNamed :
    ∃ ks, (((empty .standard).after oddlyNamed).use .names).1 = .names ks ∧ ks.Nodup
      ∧ ks.length = 15 := by
  obtain ⟨⟨ks, hks, hnodup, hlength, -⟩, -⟩ := keys_counted .standard oddlyNamed rfl
  exact ⟨ks, hks, hnodup, hlength.trans (by decide)⟩

end SerdeLayer

end ChannelSerde
