import Mathlib.Data.List.Nodup
import ChannelSerde.Channel.SerdeLayer
import ChannelSerde.Proofs.Config.Listing
import ChannelSerde.Proofs.Config.Resolution

/-!
# What is found under a start

A group of settings is read by going through the names that are listed with its start and asking for
the value of each. The two need not come from one source. A name is listed by any source, and its
value is that of the source that decides it: the environment may override a setting under a spelling
that it does not list, and a foreign source may list what nobody answers (`get?_under`).

The start is taken off each name, and no two names become one by that. So what is found is counted
by the names (`map_keys_under`), and where the sources are of this library's making, which answer all
that they list, every name that is listed counts.
-/

namespace ChannelSerde

open Text

namespace SerdeLayer

/-- A layer that has been read answers what it did. -/
theorem read_read (o : SerdeLayer) : o.read.2.read.1 = o.read.1 := by
  by_cases h : (!o.enabled || o.kept.size != 0) = true
  · have hread : o.read = (o.kept, o) := if_pos h
    rw [hread]
    exact congrArg Prod.fst hread
  · have hread : o.read = (synthesis o.settings o.incoming o.outgoing,
        { o with kept := synthesis o.settings o.incoming o.outgoing }) := if_neg h
    rw [hread]
    -- what has been kept now is what would be made again
    unfold read
    split <;> rfl

/-- **Reading a layer does not change it as a source.** -/
theorem source_read (o : SerdeLayer) : o.read.2.source = o.source := by
  unfold source
  rw [read_read]

end SerdeLayer

namespace Config

/-- **A source of this library's making**: over properties, over values, over the environment, or a
layer. -/
inductive Source.IsMade : Source → Prop
  | ofProperties (name : String) (ps : Properties) (ordinal : Int) :
    IsMade (.ofProperties name ps ordinal)
  | ofValues (name : String) (values : OrderedMap String Value) (ordinal : Int) :
    IsMade (.ofValues name values ordinal)
  | environment (vars : Properties) (ordinal : Int) : IsMade (.environment vars ordinal)
  | layer (o : SerdeLayer) : IsMade o.source

/-- **It answers all that it lists.** -/
theorem Source.IsMade.answer_isSome {s : Source} (h : s.IsMade) {name : String}
    (hname : name ∈ s.names) : (s.answer name).isSome = true := by
  cases h with
  | ofProperties | ofValues | layer => exact (ofProperties_answer_isSome _ _ _ name).mpr hname
  | environment vars ordinal =>
    -- a variable is answered by its own name before any other spelling
    have hown : (vars.get? name).isSome = true := (OrderedMap.get?_isSome vars name).mpr hname
    show (environmentAnswer vars name).isSome = true
    rw [environmentAnswer, Option.isSome_or, hown, Bool.true_or]

theorem get?_isSome_iff (ss : List Source) (key : String) :
    ((ofSources ss).get? key).isSome = true ↔ ∃ s ∈ ss, (s.answer key).isSome = true := by
  rw [get?, List.findSome?_isSome_iff]
  exact exists_congr fun s => and_congr_left' (sources_perm ss).mem_iff

theorem get?_eq_some_iff (ss : List Source) (key v : String) :
    (ofSources ss).get? key = some v ↔ ∃ s, Decides ss key s ∧ s.answer key = some v := by
  rw [get?_eq_bind_answering?, Option.bind_eq_some_iff]
  exact exists_congr fun s => and_congr_left' (answering?_eq_some_iff ss key s)

/-- **What is found under a start**, by its whole names: those that are listed with that start and
have a value. -/
theorem map_keys_under (c : Config) (start : String) :
    (c.under start).keys.map (start ++ ·)
      = (c.names.toList.filter (startsWith · start)).filter fun name => (c.get? name).isSome := by
  let found (name : String) : Option (String × String) :=
    if startsWith name start then (c.get? name).map fun v => (dropChars name start.length, v)
    else none
  have hnames : ∀ names : List String,
      (names.filterMap found).map (fun e => start ++ e.1)
        = (names.filter (startsWith · start)).filter fun name => (c.get? name).isSome := by
    intro names
    induction names with
    | nil => rfl
    | cons name names ih =>
      by_cases hstart : startsWith name start = true
      · cases hv : c.get? name with
        | none => simp [found, hstart, hv, ih]
        | some v => simp [found, hstart, hv, ih, append_dropChars hstart]
      · simp [found, hstart, ih]
  -- whole names are distinct, so what follows the start is
  have hnodup : ((c.names.toList.filterMap found).map Prod.fst).Nodup := by
    have hwhole : (((c.names.toList.filterMap found).map Prod.fst).map (start ++ ·)).Nodup := by
      rw [List.map_map]
      show ((c.names.toList.filterMap found).map fun e => start ++ e.1).Nodup
      rw [hnames]
      exact (c.names.nodup.filter _).filter _
    exact hwhole.of_map
  rw [OrderedMap.keys, under, OrderedMap.entries_ofList hnodup, List.map_map]
  exact hnames _

/-- **What is found under a start.** Whatever the sources, foreign ones included: a name is found
with a value exactly if some source lists the whole name and the value is that of the whole name,
which is the answer of the source that decides it, whether or not that is one that lists it. No two
names that are listed become one, so the names that are found are those that are listed and have a
value, one for one.

Where all sources are of this library's making, every name that is listed has a value, and there is
as much to be found as there are names listed with that start. A layer among them is read in this,
which does not change what it lists and answers. -/
theorem found_under (ss : List Source) (start : String) :
    let c := ofSources ss
    let listed := c.names.toList.filter (startsWith · start)
    (∀ r v, (c.under start).get? r = some v
        ↔ (∃ s ∈ ss, start ++ r ∈ s.names) ∧ c.get? (start ++ r) = some v)
      ∧ (∀ key v, c.get? key = some v ↔ ∃ s, Decides ss key s ∧ s.answer key = some v)
      ∧ (listed.Nodup
        ∧ (∀ name, name ∈ listed ↔ startsWith name start = true ∧ ∃ s ∈ ss, name ∈ s.names)
        ∧ (c.under start).keys.map (start ++ ·) = listed.filter fun name => (c.get? name).isSome)
      ∧ ((∀ s ∈ ss, s.IsMade) →
        (∀ s ∈ ss, ∀ name ∈ s.names, (c.get? name).isSome = true)
          ∧ (c.under start).size = listed.length)
      ∧ ∀ o : SerdeLayer, o.read.2.source = o.source := by
  intro c listed
  have hlisted : ∀ name,
      name ∈ listed ↔ startsWith name start = true ∧ ∃ s ∈ ss, name ∈ s.names := by
    intro name
    rw [List.mem_filter, and_comm]
    exact and_congr_right' (mem_names_ofSources ss name)
  refine ⟨fun r v => ?_, get?_eq_some_iff ss,
    ⟨c.names.nodup.filter _, hlisted, map_keys_under c start⟩, fun hmade => ?_,
    SerdeLayer.source_read⟩
  · rw [get?_under, ← mem_names_ofSources]
    by_cases hname : start ++ r ∈ c.names
    · simp [hname, c]
    · simp [hname, c]
  · have hsome : ∀ s ∈ ss, ∀ name ∈ s.names, (c.get? name).isSome = true := fun s hs name hname =>
      (get?_isSome_iff ss name).mpr ⟨s, hs, (hmade s hs).answer_isSome hname⟩
    refine ⟨hsome, ?_⟩
    have hall : listed.filter (fun name => (c.get? name).isSome) = listed := by
      refine List.filter_eq_self.mpr fun name hname => ?_
      obtain ⟨-, s, hs, hmem⟩ := (hlisted name).mp hname
      exact hsome s hs name hmem
    have hlength := congrArg List.length ((map_keys_under c start).trans hall)
    rwa [List.length_map, OrderedMap.keys, List.length_map] at hlength

/-- A port that the environment overrides, spelled in its own way. -/
def overridden : Config where
  sources := [
    .environment (OrderedMap.ofList [("APP_PORT", "9090")]) environmentOrdinal,
    .ofProperties "application" (OrderedMap.ofList [("app.port", "8080")]) applicationOrdinal]
  ranked := by decide

/-- The port is listed by the application's configuration and found as the environment has it. -/
theorem found_under_overridden :
    (∀ s ∈ overridden.sources, s.IsMade)
      ∧ (overridden.under "app.").get? "port" = some "9090"
      ∧ (overridden.under "app.").size = 1 := by
  have hmade : ∀ s ∈ overridden.sources, s.IsMade :=
    List.forall_mem_cons.mpr ⟨.environment _ _, List.forall_mem_singleton.mpr (.ofProperties _ _ _)⟩
  obtain ⟨hfound, -, -, hall, -⟩ := found_under overridden.sources "app."
  rw [ofSources_sources] at hfound hall
  refine ⟨hmade,
    (hfound "port" "9090").mpr ⟨⟨_, List.mem_cons_of_mem _ List.mem_cons_self, ?_⟩, ?_⟩,
    (hall hmade).2.trans ?_⟩
  · decide +kernel
  · decide +kernel
  · decide +kernel

end Config

end ChannelSerde
