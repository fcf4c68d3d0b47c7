import ChannelSerde.Proofs.Build.Reachable

/-!
# Whose answer counts

The configuration of a build is put together in two sorts: first the user's sources with the layer
and the bindings, then once more with the registry's source if one was provided. What comes out of
them is one order, and it does not depend on whether there was a registry: the layer stands after
the user's sources of ordinal 200, the registry after those of 150, the bindings after those of 100,
each before what is lower (`get?_withProvision_assemble`).

For the channels that are detected it follows that each of their settings can be overridden, by a
source that is not below the layer, and by nothing else (`precedence`). That every setting is found
under its own key rests on the keys of channels being apart (`SerdeLayer.synthesis_get?_channel`).
-/

namespace ChannelSerde

open Config DevService

namespace Build

/-! ## The three sources that a build adds -/

theorem applied_answer (o : SerdeLayer) (c : Channels) (k : String) :
    (applied o c).source.answer k
      = (SerdeLayer.synthesis o.settings c.incoming c.outgoing).get? k := by
  show (applied o c).read.1.get? k = _
  rw [applied_read, OrderedSet.ofList_toList, OrderedSet.ofList_toList]

theorem assemble_eq (sources : List Source) (o : SerdeLayer) (c : Channels) :
    assemble sources o c = ((ofSources sources).adding o.source).adding (defaultsSource c) := by
  rw [adding_ofSources, adding_ofSources, List.append_assoc]
  rfl

/-- A registry, if one was provided, answers between what is not below its ordinal and what is. -/
theorem get?_withProvision (c : Config) (p : Option Provision) (k : String) :
    (withProvision c p).get? k
      = ((c.notBelow devServicesOrdinal).get? k).or
          ((p.bind (·.config.get? k)).or ((c.below devServicesOrdinal).get? k)) := by
  cases p with
  | none => exact get?_eq_or c _ k
  | some p => exact get?_adding c _ k

/-- The bindings rank below a registry, and the layer does not. -/
theorem own_ordinals (o : SerdeLayer) (c : Channels) :
    (defaultsSource c).ordinal < devServicesOrdinal ∧ devServicesOrdinal ≤ o.source.ordinal := by
  show defaultsOrdinal < devServicesOrdinal ∧ devServicesOrdinal ≤ layerOrdinal
  decide

/-- Of what is not below the registry, only the layer is not the user's. -/
theorem get?_assemble_notBelow (sources : List Source) (o : SerdeLayer) (c : Channels)
    (k : String) :
    ((assemble sources o c).notBelow devServicesOrdinal).get? k
      = (((ofSources sources).notBelow layerOrdinal).get? k).or ((o.source.answer k).or
          (((ofSources sources).between devServicesOrdinal layerOrdinal).get? k)) := by
  obtain ⟨hlow, hhigh⟩ := own_ordinals o c
  rw [assemble_eq, notBelow_adding_of_lt _ hlow, notBelow_adding_of_le _ hhigh, get?_adding,
    notBelow_notBelow_of_le _ hhigh]
  rfl

/-- Of what is below the registry, only the bindings are not the user's. -/
theorem get?_assemble_below (sources : List Source) (o : SerdeLayer) (c : Channels) (k : String) :
    ((assemble sources o c).below devServicesOrdinal).get? k
      = (((ofSources sources).between defaultsOrdinal devServicesOrdinal).get? k).or
          (((defaultsSource c).answer k).or
            (((ofSources sources).below defaultsOrdinal).get? k)) := by
  obtain ⟨hlow, hhigh⟩ := own_ordinals o c
  rw [assemble_eq, below_adding_of_lt _ hlow, below_adding_of_le _ hhigh, get?_adding,
    notBelow_below, below_below_of_le _ (Int.le_of_lt hlow)]
  rfl

/-! ## The order of a build -/

/-- The first answer of some, in order. -/
def firstAnswer (answers : List (Option String)) : Option String := answers.findSome? id

theorem firstAnswer_cons (a : Option String) (as : List (Option String)) :
    firstAnswer (a :: as) = a.or (firstAnswer as) := by
  cases a <;> rfl

/-- **Whose answer counts**: the user's sources, the layer, the registry and the bindings answer
each in its place, and that place is the same whether a registry was provided or not. -/
theorem get?_withProvision_assemble (sources : List Source) (o : SerdeLayer) (c : Channels)
    (p : Option Provision) (k : String) :
    (withProvision (assemble sources o c) p).get? k
      = firstAnswer [((ofSources sources).notBelow layerOrdinal).get? k,
          o.source.answer k,
          ((ofSources sources).between devServicesOrdinal layerOrdinal).get? k,
          p.bind (·.config.get? k),
          ((ofSources sources).between defaultsOrdinal devServicesOrdinal).get? k,
          (c.connectorBindings kafkaConnector).get? k,
          ((ofSources sources).below defaultsOrdinal).get? k] := by
  have hbindings : (defaultsSource c).answer k = (c.connectorBindings kafkaConnector).get? k := rfl
  rw [get?_withProvision, get?_assemble_notBelow, get?_assemble_below, hbindings]
  simp only [firstAnswer_cons, Option.or_assoc]
  rw [firstAnswer, List.findSome?_nil, Option.or_none]

/-- **A setting of a channel** has the value of a user's source that is not below the layer, or else
the synthesized one. -/
theorem get?_withProvision_channel (sources : List Source) (o : SerdeLayer) {c : Channels}
    (p : Option Provision) {d : Direction} {n : String} (hn : n ∈ c.names d) {e : String × String}
    (he : e ∈ SerdeLayer.channelSettings d) :
    (withProvision (assemble sources (applied o c) c) p).get? (channelStart d n ++ e.1)
      = some ((((ofSources sources).notBelow layerOrdinal).get? (channelStart d n ++ e.1)).getD
          e.2) := by
  rw [get?_withProvision_assemble, applied_answer,
    SerdeLayer.synthesis_get?_channel o.settings hn he, firstAnswer_cons, firstAnswer_cons]
  cases ((ofSources sources).notBelow layerOrdinal).get? (channelStart d n ++ e.1) <;> rfl

/-- **The order of a build.** A build that comes to an outcome, in whatever mode, with a registry or
without, answers every key as follows. The user's sources stand from the greatest ordinal down,
those of one ordinal as they were given. First those from 200 up are asked, then the layer with the
detected channels, then the user's from 150, then the registry if there is one, then the user's from
100, then the bindings of the detected channels, then the rest of the user's.

So each setting of each detected channel, whatever its name, has the value that the first of the
user's sources from 200 up gives it, and the synthesized one if none of them does. -/
theorem precedence [Settings.TextRules] {st : BuildState} {input : BuildInput} {w : World} {out : BuildOutcome}
    (hrun : (st.run input w).1.answer = .ok out) :
    let user := ofSources input.sources
    (user.sources.Pairwise (fun a b => b.ordinal ≤ a.ordinal)
        ∧ ∀ o, user.sources.filter (·.ordinal = o) = input.sources.filter (·.ordinal = o))
      ∧ out.channels = (Channels.none.detectBy input.classifier input.index.symbols).1
      ∧ (∀ k, out.layer.source.answer k
          = (SerdeLayer.synthesis out.layer.settings out.channels.incoming
              out.channels.outgoing).get? k)
      ∧ (∀ k, out.config.get? k
          = firstAnswer [(user.notBelow 200).get? k,
              out.layer.source.answer k,
              (user.between 150 200).get? k,
              out.provision.bind (·.config.get? k),
              (user.between 100 150).get? k,
              (out.channels.connectorBindings kafkaConnector).get? k,
              (user.below 100).get? k])
      ∧ ∀ d, ∀ n ∈ out.channels.names d, ∀ e ∈ SerdeLayer.channelSettings d,
          out.config.get? (channelStart d n ++ e.1)
            = some (((user.notBelow 200).get? (channelStart d n ++ e.1)).getD e.2) := by
  intro user
  obtain ⟨o, p, rfl, -, -⟩ := outcome_of_answer hrun
  refine ⟨⟨ranked_iff.mp user.ranked, filter_ordinal_ofSources input.sources⟩, rfl, fun k => ?_,
    fun k => ?_, fun d n hn e he => ?_⟩
  · exact applied_answer o (channels input) k
  · exact get?_withProvision_assemble input.sources (layer o input) (channels input) p k
  · exact get?_withProvision_channel input.sources o p hn he

section Blank

attribute [local instance] Settings.TextRules.library

/-- A channel without settings of the user's keeps those that are synthesized. -/
theorem precedence_blankInput :
    ((⟨(History.ofCalls .fresh []).service, none, .start⟩ : BuildState).run blankInput
          working).1.answer
        = .ok (outcome blankInput (.empty .standard) (some blankProvision))
      ∧ (outcome blankInput (.empty .standard) (some blankProvision)).config.get?
          (channelStart .incoming "orders" ++ "value.deserializer")
        = some SerdeLayer.payloadDeserializer := by
  have hn : "orders" ∈ (channels blankInput).names .incoming := by
    rw [blankConfiguration_facts.1]
    decide
  have hnone : ((ofSources [blankAddress]).notBelow 200).get?
      (channelStart .incoming "orders" ++ "value.deserializer") = none := by decide +kernel
  refine ⟨run_blankInput, ?_⟩
  obtain ⟨-, -, -, -, hchannel⟩ := precedence run_blankInput
  rw [hchannel .incoming "orders" hn ("value.deserializer", SerdeLayer.payloadDeserializer)
    (by decide)]
  exact congrArg (fun v => some (v.getD SerdeLayer.payloadDeserializer)) hnone

end Blank

end Build

end ChannelSerde
