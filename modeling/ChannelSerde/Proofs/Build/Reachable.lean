import ChannelSerde.Proofs.Build.Address
import ChannelSerde.Settings.LibraryRules

/-!
# Whether a provided registry is found

The service starts a registry where the key of its address is not set, and not set means missing or
blank. But a blank value answers a key as any other does, and the source of a provided registry
ranks low. So a registry that is started for a blank address is found only where the blank stands
below it.

Only the user's sources have a say in this, since neither the layer nor the bindings answer that key
(`get?_notBelow_configuration`). At the end stands a build whose registry no channel finds: the user
has left the address blank in the application's own configuration.
-/

namespace ChannelSerde

open Config Text RegistryUrl DevService

namespace Build

/-- Of the sources of a build that are not below the registry's, only the user's answer the key of
the address. -/
theorem get?_notBelow_configuration (o : SerdeLayer) (input : BuildInput) :
    ((configuration o input).notBelow devServicesOrdinal).get? registryUrlKey
      = ((ofSources input.sources).notBelow devServicesOrdinal).get? registryUrlKey := by
  unfold configuration assemble
  rw [notBelow_ofSources, notBelow_ofSources, List.filter_append]
  exact get?_ofSources_append_of_silent (fun s hs =>
    answer_of_not_ownKey not_ownKey_registryUrlKey s (List.mem_filter.mp hs).1) _

/-! ## A user who leaves the address blank -/

section Blank

attribute [local instance] Settings.TextRules.library

/-- A method that consumes a channel. -/
def consumer : Site :=
  { kind := .method, owner := "app.Consumer", name := "consume", type := .void, parameters := []
    markers := [⟨Marker.protobufIncoming, "orders"⟩], position := none }

/-- The application's configuration with a blank address. -/
def blankAddress : Source :=
  .ofProperties "application" (OrderedMap.ofList [(registryUrlKey, "")]) applicationOrdinal

/-- A build with a blank address. -/
def blankInput : BuildInput :=
  { index := .own (.ofLists [] [consumer]), sources := [blankAddress], mode := .development
    classifier? := none, buildId := "b1", logLevel := none }

/-- An outside in which a registry comes up. -/
def working : World :=
  { heldStopFailure := none, runtime := .exit 0
    create := .ok
      { id := none, startFailure := none, url := .ok "http://localhost:32768", probeFailure := none
        stopFailure := none } }

/-- The configuration of that build, its sources in order. -/
def blankConfiguration : Config where
  sources := [blankAddress, (layer (.empty .standard) blankInput).source,
    .ofProperties defaultsSourceName
      (OrderedMap.ofList [(channelStart .incoming "orders" ++ "connector", kafkaConnector)])
      defaultsOrdinal]
  ranked := by decide

theorem blankConfiguration_facts :
    channels blankInput = ⟨.ofList ["orders"], .empty⟩
      ∧ misplaced? blankConfiguration (channels blankInput) = none
      ∧ Settings.globallyEnabled blankConfiguration = true
      ∧ (Settings.DevServices.ofConfig blankConfiguration Settings.sectionStart).toOption.map
          Snapshot.ofSettings = some .standard
      ∧ blankConfiguration.isSet registryUrlKey = false
      ∧ someChannelHasNone blankConfiguration = true := by
  decide +kernel

theorem listed_blankInput : (channels blankInput).listed = [("orders", .incoming)] := by
  rw [blankConfiguration_facts.1]
  show ((["orders"] : List String).mergeSort _).map _ ++ ([].mergeSort _).map _ = _
  rw [List.mergeSort_singleton, List.mergeSort_nil]
  rfl

theorem configuration_blankInput : configuration (.empty .standard) blankInput = blankConfiguration := by
  refine Eq.trans ?_ (ofSources_sources blankConfiguration)
  unfold configuration assemble defaultsSource Channels.connectorBindings
  rw [listed_blankInput]
  rfl

/-- The registry of that build. -/
def blankProvision : Provision :=
  ⟨DevService.serviceName, none, exports "http://localhost:32768"⟩

/-- **The build comes with a registry.** -/
theorem run_blankInput :
    ((⟨(History.ofCalls .fresh []).service, none, .start⟩ : BuildState).run blankInput
        working).1.answer
      = .ok (outcome blankInput (.empty .standard) (some blankProvision)) := by
  obtain ⟨-, hclear, hon, hsettings, hset, hsome⟩ := blankConfiguration_facts
  -- one source alone is ranked
  have start : layerOf none blankInput.sources = .ok (.empty .standard) := by
    show (Settings.Serde.ofConfig ⟨[blankAddress].mergeSort Source.before, _⟩ _).map _ = _
    simp only [List.mergeSort_singleton]
    rfl
  have hc := configuration_blankInput
  cases hs : Settings.DevServices.ofConfig blankConfiguration Settings.sectionStart with
  | error e =>
    rw [hs] at hsettings
    exact absurd hsettings (by simp [Except.toOption])
  | ok settings =>
    have hsnapshot : Snapshot.ofSettings settings = .standard := by
      rw [hs] at hsettings
      exact Option.some.inj hsettings
    have want : wanted (configuration (.empty .standard) blankInput) .development
        = .ok (some (request blankConfiguration .development settings)) := by
      rw [hc, wanted, hon, hs]
      rfl
    have hskip : skipRecord? (request blankConfiguration .development settings) = none := by
      show skipRecord? ⟨Snapshot.ofSettings settings, _, blankConfiguration, _⟩ = none
      rw [hsnapshot, skipRecord?, hset, hsome]
      rfl
    refine run_of_answered start (hc ▸ hclear) want ?_ fun q hq => ?_
    · show ((fresh .fresh).start (request blankConfiguration .development settings) working).1.answer
        = _
      unfold DevService.start
      rw [hskip]
      rfl
    · obtain rfl := Option.some.inj hq
      exact ⟨_, rfl⟩

end Blank

/-! ## Where the address is found -/

/-- **Where the address of a provided registry is found.** After any calls on the service, whatever
the outside does and whichever layer is shared: the configuration of a build that comes with a
registry has its address set, exactly if the first of the user's sources of the registry's ordinal
and above that answers its key, if any does, answers with more than blanks. -/
theorem address_isSet_iff [Settings.TextRules] (runtime : RuntimeStatus) (calls : List Call)
    (shared : Option SerdeLayer) (ids : Log.BuildIds) (input : BuildInput) (w : World)
    {out : BuildOutcome} {p : Provision}
    (hrun : ((⟨(History.ofCalls runtime calls).service, shared, ids⟩ : BuildState).run input
      w).1.answer = .ok out)
    (hp : out.provision = some p) :
    out.config.isSet registryUrlKey = true
      ↔ ¬ ∃ v, ((ofSources input.sources).notBelow devServicesOrdinal).get? registryUrlKey = some v
          ∧ isBlankText v = true := by
  obtain ⟨o, p', rfl, -, hanswer⟩ := outcome_of_answer hrun
  obtain rfl : p' = some p := hp
  obtain ⟨-, hnone⟩ | ⟨r, -, answer⟩ := hanswer
  · exact absurd hnone (Option.some_ne_none p)
  · obtain ⟨_, -, _, url, _, -, -, rfl⟩ := (coherent runtime calls).kept_of_answer answer
    rw [← get?_notBelow_configuration o input]
    exact isSet_withProvision_iff rfl _

section Found

attribute [local instance] Settings.TextRules.library

/-- A registry that comes with a blank address is found exactly if no blank stands above it. -/
theorem address_isSet_iff_blankInput :
    ((⟨(History.ofCalls .fresh []).service, none, .start⟩ : BuildState).run blankInput
          working).1.answer
        = .ok (outcome blankInput (.empty .standard) (some blankProvision))
      ∧ ((outcome blankInput (.empty .standard) (some blankProvision)).config.isSet registryUrlKey
          = true
        ↔ ¬ ∃ v, ((ofSources [blankAddress]).notBelow devServicesOrdinal).get? registryUrlKey = some v
            ∧ isBlankText v = true) :=
  ⟨run_blankInput, address_isSet_iff .fresh [] none .start blankInput working run_blankInput rfl⟩

/-- **A blank address hides the registry that is started for it.** -/
theorem blank_address_hides_registry :
    ∃ out p,
      ((⟨(History.ofCalls .fresh []).service, none, .start⟩ : BuildState).run blankInput
          working).1.answer
        = .ok out
      ∧ out.provision = some p ∧ out.config.isSet registryUrlKey = false := by
  refine ⟨_, blankProvision, run_blankInput, rfl, ?_⟩
  rw [← Bool.not_eq_true]
  show ¬ (withProvision (configuration (.empty .standard) blankInput) _).isSet registryUrlKey = true
  rw [configuration_blankInput, isSet_withProvision_iff rfl]
  exact fun h => h ⟨"", by decide +kernel, rfl⟩

end Found

end Build

end ChannelSerde
