import ChannelSerde.Proofs.Build.ControlKeys
import ChannelSerde.Proofs.Build.Reachable
import ChannelSerde.Proofs.DevService.Creation
import ChannelSerde.Proofs.Settings.Accepted

/-!
# A container as the user's sources say

On its way from a source to a container a setting passes through several hands, and each has its own
notion of what is not said: a key that no source answers, a value that is blank, a switch that is no
answer, a field that is left to its default, a port of zero. What comes out at the end is stated
here by the user's sources alone (`ContainerSpec.AsConfigured`), whatever was detected and whatever
the service was doing before.

A build asks for a container with the settings that it has read (`asked?_isRead`), and a call asks
for a container as its request says. So it remains to follow the settings, and these are read field
by field. A port that is no port is refused with the settings, before the service is asked.
-/

namespace ChannelSerde

open Config Text DevService

/-- The start of the keys of the dev service. -/
def devServicesStart : String := Settings.sectionStart ++ "devservices."

/-- The key of a setting of the dev service. -/
def devServiceKey (name : String) : String := devServicesStart ++ name

/-- **Sharing is not declined**: nothing is said of it, or nothing but blanks, or yes. -/
def LeftShared (user : Config) : Prop :=
  ∀ v, user.get? (devServiceKey "shared") = some v →
    isBlankText v = true ∨ asciiLower (trim v) = "true"

/-- **No port is read** from what is said of it: it is no integer, or not one of a port. -/
def PortRefused [Settings.TextRules] (user : Config) : Prop :=
  ∃ text, user.get? (devServiceKey "port") = some text
    ∧ ∀ i, Settings.TextRules.integer text = .ok i → i < 0 ∨ (65535 : Int) < i

/-- **A container is created as a configuration says**, in a launch mode. -/
structure ContainerSpec.AsConfigured [Settings.TextRules] (made : ContainerSpec) (user : Config)
    (mode : LaunchMode) : Prop where
  image : made.image
    = ((user.get? (devServiceKey "image-name")).filter fun t => !isBlankText t).getD
        Settings.defaultImage
  port : (user.get? (devServiceKey "port") = none ∧ made.port = 0)
    ∨ ∃ text, user.get? (devServiceKey "port") = some text
        ∧ Settings.TextRules.integer text = .ok made.port ∧ 0 ≤ made.port ∧ made.port ≤ 65535
  environment : ∀ r v, made.environment.get? r = some v
    ↔ devServiceKey "container-env." ++ r ∈ user.names
      ∧ user.get? (devServiceKey "container-env." ++ r) = some v
  label : ∀ name, made.serviceName = some name
    ↔ mode = .development ∧ LeftShared user
      ∧ name = (user.get? (devServiceKey "service-name")).getD Settings.defaultServiceName

/-! ## What settings say of a container -/

/-- A switch that is on unless it is declined. -/
theorem Config.getD_switch?_iff (c : Config) (key : String) :
    (c.switch? key).getD true = true
      ↔ ∀ v, c.get? key = some v → isBlankText v = true ∨ asciiLower (trim v) = "true" := by
  unfold switch?
  cases c.get? key with
  | none => simp
  | some v => by_cases hblank : isBlankText v = true <;> simp [hblank]

namespace Settings.DevServices

theorem nonEmpty_namedImage (image : Option String) :
    nonEmpty (namedImage image) = image.filter fun t => !isBlankText t := by
  have hempty : ∀ t : String, (!isBlankText t) = true → (!t.isEmpty) = true := by
    intro t ht
    by_contra h
    have hnil : t = "" := by simpa using h
    subst hnil
    exact absurd ht (by decide)
  unfold nonEmpty namedImage
  rw [Option.filter_filter]
  refine congrArg (image.filter ·) (funext fun t => ?_)
  exact Bool.and_eq_left_iff_imp.mpr (hempty t)

variable [TextRules] {s : DevServices} {user : Config}

theorem IsRead.not_portRefused (h : s.IsRead user devServicesStart) : ¬ PortRefused user := by
  rintro ⟨text, htext, hrefused⟩
  have hport : ReadsPort (user.get? (devServiceKey "port")) s.port := h.port
  rw [htext] at hport
  generalize s.port = port at hport
  cases hport with
  | @set _ p hread =>
    have hp : p.val < maxPort + 1 := p.isLt
    have hmax : maxPort = 65535 := rfl
    have := hrefused p.val hread
    omega

/-- **A container that is asked for with settings is as they say** that were read. -/
theorem IsRead.asConfigured (h : s.IsRead user devServicesStart) (c : Config)
    (mode : LaunchMode) : (spec (Build.request c mode s)).AsConfigured user mode := by
  refine ⟨?image, ?port, fun r v => ?environment, fun name => ?label⟩
  case image =>
    show (nonEmpty s.image).getD defaultImage = _
    rw [h.image, nonEmpty_namedImage]
    rfl
  case port =>
    have hmade : (spec (Build.request c mode s)).port
        = (s.port.map fun p => (p.val : Int)).getD 0 := rfl
    have hport : ReadsPort (user.get? (devServiceKey "port")) s.port := h.port
    rw [hmade]
    generalize user.get? (devServiceKey "port") = text? at hport ⊢
    generalize s.port = port at hport ⊢
    cases hport with
    | unset => exact .inl ⟨rfl, rfl⟩
    | @set text p hread =>
      have hp : p.val < maxPort + 1 := p.isLt
      have hmax : maxPort = 65535 := rfl
      exact .inr ⟨text, rfl, hread, Int.natCast_nonneg _, by simp; omega⟩
  case environment =>
    show s.environment.get? r = some v ↔ _
    rw [h.environment, get?_under]
    show (if devServiceKey "container-env." ++ r ∈ user.names then _ else none) = some v ↔ _
    by_cases hlisted : devServiceKey "container-env." ++ r ∈ user.names
    · rw [if_pos hlisted]
      exact (and_iff_right hlisted).symm
    · rw [if_neg hlisted]
      exact iff_of_false (fun hv => nomatch hv) fun hv => hlisted hv.1
  case label =>
    have hshared : s.isShared = true ↔ LeftShared user := by
      rw [h.isShared]
      exact getD_switch?_iff user _
    have hname : s.serviceName
        = (user.get? (devServiceKey "service-name")).getD Settings.defaultServiceName :=
      h.serviceName
    show (if s.isShared && mode == .development then some s.serviceName else none) = some name ↔ _
    rw [← hshared, ← hname]
    by_cases hmode : mode = .development
    · subst hmode
      cases s.isShared with
      | false => simp
      | true => simpa using eq_comm
    · simp [hmode]

end Settings.DevServices

namespace Build

section Asking

variable [Settings.TextRules]

/-- **A build asks with the settings of the user's sources.** -/
theorem asked?_isRead {shared : Option SerdeLayer} {input : BuildInput} {r : Request}
    (h : asked? shared input = some r) :
    ∃ (s : Settings.DevServices) (c : Config),
      s.IsRead (ofSources input.sources) devServicesStart ∧ r = request c input.mode s := by
  obtain ⟨o, -, -, hwant⟩ := asked?_eq_some h
  obtain hw | ⟨e, -, hw⟩ | ⟨s, hs, -, -, hw⟩ := wanted_cases (configuration o input) input.mode
  · exact nomatch hw.symm.trans hwant
  · exact nomatch hw.symm.trans hwant
  · have hr : request (configuration o input) input.mode s = r :=
      Option.some.inj (Except.ok.inj (hw.symm.trans hwant))
    have hread : Settings.DevServices.ofConfig (ofSources input.sources) Settings.sectionStart
        = .ok s := by
      rw [← hs]
      exact (ofConfig_assemble input.sources o (channels input)).symm
    exact ⟨s, _, Settings.DevServices.ofConfig_eq_ok_iff.mp hread, hr.symm⟩

/-- **A container is created as the user's sources say.** In whatever state a build is run and
whatever the outside does: every container that the build creates has the image that is named, or
the standard one where none is named but by blanks; the port that is given, as the rule for integers
reads it, which is one from 0 to 65535, or zero where none is given; for its variables what is listed
and answered under their start; and for its label the name of the service, the standard one unless
it is given, exactly if the build runs for development and sharing is not declined.

Where a port is given that this rule refuses, or reads as one out of that range, the build does
nothing to the outside at all. -/
theorem container_as_configured (st : BuildState) (input : BuildInput) (w : World) :
    (∀ number made, .creating number made ∈ (st.run input w).1.events →
      made.AsConfigured (ofSources input.sources) input.mode)
    ∧ (PortRefused (ofSources input.sources) → (st.run input w).1.events = []) := by
  obtain ⟨-, hevents⟩ := run_service st input w
  rw [hevents]
  cases hr : asked? st.shared input with
  | none => exact ⟨fun _ _ h => absurd h List.not_mem_nil, fun _ => rfl⟩
  | some r =>
    obtain ⟨s, c, hread, rfl⟩ := asked?_isRead hr
    refine ⟨fun number made h => ?_, fun hrefused => absurd hrefused hread.not_portRefused⟩
    have hensure : .creating number made
        ∈ (st.service.ensure (request c input.mode s) w).1.events := h
    obtain ⟨-, hstart⟩ := start_creating_of_ensure hensure
    rw [spec_of_start_creating hstart]
    exact hread.asConfigured c input.mode

end Asking

/-! ## A container that was chosen -/

section Chosen

attribute [local instance] Settings.TextRules.library

/-- The application's configuration with a blank image, a port, sharing in capitals and a
variable. -/
def chosenSettings : Source :=
  .ofProperties "application"
    (OrderedMap.ofList [(devServiceKey "image-name", " "), (devServiceKey "port", " 8_080.0 "),
      (devServiceKey "shared", " TRUE "), (devServiceKey "container-env.LOG_LEVEL", "DEBUG")])
    applicationOrdinal

/-- What the user's sources say. -/
def chosenUser : Config where
  sources := [chosenSettings]
  ranked := List.pairwise_singleton _ _

/-- A build with that configuration. -/
def chosenInput : BuildInput := { blankInput with sources := [chosenSettings] }

/-- The configuration that it works with, its sources in order. -/
def chosenConfiguration : Config where
  sources := [chosenSettings, (layer (.empty .standard) chosenInput).source,
    .ofProperties defaultsSourceName
      (OrderedMap.ofList [(channelStart .incoming "orders" ++ "connector", kafkaConnector)])
      defaultsOrdinal]
  ranked := by decide

/-- The container of that build. -/
def chosenContainer : ContainerSpec :=
  { image := Settings.defaultImage, port := 8080, serviceName := some Settings.defaultServiceName
    environment := OrderedMap.ofList [("LOG_LEVEL", "DEBUG")] }

theorem chosenConfiguration_facts :
    RegistryUrl.misplaced? chosenConfiguration (channels chosenInput) = none
      ∧ Settings.globallyEnabled chosenConfiguration = true
      ∧ (Settings.DevServices.ofConfig chosenUser Settings.sectionStart).toOption.map
          (fun s => ((Snapshot.ofSettings s).enabled, spec (request chosenUser .development s)))
        = some (true, chosenContainer)
      ∧ chosenConfiguration.isSet registryUrlKey = false
      ∧ RegistryUrl.someChannelHasNone chosenConfiguration = true := by
  decide +kernel

theorem configuration_chosenInput :
    configuration (.empty .standard) chosenInput = chosenConfiguration := by
  refine Eq.trans ?_ (ofSources_sources chosenConfiguration)
  unfold configuration assemble defaultsSource Channels.connectorBindings
  rw [show (channels chosenInput).listed = [("orders", .incoming)] from listed_blankInput]
  rfl

/-- **The build creates that container.** -/
theorem creating_chosenContainer :
    .creating 1 chosenContainer ∈ ((⟨.fresh .fresh, some (.empty .standard), .start⟩ : BuildState).run
      chosenInput working).1.events := by
  obtain ⟨hclear, hon, hsettings, hset, hsome⟩ := chosenConfiguration_facts
  have hc := configuration_chosenInput
  have huser : Settings.DevServices.ofConfig chosenConfiguration Settings.sectionStart
      = Settings.DevServices.ofConfig chosenUser Settings.sectionStart := by
    rw [← hc, ← ofSources_sources chosenUser]
    exact ofConfig_assemble [chosenSettings] (.empty .standard) (channels chosenInput)
  cases hs : Settings.DevServices.ofConfig chosenUser Settings.sectionStart with
  | error e =>
    rw [hs] at hsettings
    exact nomatch hsettings
  | ok settings =>
    rw [hs] at hsettings huser
    obtain ⟨henabled, hspec⟩ := Prod.mk.inj (Option.some.inj hsettings)
    rw [← hspec]
    have hwant : wanted (configuration (.empty .standard) chosenInput) .development
        = .ok (some (request chosenConfiguration .development settings)) := by
      rw [hc, wanted, hon, huser]
      rfl
    have hasked : asked? (some (.empty .standard)) chosenInput
        = some (request chosenConfiguration .development settings) :=
      asked?_of_want rfl (hc ▸ hclear) hwant
    have hskip : skipRecord? (request chosenConfiguration .development settings) = none := by
      have hon' : (request chosenConfiguration .development settings).snapshot.enabled = true :=
        henabled
      have hset' : (request chosenConfiguration .development settings).config.isSet registryUrlKey
          = false := hset
      have hsome' : RegistryUrl.someChannelHasNone
          (request chosenConfiguration .development settings).config = true := hsome
      rw [skipRecord?, hon', hset', hsome']
      rfl
    rw [(run_service _ _ _).2, hasked]
    show _ ∈ ((fresh .fresh).start (request chosenConfiguration .development settings)
      working).1.events
    unfold DevService.start
    rw [hskip]
    exact List.mem_cons_of_mem _ (List.mem_cons_self ..)

/-- The application's configuration with a port that is too great. -/
def greatPort : Source :=
  .ofProperties "application" (OrderedMap.ofList [(devServiceKey "port", "65536")])
    applicationOrdinal

theorem portRefused_greatPort : PortRefused (ofSources [greatPort]) := by
  have huser : ofSources [greatPort] = ⟨[greatPort], List.pairwise_singleton _ _⟩ :=
    ofSources_sources ⟨[greatPort], _⟩
  rw [huser]
  refine ⟨"65536", by decide +kernel, fun i hi => ?_⟩
  have hread : Settings.TextRules.integer "65536" = .ok 65536 := by decide +kernel
  obtain rfl := Except.ok.inj (hread.symm.trans hi)
  exact .inr (by decide)

/-- The chosen container is as configured, and there is none where the port is too great. -/
theorem container_as_configured_chosen :
    chosenContainer.AsConfigured (ofSources [chosenSettings]) .development
      ∧ ((⟨.fresh .fresh, none, .start⟩ : BuildState).run { blankInput with sources := [greatPort] }
          working).1.events = [] :=
  ⟨(container_as_configured ⟨.fresh .fresh, some (.empty .standard), .start⟩ chosenInput working).1 1 _
      creating_chosenContainer,
    (container_as_configured ⟨.fresh .fresh, none, .start⟩ { blankInput with sources := [greatPort] }
      working).2 portRefused_greatPort⟩

end Chosen

end Build

end ChannelSerde
