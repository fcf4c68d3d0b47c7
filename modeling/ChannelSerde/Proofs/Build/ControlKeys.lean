import ChannelSerde.Proofs.Build.OwnSources
import ChannelSerde.Proofs.Settings.Alike

/-!
# What channels have no say in

An application chooses the names of its channels, and each name becomes part of keys that a build
adds to its configuration. The same configuration says whether a registry is started and how: its
image, its port, the variables of its container. If a name could be chosen so that one of its keys
is one of those, whoever names a channel could choose what is started.

None can. The keys that decide are the addresses, which all end as no key of the library's own does,
and keys that are not about messaging (`ControlKey.not_ownKey`). So to all of them a build's
configuration answers what the user's sources answer, and what is read off them is the same for any
channels and for none (`channels_control_nothing`).
-/

namespace ChannelSerde

open Config Text RegistryUrl

/-- **A key that decides how a registry is provided.** -/
inductive ControlKey : String → Prop
  /-- The key of the registry's address. -/
  | address : ControlKey registryUrlKey
  /-- A key that looks as if the address were read under it. -/
  | dead {k : String} (h : k ∈ deadKeys) : ControlKey k
  /-- The key of a channel's own address, whatever the channel is called. -/
  | ownAddress (d : Direction) (name : String) : ControlKey (channelStart d name ++ ownUrlEnd)
  /-- The key that an own address is looked for beside some other. -/
  | beside (key : String) : ControlKey (besideConnector key)
  /-- The switch of dev services for all. -/
  | switch : ControlKey Settings.globalSwitchKey
  /-- The timeout of dev services for all. -/
  | timeout : ControlKey Settings.globalTimeoutKey
  /-- A key of the library's section. -/
  | ofSection {k : String} (h : startsWith k Settings.sectionStart = true) : ControlKey k

theorem startsWith_messagingStart_of_section {k : String}
    (h : startsWith k Settings.sectionStart = true) : startsWith k messagingStart = false :=
  startsWith_exclusive h (by decide) (by decide)

/-- **No key that decides is one of the library's own.** -/
theorem ControlKey.not_ownKey {k : String} (h : ControlKey k) : ¬ OwnKey k := by
  cases h with
  | address => exact not_ownKey_registryUrlKey
  | dead h =>
    have hends : ∀ k ∈ deadKeys, endsWith k "url" = true := by decide
    exact fun hown => Bool.false_ne_true (hown.endsWith_url.symm.trans (hends k h))
  | ownAddress d name => exact not_ownKey_of_url (by decide)
  | beside key => exact not_ownKey_of_url (by decide)
  | switch => exact not_ownKey_of_start (by decide)
  | timeout => exact not_ownKey_of_start (by decide)
  | ofSection h => exact not_ownKey_of_start (startsWith_messagingStart_of_section h)

namespace Build

variable (sources : List Source) (o : SerdeLayer) (c : Channels)

/-- **What decides has the value that the user gives it.** -/
theorem get?_assemble_of_controlKey {k : String} (h : ControlKey k) :
    (assemble sources (applied o c) c).get? k = (ofSources sources).get? k :=
  get?_assemble h.not_ownKey sources o c

/-- **Dev services are switched off for all** by the user alone. -/
theorem globallyEnabled_assemble :
    Settings.globallyEnabled (assemble sources (applied o c) c)
      = Settings.globallyEnabled (ofSources sources) := by
  unfold Settings.globallyEnabled switch?
  rw [get?_assemble_of_controlKey sources o c .switch]

/-- **The settings of the dev service** are the user's, its variables included. -/
theorem ofConfig_assemble [Settings.TextRules] :
    Settings.DevServices.ofConfig (assemble sources (applied o c) c) Settings.sectionStart
      = Settings.DevServices.ofConfig (ofSources sources) Settings.sectionStart := by
  refine Settings.DevServices.ofConfig_congr (fun k hk => ?_) ?_
    (under_assemble (fun k hk => ?_) _ o c)
  · exact get?_assemble_of_controlKey sources o c (.ofSection hk)
  · exact get?_assemble_of_controlKey sources o c .timeout
  · -- a variable's key is one of the section
    exact startsWith_messagingStart_of_section (startsWith_of_append (startsWith_of_append hk))

/-- **Channels have no say in how a registry is provided.** Whatever sources the user has: two
builds that detect any channels, whatever these are called, over any layers, answer every key that
decides as the user's sources do, and so as each other. Dev services are switched off for all in
neither or in both, and the settings of the dev service are the same or refused for the same reason.
-/
theorem channels_control_nothing [Settings.TextRules] (sources : List Source) (o o' : SerdeLayer) (c c' : Channels) :
    let user := ofSources sources
    let one := assemble sources (applied o c) c
    let other := assemble sources (applied o' c') c'
    (∀ k, ControlKey k → one.get? k = other.get? k ∧ one.get? k = user.get? k)
      ∧ (Settings.globallyEnabled one = Settings.globallyEnabled other
        ∧ Settings.globallyEnabled one = Settings.globallyEnabled user)
      ∧ Settings.DevServices.ofConfig one Settings.sectionStart
          = Settings.DevServices.ofConfig other Settings.sectionStart
        ∧ Settings.DevServices.ofConfig one Settings.sectionStart
          = Settings.DevServices.ofConfig user Settings.sectionStart := by
  intro user one other
  refine ⟨fun k hk => ?_, ?_, ?_⟩
  · have hone : one.get? k = user.get? k := get?_assemble_of_controlKey sources o c hk
    have hother : other.get? k = user.get? k := get?_assemble_of_controlKey sources o' c' hk
    exact ⟨hone.trans hother.symm, hone⟩
  · have hone := globallyEnabled_assemble sources o c
    have hother := globallyEnabled_assemble sources o' c'
    exact ⟨hone.trans hother.symm, hone⟩
  · have hone := ofConfig_assemble sources o c
    have hother := ofConfig_assemble sources o' c'
    exact ⟨hone.trans hother.symm, hone⟩

end Build

end ChannelSerde
