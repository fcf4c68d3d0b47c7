import Mathlib.Data.List.Find
import ChannelSerde.Proofs.Build.Ends
import ChannelSerde.Proofs.Build.OwnSources
import ChannelSerde.Proofs.Config.Ranking
import ChannelSerde.Proofs.DevService.Kept

/-!
# The address of a provided registry

A registry that is provided adds one source with one key to the configuration of a build, and it
ranks below the user's own sources. Two questions hang on that: whether the address is found under
that key afterwards, and whether the second check of the addresses can refuse what the first let
through.

The first comes down to the sources that are not below the registry's (`isSet_withProvision_iff`).
As to the second, the check finds nothing that the first did not (`misplaced?_withProvision`), so a
build that the service has answered comes to its outcome (`run_of_answered`).
-/

namespace ChannelSerde

open Config Text RegistryUrl DevService

namespace Build

variable {p : Provision} {url : String}

/-! ## The source of a provided registry -/

/-- An address that a registry is given is never blank, since its path is not. -/
theorem isBlankText_registryPath (url : String) : isBlankText (url ++ registryPath) = false := by
  rw [isBlankText_append, Bool.and_eq_false_iff]
  exact .inr (by decide)

theorem provisionSource_answer_self (h : p.config = exports url) :
    (provisionSource p).answer registryUrlKey = some (url ++ registryPath) := by
  show p.config.get? registryUrlKey = _
  rw [h]
  exact OrderedMap.get?_insert_self _ _ _

theorem provisionSource_answer_of_ne (h : p.config = exports url) {k : String}
    (hk : k ≠ registryUrlKey) : (provisionSource p).answer k = none := by
  show p.config.get? k = _
  rw [h]
  exact OrderedMap.get?_insert_of_ne _ hk _

/-- **The address is set** once a registry is provided, unless a source that is not below it answers
with a blank. -/
theorem isSet_withProvision_iff (h : p.config = exports url) (c : Config) :
    (withProvision c (some p)).isSet registryUrlKey = true
      ↔ ¬ ∃ v, (c.notBelow devServicesOrdinal).get? registryUrlKey = some v
          ∧ isBlankText v = true := by
  have hget : (withProvision c (some p)).get? registryUrlKey
      = ((c.notBelow devServicesOrdinal).get? registryUrlKey).or (some (url ++ registryPath)) := by
    rw [withProvision, get?_adding, provisionSource_answer_self h, Option.some_or]
    rfl
  rw [isSet_iff, hget]
  cases (c.notBelow devServicesOrdinal).get? registryUrlKey with
  | none => simp [isBlankText_registryPath]
  | some v => simp

theorem isSet_withProvision_of_isSet (h : p.config = exports url) {c : Config}
    (hc : c.isSet registryUrlKey = true) :
    (withProvision c (some p)).isSet registryUrlKey = true := by
  obtain ⟨v, hv, hblank⟩ := (isSet_iff c registryUrlKey).mp hc
  rw [isSet_withProvision_iff h]
  rintro ⟨v', hv', hblank'⟩
  -- what answers first above the registry answers first of all
  rw [get?_eq_or c devServicesOrdinal, hv', Option.some_or] at hv
  obtain rfl := Option.some.inj hv
  exact Bool.false_ne_true (hblank.symm.trans hblank')

/-! ## The second check -/

theorem registryUrlKey_notMem_deadKeys : registryUrlKey ∉ deadKeys := by decide

theorem deadKey?_withProvision (h : p.config = exports url) (c : Config) :
    deadKey? (withProvision c (some p)) = deadKey? c := by
  unfold deadKey?
  refine List.find?_congr fun k hk => isSet_eq_of_get?_eq ?_
  have hne : k ≠ registryUrlKey := fun he => registryUrlKey_notMem_deadKeys (he ▸ hk)
  exact get?_adding_of_silent (provisionSource_answer_of_ne h hne) c

/-- **What the first check lets through, the second does not refuse.** -/
theorem misplaced?_withProvision (h : p.config = exports url) {c : Config} {channels : Channels}
    (hc : misplaced? c channels = none) :
    misplaced? (withProvision c (some p)) channels = none := by
  unfold misplaced? at hc ⊢
  cases hs : isSettled c channels with
  | true =>
    have hs' : isSettled (withProvision c (some p)) channels = true := by
      obtain hempty | hset := Bool.or_eq_true_iff.mp hs
      · exact Bool.or_eq_true_iff.mpr (.inl hempty)
      · exact Bool.or_eq_true_iff.mpr (.inr (isSet_withProvision_of_isSet h hset))
    rw [if_pos hs']
  | false =>
    rw [hs, if_neg Bool.false_ne_true, Option.map_eq_none_iff] at hc
    rw [deadKey?_withProvision h, hc]
    exact ite_self _

/-- **A build that the service has answered comes to its outcome.** -/
theorem run_of_answered [Settings.TextRules] {st : BuildState} {input : BuildInput} {w : World} {o : SerdeLayer}
    {r : Request} {answered : Option Provision}
    (start : layerOf st.shared input.sources = .ok o)
    (clear : misplaced? (configuration o input) (channels input) = none)
    (want : wanted (configuration o input) input.mode = .ok (some r))
    (answer : (st.service.ensure r w).1.answer = .ok answered)
    (given : ∀ q, answered = some q → ∃ url, q.config = exports url) :
    (st.run input w).1.answer = .ok (outcome input o answered) := by
  have hclear : misplaced? (withProvision (configuration o input) answered) (channels input) = none := by
    cases answered with
    | none => exact clear
    | some q =>
      obtain ⟨url, hq⟩ := given q rfl
      exact misplaced?_withProvision hq clear
  rw [run_of_clear start clear, provide_eq, want]
  show (conclude (closed st input) o input
    (⟨(st.service.ensure r w).1.answer.mapError .service, _, _⟩, _)).1.answer = _
  rw [answer]
  exact finish_of_clear hclear

end Build

end ChannelSerde
