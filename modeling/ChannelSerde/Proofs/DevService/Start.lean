import ChannelSerde.DevService.Running

/-!
# How a start ends

A start goes through stages: it is wanted and needed, containers can be run, one is created, and it
comes up. `StartEnd` has one constructor for each stage at which a start can end, with what was
found on the way there and with the reply and the service that follow. What is proved about a start
is proved by cases on it, so the definition is opened here and nowhere else.

`ensure_anew` does the same for a call that finds no registry that matches: it lets go of what is
running and then starts.
-/

namespace ChannelSerde

/-- **The container comes up**: it starts, answers its address, and becomes ready. -/
def Behaviour.comesUp (b : Behaviour) : Bool :=
  b.startFailure.isNone && b.url.toOption.isSome && b.probeFailure.isNone

namespace DevService

variable {s : DevService} {r : Request} {w : World}

/-! ## Bringing up -/

theorem comesUp_iff {b : Behaviour} :
    b.comesUp = true
      ↔ b.startFailure = none ∧ b.url.toOption.isSome = true ∧ b.probeFailure = none := by
  simp only [Behaviour.comesUp, Bool.and_eq_true, Option.isNone_iff_eq_none, and_assoc]

theorem startFailure_of_comesUp {b : Behaviour} (h : b.comesUp = true) : b.startFailure = none :=
  (comesUp_iff.mp h).1

/-- A container that was brought up did come up, under the address that it answers. -/
theorem bringUp_ok {n : Nat} {t : Seconds} {b : Behaviour} {url : String} {es : List Event}
    (h : bringUp n t b = (.ok url, es)) :
    b.comesUp = true ∧ b.url = .ok url ∧ es = [.started n, .probed url t] := by
  unfold bringUp at h
  unfold Behaviour.comesUp
  cases hs : b.startFailure with
  | some f => simp [hs] at h
  | none =>
    cases hu : b.url with
    | error f => simp [hs, hu] at h
    | ok u =>
      cases hp : b.probeFailure with
      | some f => simp [hs, hu, hp] at h
      | none =>
        obtain ⟨rfl, rfl⟩ : u = url ∧ [.started n, .probed u t] = es := by
          simpa [hs, hu, hp] using h
        exact ⟨rfl, rfl, rfl⟩

/-- **Where bringing up fails**: at the start, at the address, or in the wait for the registry. -/
theorem bringUp_fails {n : Nat} {t : Seconds} {b : Behaviour} {f : Failure} {es : List Event}
    (h : bringUp n t b = (.error f, es)) :
    (b.startFailure = some f ∧ es = [.started n])
      ∨ (b.startFailure = none ∧ b.url = .error f ∧ es = [.started n])
      ∨ ∃ url, b.startFailure = none ∧ b.url = .ok url ∧ b.probeFailure = some f
          ∧ es = [.started n, .probed url t] := by
  unfold bringUp at h
  cases hs : b.startFailure with
  | some g =>
    obtain ⟨rfl, rfl⟩ : g = f ∧ [.started n] = es := by simpa [hs] using h
    exact .inl ⟨rfl, rfl⟩
  | none =>
    cases hu : b.url with
    | error g =>
      obtain ⟨rfl, rfl⟩ : g = f ∧ [.started n] = es := by simpa [hs, hu] using h
      exact .inr (.inl ⟨rfl, rfl, rfl⟩)
    | ok url =>
      cases hp : b.probeFailure with
      | none => simp [hs, hu, hp] at h
      | some g =>
        obtain ⟨rfl, rfl⟩ : g = f ∧ [.started n, .probed url t] = es := by
          simpa [hs, hu, hp] using h
        exact .inr (.inr ⟨url, rfl, rfl, rfl, rfl⟩)

/-- A container that was not brought up did not come up; it was started all the same, and may have
been waited for. -/
theorem bringUp_error {n : Nat} {t : Seconds} {b : Behaviour} {f : Failure} {es : List Event}
    (h : bringUp n t b = (.error f, es)) :
    b.comesUp = false ∧ (es = [.started n] ∨ ∃ url, es = [.started n, .probed url t]) := by
  unfold Behaviour.comesUp
  obtain ⟨hs, rfl⟩ | ⟨hs, hu, rfl⟩ | ⟨url, hs, hu, hp, rfl⟩ := bringUp_fails h
  · exact ⟨by simp [hs], .inl rfl⟩
  · exact ⟨by simp [hu, Except.toOption], .inl rfl⟩
  · exact ⟨by simp [hp], .inr ⟨url, rfl⟩⟩

/-- Bringing up starts a container and asks its registry, and causes no other event. -/
theorem count_of_bringUp {n : Nat} {t : Seconds} {b : Behaviour} {o : Except Failure String}
    {es : List Event} (h : bringUp n t b = (o, es)) {e : Event} (hstarted : ∀ m, e ≠ .started m)
    (hprobed : ∀ url t, e ≠ .probed url t) : es.count e = 0 := by
  cases o with
  | ok url =>
    obtain ⟨-, -, rfl⟩ := bringUp_ok h
    exact List.count_eq_zero.mpr (by simp [hstarted, hprobed])
  | error f =>
    obtain ⟨-, rfl | ⟨url, rfl⟩⟩ := bringUp_error h <;>
      exact List.count_eq_zero.mpr (by simp [hstarted, hprobed])

/-! ## Starting -/

/-- Nothing is skipped exactly where a registry is wanted and needed: the snapshot is enabled, no
address is configured, and some Kafka channel has no address of its own. -/
theorem skipRecord?_eq_none_iff (r : Request) :
    skipRecord? r = none ↔ r.snapshot.enabled = true ∧ r.config.isSet registryUrlKey = false
      ∧ RegistryUrl.someChannelHasNone r.config = true := by
  unfold skipRecord?
  cases r.snapshot.enabled with
  | false => simp
  | true =>
    cases r.config.isSet registryUrlKey with
    | true => simp
    | false => cases RegistryUrl.someChannelHasNone r.config <;> simp

/-- What the service asks the runtime at a start, and what it is told. -/
def asking (s : DevService) (w : World) : RuntimeStatus.Reply := s.runtime.ask w.runtime

/-- The service that knows what the runtime answered. -/
def informed (s : DevService) (w : World) : DevService :=
  { s with runtime := (s.asking w).status }

/-- The service that has created one container more. -/
def launched (s : DevService) (w : World) : DevService :=
  { s.informed w with created := s.created + 1 }

/-- The service that holds the registry of a request. -/
def holding (s : DevService) (r : Request) (w : World) (b : Behaviour) (url : String) :
    DevService :=
  { s.launched w with
    container := some ⟨s.created + 1, b.id⟩, exported := some (exports url)
    snapshot := some r.snapshot, exitHookRegistered := true }

/-- **How a start ends**, by the stage that it reaches. -/
inductive StartEnd (s : DevService) (r : Request) (w : World) :
    Reply (Except Failure (Option Provision)) × DevService → Prop where
  /-- It is not wanted or not needed. -/
  | skipped {note : Log.Record} (skip : skipRecord? r = some note) :
      StartEnd s r w (⟨.ok none, [], [note]⟩, s)
  /-- Asking the runtime failed. -/
  | notAnswered {f : Failure} (need : skipRecord? r = none)
      (answer : (s.asking w).available = .error f) :
      StartEnd s r w (⟨.error f, askEvents (s.asking w), (s.asking w).records⟩, s.informed w)
  /-- Containers cannot be run. -/
  | noRuntime (need : skipRecord? r = none) (answer : (s.asking w).available = .ok false) :
      StartEnd s r w
        (⟨.ok none, askEvents (s.asking w), (s.asking w).records ++ [noRuntimeRecord]⟩,
          s.informed w)
  /-- No container could be created. -/
  | notCreated {f : Failure} (need : skipRecord? r = none)
      (answer : (s.asking w).available = .ok true) (create : w.create = .error f) :
      StartEnd s r w
        (⟨.error f, askEvents (s.asking w) ++ [.creating (s.created + 1) (spec r)],
          (s.asking w).records⟩, s.informed w)
  /-- The container did not come up. -/
  | notUp {b : Behaviour} {f : Failure} {es : List Event} (need : skipRecord? r = none)
      (answer : (s.asking w).available = .ok true) (create : w.create = .ok b)
      (up : bringUp (s.created + 1) (startTimeout r) b = (.error f, es)) :
      StartEnd s r w
        (⟨.error (startFailure r.snapshot.image f),
          askEvents (s.asking w)
            ++ .creating (s.created + 1) (spec r) :: (es ++ [.stopped (s.created + 1)]),
          (s.asking w).records ++ b.stopFailure.toList.map quietStopRecord⟩, s.launched w)
  /-- The registry is up. -/
  | up {b : Behaviour} {url : String} {es : List Event} (need : skipRecord? r = none)
      (answer : (s.asking w).available = .ok true) (create : w.create = .ok b)
      (up : bringUp (s.created + 1) (startTimeout r) b = (.ok url, es)) :
      StartEnd s r w
        (⟨.ok (some ((s.holding r w b url).provision ⟨s.created + 1, b.id⟩)),
          askEvents (s.asking w) ++ .creating (s.created + 1) (spec r)
            :: (es ++ if s.exitHookRegistered then [] else [.exitHookRegistered]),
          (s.asking w).records ++ [startedRecord url]⟩, s.holding r w b url)

/-- **Every start ends in one of these ways.** -/
theorem start_ends (s : DevService) (r : Request) (w : World) : StartEnd s r w (s.start r w) := by
  unfold start
  cases hskip : skipRecord? r with
  | some note => exact .skipped hskip
  | none =>
    have hask : s.runtime.ask w.runtime = s.asking w := rfl
    cases ha : (s.asking w).available with
    | error f =>
      simp only [hask, ha]
      exact .notAnswered hskip ha
    | ok b =>
      cases b with
      | false =>
        simp only [hask, ha]
        exact .noRuntime hskip ha
      | true =>
        simp only [hask, ha]
        unfold launch
        cases hc : w.create with
        | error f => simpa [informed] using StartEnd.notCreated hskip ha hc
        | ok b =>
          cases hu : bringUp (s.created + 1) (startTimeout r) b with
          | mk outcome es =>
            cases outcome with
            | error f => simpa [hu, launched, informed] using StartEnd.notUp hskip ha hc hu
            | ok url =>
              simpa [hu, hold, holding, launched, informed] using StartEnd.up hskip ha hc hu

/-! ## Stopping -/

@[simp] theorem container_stop (s : DevService) (f : Option Failure) :
    (s.stop f).2.container = none := by
  unfold stop
  cases h : s.container with
  | none => exact h
  | some c => rfl

@[simp] theorem exitHookRegistered_stop (s : DevService) (f : Option Failure) :
    (s.stop f).2.exitHookRegistered = s.exitHookRegistered := by
  unfold stop
  cases s.container <;> rfl

/-! ## Ensuring -/

/-- A registry is running and was started with what is asked for. -/
def reuses (s : DevService) (r : Request) : Bool := s.running && s.matchesRunning r

/-- A registry that is running with what is asked for is the one that is handed out again. -/
theorem reuses_iff (s : DevService) (r : Request) :
    s.reuses r = true
      ↔ s.running = true ∧ ∃ kept, s.snapshot = some kept ∧ r.snapshot.same kept = true := by
  rw [reuses, Bool.and_eq_true, matchesRunning, Option.any_eq_true]

/-- **The running registry is handed out again**, and nothing else happens. -/
theorem ensure_reuse (h : s.reuses r = true) (w : World) :
    ∃ c, s.container = some c ∧ s.ensure r w = (⟨.ok (some (s.provision c)), [], []⟩, s) := by
  unfold reuses running at h
  obtain ⟨hrun, hmatch⟩ := Bool.and_eq_true_iff.mp h
  obtain ⟨c, hc⟩ := Option.isSome_iff_exists.mp hrun
  refine ⟨c, hc, ?_⟩
  unfold ensure
  simp only [hc, hmatch, if_true]

/-- The service after letting go of what is running. -/
def released (s : DevService) (w : World) : DevService := (s.stop w.heldStopFailure).2

/-- The events of letting go of what is running. -/
def releaseEvents (s : DevService) (w : World) : List Event := (s.stop w.heldStopFailure).1.events

/-- **Where no registry matches, what is running is let go of and a start follows.** -/
theorem ensure_anew (h : s.reuses r = false) :
    (s.ensure r w).1.answer = ((s.released w).start r w).1.answer
      ∧ (s.ensure r w).1.events = s.releaseEvents w ++ ((s.released w).start r w).1.events
      ∧ (s.ensure r w).2 = ((s.released w).start r w).2 := by
  unfold ensure released releaseEvents
  cases hc : s.container with
  | none => simp [stop, hc]
  | some c =>
    have hm : s.matchesRunning r = false := by simpa [reuses, running, hc] using h
    simp [hm]

/-! ## A registry for one channel -/

/-- A configuration with one channel, which has no address. -/
def ordersConfiguration : Config where
  sources := [.ofProperties "application"
    (OrderedMap.ofList [(channelStart .incoming "orders" ++ "connector", kafkaConnector)])
    Config.applicationOrdinal]
  ranked := List.pairwise_singleton _ _

/-- A registry is asked for with that configuration. -/
def ordersRequest (mode : LaunchMode) : Request :=
  { snapshot := .standard, timeout := none, config := ordersConfiguration, mode }

/-- An outside that can run containers. -/
def runnable (create : Except Failure Behaviour) : World :=
  { heldStopFailure := none, runtime := .exit 0, create }

theorem skipRecord?_ordersRequest (mode : LaunchMode) : skipRecord? (ordersRequest mode) = none := by
  have hset : ordersConfiguration.isSet registryUrlKey = false := by decide +kernel
  have hsome : RegistryUrl.someChannelHasNone ordersConfiguration = true := by decide +kernel
  unfold skipRecord? ordersRequest
  rw [hset, hsome]
  rfl

/-- A container is asked for where containers can be run. -/
theorem asked_ordersRequest (mode : LaunchMode) (w : World) (h : w.runtime = .exit 0) :
    .creating 1 (spec (ordersRequest mode))
      ∈ ((fresh .fresh).ensure (ordersRequest mode) w).1.events := by
  show _ ∈ ((fresh .fresh).start (ordersRequest mode) w).1.events
  have hend := start_ends (fresh .fresh) (ordersRequest mode) w
  have havailable : ((fresh .fresh).asking w).available = .ok true := by
    unfold asking
    rw [h]
    rfl
  generalize (fresh .fresh).start (ordersRequest mode) w = out at hend ⊢
  cases hend with
  | skipped skip => exact absurd ((skipRecord?_ordersRequest mode).symm.trans skip) (by simp)
  | notAnswered need answer => exact absurd (havailable.symm.trans answer) (by simp)
  | noRuntime need answer => exact absurd (havailable.symm.trans answer) (by simp)
  | notCreated need answer create => simp [fresh]
  | notUp need answer create up => simp [fresh]
  | up need answer create up => simp [fresh]

end DevService

end ChannelSerde
