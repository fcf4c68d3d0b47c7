import ChannelSerde.Proofs.Build.Address

/-!
# Builds that share a service

A session is a service and the ids of builds, with what is done to them: builds are run, each with a
layer of its own or a shared one, and in between the service may be called directly. A build does
nothing to the service but call it once at most (`run_service`), so what holds of the histories of a
service holds of every session. However it ends, the id of before is current again
(`current_run`).

A build can stop before the service is asked, while it is asked, or not at all. Before, nothing has
happened that would have to be undone; while it is asked, the service has let go of what it had;
afterwards there is nothing left that could fail. Each of these is a property of the states that a
session can reach: of an arbitrary state, with other exports than the address, the last is false.
-/

namespace ChannelSerde

open Log RegistryUrl DevService

namespace Build

/-! ## Sessions -/

/-- **What is done in a session.** -/
inductive Act where
  /-- A build is run, with a layer that it shares or without. -/
  | build (shared : Option SerdeLayer) (input : BuildInput) (w : World)
  /-- The service is called. -/
  | call (c : Call)

/-- **A service and the ids of builds.** -/
structure Session where
  service : DevService
  ids : BuildIds

namespace Session

variable [Settings.TextRules]

/-- A service that has not been called, and no id set. -/
def start (runtime : RuntimeStatus) : Session := ⟨.fresh runtime, .start⟩

/-- The state that a build of a session starts with, over a shared layer or without. -/
def state (s : Session) (shared : Option SerdeLayer) : BuildState := ⟨s.service, shared, s.ids⟩

/-- The session after one act more. -/
def next (s : Session) : Act → Session
  | .build shared input w =>
    let after := ((s.state shared).run input w).2
    ⟨after.service, after.ids⟩
  | .call c => ⟨(s.service.turn c).after, s.ids⟩

/-- **The session of some acts.** -/
def ofActs (runtime : RuntimeStatus) (acts : List Act) : Session := acts.foldl next (start runtime)

/-- A build calls the service of a session for what it asks. -/
theorem service_next_build (s : Session) (shared : Option SerdeLayer) (input : BuildInput)
    (w : World) :
    (s.next (.build shared input w)).service
      = ((asked? shared input).map fun r => (s.service.ensure r w).2).getD s.service :=
  (run_service (s.state shared) input w).1

/-- The service of a session is one that has been called. -/
def IsCalled (runtime : RuntimeStatus) (s : Session) : Prop :=
  ∃ calls, s.service = (History.ofCalls runtime calls).service

/-- An act calls the service once at most. -/
theorem IsCalled.next {runtime : RuntimeStatus} {s : Session} (h : s.IsCalled runtime) (a : Act) :
    (s.next a).IsCalled runtime := by
  obtain ⟨calls, hs⟩ := h
  have hcall : ∀ c, ∃ calls', (s.service.turn c).after
      = (History.ofCalls runtime calls').service := by
    intro c
    refine ⟨calls ++ [c], ?_⟩
    rw [hs, History.ofCalls_concat]
    rfl
  cases a with
  | call c => exact hcall c
  | build shared input w =>
    have hrun := s.service_next_build shared input w
    cases hr : asked? shared input with
    | none =>
      rw [hr] at hrun
      exact ⟨calls, hrun.trans hs⟩
    | some r =>
      rw [hr] at hrun
      obtain ⟨calls', h'⟩ := hcall (.ensure r w)
      exact ⟨calls', hrun.trans h'⟩

/-- **The service of every session has been called**, and nothing else was done to it. -/
theorem isCalled (runtime : RuntimeStatus) (acts : List Act) :
    (ofActs runtime acts).IsCalled runtime :=
  List.foldlRecOn acts next ⟨[], rfl⟩ (fun _ h a _ => h.next a)

end Session

/-! ## How a build stops -/

variable [Settings.TextRules]

section Coherent

variable {h : History} {st : BuildState} {input : BuildInput} {w : World}

/-- **A build that the service answers comes to its outcome**, over the configuration that it asked
with. -/
theorem run_of_asked (hh : h.Coherent) (hst : st.service = h.service) {r : Request}
    (hr : asked? st.shared input = some r) {p : Option Provision}
    (answer : (st.service.ensure r w).1.answer = .ok p) :
    ∃ o, (st.run input w).1.answer = .ok (outcome input o p)
      ∧ (outcome input o p).config = withProvision r.config p := by
  obtain ⟨o, start, clear, want⟩ := asked?_eq_some hr
  refine ⟨o, run_of_answered start clear want answer fun q hq => ?_,
    congrArg (withProvision · p) (wanted_config want).symm⟩
  rw [hst] at answer
  obtain ⟨_, -, _, url, _, -, -, rfl⟩ := hh.kept_of_answer (answer.trans (congrArg _ hq))
  exact ⟨url, rfl⟩

/-- **A build stops before the service is asked, or because the service fails.** -/
theorem stops_by (hh : h.Coherent) (hst : st.service = h.service) {e : BuildError}
    (he : (st.run input w).1.answer = .error e) :
    (asked? st.shared input = none ∧ ∀ f, e ≠ .service f)
      ∨ ∃ r f, asked? st.shared input = some r ∧ (st.service.ensure r w).1.answer = .error f
          ∧ e = .service f := by
  have hend := run_ends st input w
  generalize hout : st.run input w = result at hend he
  cases hend with
  | unread start =>
    obtain rfl := Except.error.inj he
    exact .inl ⟨by rw [asked?, start], fun f => by simp⟩
  | misplaced start found =>
    obtain rfl := Except.error.inj he
    exact .inl ⟨by simp [asked?, start, found], fun f => by simp⟩
  | unknown start clear want =>
    obtain rfl := Except.error.inj he
    obtain ⟨e', rfl⟩ := wanted_error want
    exact .inl ⟨asked?_of_error start clear want, fun f => by simp⟩
  | unasked start clear want => exact absurd he (by simp)
  | @failed o r f start clear want answer =>
    obtain rfl := Except.error.inj he
    exact .inr ⟨r, f, asked?_of_want start clear want, answer, rfl⟩
  | @answered o r p _ _ start clear want answer rest =>
    -- the service answered, so the build has come to its outcome after all
    obtain ⟨o, hok, -⟩ := run_of_asked hh hst (asked?_of_want start clear want) answer
    rw [hout] at hok
    exact absurd (hok.symm.trans he) (by simp)

/-- **A build that stops without a failure of the service has not touched it.** -/
theorem untouched_of_error (hh : h.Coherent) (hst : st.service = h.service) {e : BuildError}
    (he : (st.run input w).1.answer = .error e) (hne : ∀ f, e ≠ .service f) :
    (st.run input w).1.events = [] ∧ (st.run input w).2.service = st.service := by
  obtain ⟨hservice, hevents⟩ := run_service st input w
  obtain ⟨hnone, -⟩ | ⟨r, f, -, -, hf⟩ := stops_by hh hst he
  · rw [hservice, hevents, hnone]
    exact ⟨rfl, rfl⟩
  · exact absurd hf (hne f)

/-- **A build that the service fails stops with that failure**, and nothing is kept. -/
theorem idle_of_failed (hh : h.Coherent) (hst : st.service = h.service) {r : Request} {f : Failure}
    (hr : asked? st.shared input = some r) (answer : (st.service.ensure r w).1.answer = .error f) :
    (st.run input w).1.answer = .error (.service f) ∧ IsIdle (st.run input w).2.service := by
  obtain ⟨o, start, clear, want⟩ := asked?_eq_some hr
  refine ⟨run_of_failed start clear want answer, ?_⟩
  rw [(run_service st input w).1, hr]
  show IsIdle (st.service.ensure r w).2
  rw [hst] at answer ⊢
  exact hh.isIdle_of_answer fun p hp => absurd (answer.symm.trans hp) (by simp)

end Coherent

/-- **A build stops as a whole.** After any session, whatever the outside does: a build that stops
since an address is misplaced or settings are refused has caused no event and left the service as it
was. Where the service is asked and fails, the build stops with that failure, and nothing is running
or kept; and no build stops with a failure of the service otherwise. Where the service is asked and
answers, with a registry or with none, the build comes to its outcome: the configuration that it
asked with, extended by the registry, passes the second check of the addresses. The id that is
current after the build is the one of before. -/
theorem build_stops_whole (runtime : RuntimeStatus) (acts : List Act) (shared : Option SerdeLayer)
    (input : BuildInput) (w : World) :
    let s := Session.ofActs runtime acts
    let run := (s.state shared).run input w
    (∀ m, run.1.answer = .error (.misplacedUrl m) →
        run.1.events = [] ∧ run.2.service = s.service)
      ∧ (∀ e, run.1.answer = .error (.settings e) →
          run.1.events = [] ∧ run.2.service = s.service)
      ∧ (∀ r f, asked? shared input = some r → (s.service.ensure r w).1.answer = .error f →
          run.1.answer = .error (.service f) ∧ IsIdle run.2.service)
      ∧ (∀ f, run.1.answer = .error (.service f) →
          ∃ r, asked? shared input = some r ∧ (s.service.ensure r w).1.answer = .error f)
      ∧ (∀ r p, asked? shared input = some r → (s.service.ensure r w).1.answer = .ok p →
          ∃ out warnings, run.1.answer = .ok out ∧ out.provision = p
            ∧ out.config = withProvision r.config p
            ∧ validate out.config out.channels = .ok warnings)
      ∧ run.2.ids.current = s.ids.current := by
  intro s run
  obtain ⟨calls, hs⟩ := Session.isCalled runtime acts
  have hh := coherent runtime calls
  refine ⟨fun m hm => ?_, fun e he => ?_, fun r f hr hf => ?_, fun f hf => ?_, fun r p hr hp => ?_,
    current_run _ _ _⟩
  · exact untouched_of_error hh hs hm fun f hf => BuildError.noConfusion hf
  · exact untouched_of_error hh hs he fun f hf => BuildError.noConfusion hf
  · exact idle_of_failed hh hs hr hf
  · obtain ⟨-, hne⟩ | ⟨r, f', hr, hf', he⟩ := stops_by hh hs hf
    · exact absurd rfl (hne f)
    · obtain rfl := BuildError.service.inj he
      exact ⟨r, hr, hf'⟩
  · have hanswered : ∃ o, run.1.answer = .ok (outcome input o p) ∧ _ := run_of_asked hh hs hr hp
    obtain ⟨o, hok, hconfig⟩ := hanswered
    obtain ⟨-, -, -, ⟨warnings, hvalid⟩, -⟩ := outcome_of_answer hok
    exact ⟨_, warnings, hok, rfl, hconfig, hvalid⟩

end Build

end ChannelSerde
