import ChannelSerde.Proofs.DevService.History

/-!
# What is told of a start that fails

A registry is brought up in four stages: a container is created, it is started, it is asked for its
address, and the registry in it is waited for. Each of them may fail in ways that only the outside
knows. Whoever asked for the registry is told of the first failure, and this module says how.

A failure that says that a registry cannot be started is passed on as it is, from whichever stage it
comes. Any other failure of the last three stages becomes one of that sort, with its kind as the cause
and its text among the details, and stopping the container afterwards changes nothing about it. The
first stage has no part in this: a failure to create a container is passed on as it is, whatever it
says (`failure_told`). What was running before has no part in it either, so nothing is assumed of the
service.
-/

namespace ChannelSerde

/-- **The stages of bringing up a registry.** -/
inductive Stage where
  | creation
  | starting
  | address
  | readiness
  deriving DecidableEq

/-- **The first failure of the outside**, and the stage that it stops. -/
inductive World.FailsAt (w : World) : Stage → Failure → Prop where
  | creation {f : Failure} (create : w.create = .error f) : FailsAt w .creation f
  | starting {b : Behaviour} {f : Failure} (create : w.create = .ok b)
      (start : b.startFailure = some f) : FailsAt w .starting f
  | address {b : Behaviour} {f : Failure} (create : w.create = .ok b)
      (start : b.startFailure = none) (url : b.url = .error f) : FailsAt w .address f
  | readiness {b : Behaviour} {base : String} {f : Failure} (create : w.create = .ok b)
      (start : b.startFailure = none) (url : b.url = .ok base) (probe : b.probeFailure = some f) :
      FailsAt w .readiness f

namespace DevService

variable {s : DevService} {r : Request} {w : World}

/-! ## The failure of an attempt -/

theorem failsAt_unique {stage stage' : Stage} {f f' : Failure} (h : w.FailsAt stage f)
    (h' : w.FailsAt stage' f') : stage = stage' ∧ f = f' := by
  cases h <;> cases h' <;> simp_all

/-- A container that is not brought up failed at one of the later stages. -/
theorem failsAt_of_bringUp_error {n : Nat} {t : Seconds} {b : Behaviour} {f : Failure}
    {es : List Event} (create : w.create = .ok b) (h : bringUp n t b = (.error f, es)) :
    ∃ stage, stage ≠ .creation ∧ w.FailsAt stage f := by
  obtain ⟨hs, -⟩ | ⟨hs, hu, -⟩ | ⟨url, hs, hu, hp, -⟩ := bringUp_fails h
  · exact ⟨.starting, Stage.noConfusion, .starting create hs⟩
  · exact ⟨.address, Stage.noConfusion, .address create hs hu⟩
  · exact ⟨.readiness, Stage.noConfusion, .readiness create hs hu hp⟩

theorem not_failsAt_of_bringUp_ok {n : Nat} {t : Seconds} {b : Behaviour} {url : String}
    {es : List Event} (create : w.create = .ok b) (h : bringUp n t b = (.ok url, es))
    (stage : Stage) (f : Failure) : ¬ w.FailsAt stage f := by
  obtain ⟨hup, hurl, -⟩ := bringUp_ok h
  obtain ⟨hstart, -, hprobe⟩ := comesUp_iff.mp hup
  have hsame : ∀ {b'}, w.create = .ok b' → b = b' := fun hc => Except.ok.inj (create.symm.trans hc)
  intro hf
  cases hf with
  | creation hc => exact absurd (create.symm.trans hc) (by simp)
  | starting hc start =>
    obtain rfl := hsame hc
    exact absurd (hstart.symm.trans start) (by simp)
  | address hc start url =>
    obtain rfl := hsame hc
    exact absurd (hurl.symm.trans url) (by simp)
  | readiness hc start url probe =>
    obtain rfl := hsame hc
    exact absurd (hprobe.symm.trans probe) (by simp)

/-! ## The answer to a call -/

/-- **How a start is answered that creates a container**: with a registry if no stage fails, and with
what is made of the failure otherwise. -/
theorem start_answer_of_creating {n : Nat} {made : ContainerSpec}
    (h : .creating n made ∈ (s.start r w).1.events) :
    ((∃ p, (s.start r w).1.answer = .ok (some p)) ∧ ∀ stage f, ¬ w.FailsAt stage f)
      ∨ (∃ f, (s.start r w).1.answer = .error f ∧ w.FailsAt .creation f)
      ∨ ∃ stage f, (s.start r w).1.answer = .error (startFailure r.snapshot.image f)
          ∧ stage ≠ .creation ∧ w.FailsAt stage f := by
  have hend := start_ends s r w
  generalize s.start r w = out at hend h ⊢
  cases hend with
  | skipped skip => exact absurd h List.not_mem_nil
  | notAnswered need answer | noRuntime need answer =>
    exact absurd h (not_creating_of_asks_none (asks_none_askEvents _) n made)
  | notCreated need answer create => exact .inr (.inl ⟨_, rfl, .creation create⟩)
  | notUp need answer create up =>
    obtain ⟨stage, hstage, hf⟩ := failsAt_of_bringUp_error create up
    exact .inr (.inr ⟨stage, _, rfl, hstage, hf⟩)
  | up need answer create up => exact .inl ⟨⟨_, rfl⟩, not_failsAt_of_bringUp_ok create up⟩

/-- **What is told of a failure**, whatever was running before and however stopping goes. When a call
asks for a container, a failure that says that a registry cannot be started is passed on as it is.
Any other failure to start the container, to learn its address or to wait for the registry is told as
one of that sort, with its kind as the cause and its text among the details. A failure to create the
container is passed on as it is, and no other failure comes out of the call that does not say that a
registry cannot be started. -/
theorem failure_told (s : DevService) (r : Request) (w : World)
    (hasked : ∃ n made, .creating n made ∈ (s.ensure r w).1.events) :
    let told := (s.ensure r w).1.answer
    (∀ stage e, w.FailsAt stage (.start e) → told = .error (.start e))
      ∧ (∀ stage kind message, w.FailsAt stage (.outside kind message) → stage ≠ .creation →
          ∃ e, told = .error (.start e) ∧ e.cause = some kind
            ∧ (.text "error", .text message) ∈ e.details)
      ∧ (∀ f, w.FailsAt .creation f → told = .error f)
      ∧ ∀ f, told = .error f → (∃ e, f = .start e) ∨ w.FailsAt .creation f := by
  intro told
  obtain ⟨n, made, hmade⟩ := hasked
  obtain ⟨hr, hstart⟩ := start_creating_of_ensure hmade
  have hends := start_answer_of_creating hstart
  rw [← (ensure_anew hr).1] at hends
  obtain ⟨⟨p, hp⟩, hnone⟩ | ⟨f, hf, hcreation⟩ | ⟨stage, f, hf, hstage, hfails⟩ := hends
  · refine ⟨fun stage e h => absurd h (hnone _ _), fun stage kind message h => absurd h (hnone _ _),
      fun f h => absurd h (hnone _ _), fun f h => ?_⟩
    exact absurd (hp.symm.trans h) (by simp)
  · -- the container could not be created
    refine ⟨fun stage e h => ?_, fun stage kind message h hne => ?_, fun g h => ?_, fun g h => ?_⟩
    · rw [← (failsAt_unique hcreation h).2]
      exact hf
    · exact absurd (failsAt_unique hcreation h).1.symm hne
    · rw [← (failsAt_unique hcreation h).2]
      exact hf
    · obtain rfl := Except.error.inj (hf.symm.trans h)
      exact .inr hcreation
  · -- one of the later stages failed
    refine ⟨fun stage e h => ?_, fun stage kind message h _ => ?_, fun g h => ?_, fun g h => ?_⟩
    · obtain ⟨-, rfl⟩ := failsAt_unique hfails h
      exact hf
    · obtain ⟨-, rfl⟩ := failsAt_unique hfails h
      exact ⟨_, hf, rfl, by simp⟩
    · exact absurd (failsAt_unique hfails h).1 hstage
    · obtain rfl := Except.error.inj (hf.symm.trans h)
      cases f with
      | start e => exact .inl ⟨e, rfl⟩
      | outside kind message => exact .inl ⟨_, rfl⟩

/-- A registry whose container cannot be started is told of with the reason, though the container
cannot be stopped either. -/
theorem failure_told_notStarted :
    let w := runnable (.ok
      { id := none, startFailure := some (.outside "RuntimeError" "port already allocated")
        url := .ok "http://localhost:32768", probeFailure := none
        stopFailure := some (.outside "OSError" "daemon gone") })
    let reply := ((fresh .fresh).ensure (ordersRequest .development) w).1
    (∃ n made, .creating n made ∈ reply.events)
      ∧ ∃ e, reply.answer = .error (.start e) ∧ e.cause = some "RuntimeError"
          ∧ (.text "error", .text "port already allocated") ∈ e.details := by
  intro w reply
  have hasked : ∃ n made, Event.creating n made ∈ reply.events :=
    ⟨1, _, asked_ordersRequest .development w rfl⟩
  obtain ⟨-, hlater, -⟩ := failure_told (fresh .fresh) (ordersRequest .development) w hasked
  exact ⟨hasked, hlater .starting _ _ (.starting rfl rfl) Stage.noConfusion⟩

/-- **A container that cannot be created is told of as the outside put it**, and not as a registry
that cannot be started. -/
theorem creation_failure_told :
    let w := runnable (.error (.outside "RuntimeError" "no such image"))
    let reply := ((fresh .fresh).ensure (ordersRequest .development) w).1
    (∃ n made, .creating n made ∈ reply.events)
      ∧ w.FailsAt .creation (.outside "RuntimeError" "no such image")
      ∧ ∀ e, reply.answer ≠ .error (.start e) := by
  intro w reply
  refine ⟨⟨1, _, asked_ordersRequest .development w rfl⟩, .creation rfl, fun e h => ?_⟩
  have hraw : reply.answer = .error (.outside "RuntimeError" "no such image") := by
    show ((fresh .fresh).start (ordersRequest .development) w).1.answer = _
    unfold start
    rw [skipRecord?_ordersRequest]
    rfl
  exact Failure.noConfusion (Except.error.inj (hraw.symm.trans h))

end DevService

end ChannelSerde
