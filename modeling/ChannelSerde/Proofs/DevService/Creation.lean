import Mathlib.Data.List.Nodup
import Mathlib.Data.List.Pairwise
import ChannelSerde.Proofs.DevService.Containers
import ChannelSerde.Proofs.DevService.Kept
import ChannelSerde.Proofs.Settings.Alike

/-!
# What a container was created with

A container is created with what the snapshot of a request says, and with the name of its service as
a label where the snapshot is shared and the build runs for development. It is handed out again for
another request by a look at the snapshot alone. So the two requests agree on everything but the
launch mode, and with the mode the label is left to the request that came first: what is handed out
was made for the snapshot that is asked for, in the mode of the call that created it
(`handed_out_as_created`).

That this says something of the container itself rests on the numbers: no two turns are given a
container of one number (`turn_eq_of_given`), so there is one creation to be found behind each
container.
-/

namespace ChannelSerde

open Config

/-- **A container was made for a snapshot**, in a launch mode. -/
structure ContainerSpec.MadeFor (made : ContainerSpec) (snapshot : Snapshot) (mode : LaunchMode) :
    Prop where
  image : made.image = snapshot.image
  port : made.port = snapshot.port
  environment : ∀ k, made.environment.get? k = snapshot.environment.get? k
  label : made.serviceName
    = if snapshot.isShared = true ∧ mode = .development then some snapshot.serviceName else none

namespace DevService

/-- **A container is created in a turn**, with what the outside was asked for. -/
def Turn.Creates (t : Turn) (number : Nat) (made : ContainerSpec) : Prop :=
  number ∈ t.given.map (·.number) ∧ .creating number made ∈ t.reply.events

variable {s : DevService} {r : Request} {w : World}

/-! ## The request behind a creation -/

theorem spec_of_start_creating {n : Nat} {made : ContainerSpec}
    (h : .creating n made ∈ (s.start r w).1.events) : made = spec r := by
  obtain hnone | ⟨rest, hevents, hrest⟩ := start_asks s r w
  · exact absurd h (not_creating_of_asks_none hnone n made)
  · rw [hevents] at h
    obtain h | h := List.mem_append.mp h
    · exact absurd h (not_creating_of_asks_none (asks_none_askEvents _) n made)
    · obtain h | h := List.mem_cons.mp h
      · exact (Event.creating.inj h).2
      · exact absurd h (not_creating_of_asks_none hrest n made)

/-- **A turn asks for a container as its request says.** -/
theorem spec_of_turn_creating {c : Call} {n : Nat} {made : ContainerSpec}
    (h : .creating n made ∈ (s.turn c).reply.events) : ∃ r w, c = .ensure r w ∧ made = spec r := by
  cases c with
  | stop f =>
    refine absurd h (not_creating_of_asks_none ?_ n made)
    unfold turn stop
    cases s.container <;> rfl
  | ensure r w => exact ⟨r, w, rfl, spec_of_start_creating (start_creating_of_ensure h).2⟩

theorem Turn.exists_creates {t : Turn} {g : Given} (h : g ∈ t.given) :
    ∃ made, t.Creates g.number made := by
  obtain ⟨b, -, hg⟩ := List.mem_flatMap.mp h
  obtain ⟨n, hn, rfl⟩ := List.mem_map.mp hg
  obtain ⟨e, he, hasked⟩ := List.mem_filterMap.mp hn
  cases e with
  | creating m made =>
    obtain rfl := Option.some.inj hasked
    exact ⟨made, List.mem_map_of_mem h, he⟩
  | _ => exact absurd hasked (by simp [Event.asked?])

theorem creates_of_creating {b : Behaviour} (hb : w.create = .ok b) {n : Nat} {made : ContainerSpec}
    (h : .creating n made ∈ (s.ensure r w).1.events) :
    (s.turn (.ensure r w)).Creates n made := by
  refine ⟨?_, h⟩
  rw [Turn.given, turn, Call.given_of_create_ok hb, List.map_map]
  exact List.mem_map.mpr ⟨n, List.mem_filterMap.mpr ⟨_, h, rfl⟩, rfl⟩

theorem exists_turn_eq (runtime : RuntimeStatus) (calls : List Call) :
    ∀ t ∈ (History.ofCalls runtime calls).turns, ∃ s : DevService, t = s.turn t.call := by
  refine History.ofCalls_induction (P := fun h => ∀ t ∈ h.turns, ∃ s : DevService, t = s.turn t.call)
    (fun t ht => absurd ht List.not_mem_nil) (fun h c ih t ht => ?_) calls
  obtain ht | ht := List.mem_append.mp ht
  · exact ih t ht
  · obtain rfl := List.mem_singleton.mp ht
    exact ⟨h.service, by rw [call_turn]⟩

/-- **No two turns are given a container of one number.** -/
theorem turn_eq_of_given (runtime : RuntimeStatus) (calls : List Call) {t t' : Turn} {n : Nat}
    (ht : t ∈ (History.ofCalls runtime calls).turns)
    (ht' : t' ∈ (History.ofCalls runtime calls).turns) (hn : n ∈ t.given.map (·.number))
    (hn' : n ∈ t'.given.map (·.number)) : t = t' := by
  have hnodup : ((History.ofCalls runtime calls).turns.flatMap
      fun t => t.given.map (·.number)).Nodup := by
    rw [← List.map_flatMap]
    exact (tallied runtime calls).numbers ▸ List.nodup_range'
  have : Std.Symm (Function.onFun List.Disjoint fun t : Turn => t.given.map (·.number)) :=
    ⟨fun _ _ h => List.disjoint_symm h⟩
  by_contra hne
  exact (List.nodup_flatMap.mp hnodup).2.forall ht ht' hne hn hn'

/-! ## What is handed out -/

/-- Two requests with snapshots that say the same ask for containers that differ in the label at
most. -/
theorem madeFor_of_same {r r₀ : Request} (h : r.snapshot.same r₀.snapshot = true) :
    (spec r₀).MadeFor r.snapshot r₀.mode := by
  obtain ⟨hsame, henvironment⟩ := (Snapshot.same_iff _ _).mp h
  refine ⟨?_, ?_, fun k => (henvironment k).symm, ?_⟩
  · rw [hsame]; rfl
  · rw [hsame]; rfl
  · rw [hsame]
    simp [spec]

/-- **A container is handed out as it was created.** After any calls, whatever the outside did during
them: a call that is answered with a registry is handed the container that is held, and that was
created once. It has the image, the port and the environment that this call asks for, and the name of
the service that this call asks for as its label exactly if what is asked for is shared and the call
that created it, this one or an earlier one, ran for development.

So a call that does not run for development is handed a container with a label only where an earlier
one that did created it. -/
theorem handed_out_as_created (runtime : RuntimeStatus) (calls : List Call) (r : Request) (w : World)
    {p : Provision}
    (hp : ((History.ofCalls runtime calls).service.ensure r w).1.answer = .ok (some p)) :
    let before := History.ofCalls runtime calls
    let after := before.next (.ensure r w)
    ∃ c, after.service.container = some c ∧ p.containerId = c.id
      ∧ ∃ t ∈ after.turns, ∃ made, t.Creates c.number made
        ∧ (∀ t' ∈ after.turns, ∀ made', t'.Creates c.number made' → t' = t ∧ made' = made)
        ∧ ∃ r₀ w₀, t.call = .ensure r₀ w₀ ∧ made.MadeFor r.snapshot r₀.mode
          ∧ (r.mode ≠ .development → made.serviceName.isSome = true →
              t ∈ before.turns ∧ r₀.mode = .development) := by
  intro before after
  obtain ⟨t, ht, c, url, kept, hk, hsame, rfl⟩ := (coherent runtime calls).kept_of_answer hp
  obtain ⟨r₀, w₀, hcall, rfl⟩ := hk.asked
  obtain ⟨g, hg, hgn, -⟩ := hk.given
  have hafter : History.ofCalls runtime (calls ++ [.ensure r w]) = after :=
    History.ofCalls_concat runtime calls _
  have hspec : ∀ made, t.Creates c.number made → made = spec r₀ := fun made hmade => by
    obtain ⟨s, hturn⟩ := exists_turn_eq runtime (calls ++ [.ensure r w]) t (hafter ▸ ht)
    obtain ⟨r₁, w₁, hcall₁, rfl⟩ := spec_of_turn_creating (hturn ▸ hmade.2)
    obtain ⟨rfl, -⟩ := Call.ensure.inj (hcall.symm.trans hcall₁)
    rfl
  obtain ⟨made, hmade⟩ := Turn.exists_creates hg
  rw [hgn] at hmade
  obtain rfl := hspec made hmade
  have hfor := madeFor_of_same hsame
  refine ⟨c, hk.container, rfl, t, ht, spec r₀, hmade, fun t' ht' made' hmade' => ?_, r₀, w₀, hcall,
    hfor, fun hmode hlabel => ?_⟩
  · -- the numbers tell the turns apart
    obtain rfl : t' = t := turn_eq_of_given runtime (calls ++ [.ensure r w]) (hafter ▸ ht')
      (hafter ▸ ht) hmade'.1 hmade.1
    exact ⟨rfl, hspec made' hmade'⟩
  · have hdevelopment : r₀.mode = .development := by
      by_contra hne
      rw [hfor.label, if_neg fun h => hne h.2] at hlabel
      exact Bool.false_ne_true hlabel
    refine ⟨?_, hdevelopment⟩
    obtain ht | ht := List.mem_append.mp ht
    · exact ht
    · obtain rfl := List.mem_singleton.mp ht
      obtain ⟨rfl, -⟩ := Call.ensure.inj hcall
      exact absurd hdevelopment hmode

/-! ## One container for two modes -/

/-- A container that comes up. -/
def ready : Behaviour :=
  { id := some "registry-1", startFailure := none, url := .ok "http://localhost:32768"
    probeFailure := none, stopFailure := none }

/-- A registry was asked for once, for development. -/
def developed : History :=
  .ofCalls .fresh [.ensure (ordersRequest .development) (runnable (.ok ready))]

/-- One container was created for that, and it is handed out for every mode. -/
theorem developed_holds (mode : LaunchMode) (w : World) :
    developed.service.container = some ⟨1, ready.id⟩
      ∧ (∃ t ∈ developed.turns, t.Creates 1 (spec (ordersRequest .development)))
      ∧ ∃ p, developed.service.ensure (ordersRequest mode) w
          = (⟨.ok (some p), [], []⟩, developed.service) ∧ p.containerId = ready.id := by
  have hservice : developed.service = (fresh .fresh).holding (ordersRequest .development)
      (runnable (.ok ready)) ready "http://localhost:32768" := by
    show ((fresh .fresh).start (ordersRequest .development) (runnable (.ok ready))).2 = _
    unfold start
    rw [skipRecord?_ordersRequest]
    rfl
  have hcontainer : developed.service.container = some ⟨1, ready.id⟩ :=
    congrArg DevService.container hservice
  have hreuses : developed.service.reuses (ordersRequest mode) = true := by
    rw [hservice]
    exact Snapshot.same_self .standard
  refine ⟨hcontainer, ⟨_, List.mem_singleton_self _,
    creates_of_creating rfl (asked_ordersRequest .development _ rfl)⟩, ?_⟩
  obtain ⟨c, hc, he⟩ := ensure_reuse hreuses w
  obtain rfl := Option.some.inj (hcontainer.symm.trans hc)
  exact ⟨_, he, rfl⟩

/-- A build for a test is handed the container of the one for development before it, as it was
created then. -/
theorem handed_out_as_created_otherMode :
    let w := runnable (.ok ready)
    let after := developed.next (.ensure (ordersRequest .test) w)
    (∃ p, (developed.service.ensure (ordersRequest .test) w).1.answer = .ok (some p))
      ∧ ∃ c, after.service.container = some c
        ∧ ∃ t ∈ after.turns, ∃ made, t.Creates c.number made
          ∧ ∃ r₀ w₀, t.call = .ensure r₀ w₀ ∧ made.MadeFor (ordersRequest .test).snapshot r₀.mode := by
  intro w after
  obtain ⟨-, -, p, he, -⟩ := developed_holds .test w
  have hp : (developed.service.ensure (ordersRequest .test) w).1.answer = .ok (some p) :=
    congrArg (·.1.answer) he
  obtain ⟨c, hc, -, t, ht, made, hmade, -, r₀, w₀, hcall, hfor, -⟩ :=
    handed_out_as_created .fresh [.ensure (ordersRequest .development) w] (ordersRequest .test) w hp
  exact ⟨⟨p, hp⟩, c, hc, t, ht, made, hmade, r₀, w₀, hcall, hfor⟩

/-- **A build for a test can be handed a container that others share**, which was not made for a
test. -/
theorem test_is_handed_shared :
    let w := runnable (.ok ready)
    let r := ordersRequest .test
    let after := developed.next (.ensure r w)
    ∃ p c made, (developed.service.ensure r w).1.answer = .ok (some p)
      ∧ after.service.container = some c ∧ p.containerId = c.id
      ∧ (∃ t ∈ after.turns, t.Creates c.number made)
      ∧ made.serviceName = some Settings.defaultServiceName
      ∧ ¬ made.MadeFor r.snapshot r.mode := by
  intro w r after
  obtain ⟨hc, ⟨t, ht, hmade⟩, p, he, hid⟩ := developed_holds .test w
  have hafter : after.service = developed.service := by
    show (developed.service.ensure r w).2 = developed.service
    rw [he]
  refine ⟨p, ⟨1, ready.id⟩, spec (ordersRequest .development), congrArg (·.1.answer) he,
    hafter ▸ hc, hid, ⟨t, List.mem_append_left _ ht, hmade⟩, rfl, fun h => ?_⟩
  -- for a test there is no label
  exact absurd h.label (by decide)

end DevService

end ChannelSerde
