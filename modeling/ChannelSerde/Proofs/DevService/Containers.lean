import ChannelSerde.Proofs.DevService.History
import Mathlib.Data.List.Nodup

/-!
# Every container is held or stopped once

A container that the outside gives costs something until it is stopped, so none may be forgotten and
none may be stopped twice. `Tallied` is the invariant behind this. It compares the events and the
containers given with the service: the containers are numbered one after the other, each of them but
the held one has been stopped once, and the exit hook has been registered once if one of them came
up.

A call is a release followed by a start, and the invariant is carried through the two apart. Between
them nothing is held, so every container given has been stopped by then; the start asks for a new
one only afterwards.
-/

namespace ChannelSerde

namespace DevService

/-- The number of the container that the service holds. -/
def heldNumber (s : DevService) : Option Nat := s.container.map (·.number)

/-- **The tally of a service**: what has become of the containers given, as the events tell. -/
structure Tallied (es : List Event) (gs : List Given) (s : DevService) : Prop where
  /-- Containers are numbered one after the other. -/
  numbers : gs.map (·.number) = List.range' 1 s.created
  /-- Every container given has been stopped once, the held one apart. -/
  stops : ∀ n, es.count (.stopped n)
    = if n ∈ gs.map (·.number) ∧ s.heldNumber ≠ some n then 1 else 0
  /-- What is held was given and came up. -/
  held : ∀ n, s.heldNumber = some n → ∃ g ∈ gs, g.number = n ∧ g.behaviour.comesUp = true
  /-- What is held has been started. -/
  starts : ∀ n, s.heldNumber = some n → .started n ∈ es
  /-- The service knows whether a container ever came up. -/
  hook : s.exitHookRegistered = gs.any (·.behaviour.comesUp)
  /-- The exit hook has been registered as often as the service knows. -/
  hooks : es.count .exitHookRegistered = if s.exitHookRegistered then 1 else 0

/-! ## What the tally counts -/

theorem count_askEvents {e : Event} (he : e ≠ .runtimeAsked) (a : RuntimeStatus.Reply) :
    (askEvents a).count e = 0 := by
  unfold askEvents
  split
  · exact List.count_eq_zero.mpr (by simpa using he)
  · rfl

namespace Tallied

variable {es es' : List Event} {gs : List Given} {s s' : DevService} {r : Request} {w : World}

theorem fresh (runtime : RuntimeStatus) : Tallied [] [] (.fresh runtime) where
  numbers := rfl
  stops n := by simp
  held n h := by simp [heldNumber, DevService.fresh] at h
  starts n h := by simp [heldNumber, DevService.fresh] at h
  hook := rfl
  hooks := rfl

theorem next_not_mem (h : Tallied es gs s) : s.created + 1 ∉ gs.map (·.number) := by
  rw [h.numbers, List.mem_range'_1]
  omega

theorem eq_of_number_eq (h : Tallied es gs s) {a b : Given} (ha : a ∈ gs) (hb : b ∈ gs)
    (hab : a.number = b.number) : a = b := by
  have hnodup : (gs.map (·.number)).Nodup := by
    rw [h.numbers]
    exact List.nodup_range'
  exact List.inj_on_of_nodup_map hnodup ha hb hab

/-- Events that the tally does not count change nothing. -/
theorem quiet (h : Tallied es gs s) (hstops : ∀ n, es'.count (.stopped n) = 0)
    (hhooks : es'.count .exitHookRegistered = 0) (hc : s'.container = s.container)
    (hn : s'.created = s.created) (hr : s'.exitHookRegistered = s.exitHookRegistered) :
    Tallied (es ++ es') gs s' where
  numbers := by rw [hn, h.numbers]
  stops n := by
    unfold heldNumber
    rw [List.count_append, hstops, hc]
    exact h.stops n
  held n hs' := h.held n (by rwa [heldNumber, hc] at hs')
  starts n hs' := List.mem_append_left es' (h.starts n (by rwa [heldNumber, hc] at hs'))
  hook := hr.trans h.hook
  hooks := by rw [List.count_append, hhooks, hr, h.hooks, Nat.add_zero]

/-- **Letting go** stops what was held, and nothing is held afterwards. -/
theorem stop (h : Tallied es gs s) (f : Option Failure) :
    Tallied (es ++ (s.stop f).1.events) gs (s.stop f).2 := by
  unfold DevService.stop
  cases hc : s.container with
  | none => exact h.quiet (fun n => rfl) rfl rfl rfl rfl
  | some c =>
    have hheld : s.heldNumber = some c.number := by rw [heldNumber, hc, Option.map_some]
    obtain ⟨g, hg, hgn, -⟩ := h.held c.number hheld
    have hmem : c.number ∈ gs.map (·.number) := hgn ▸ List.mem_map_of_mem hg
    refine ⟨h.numbers, fun n => ?_, fun n hn => ?_, fun n hn => ?_, h.hook, ?_⟩
    · show (es ++ [Event.stopped c.number]).count (Event.stopped n)
        = if n ∈ gs.map (·.number) ∧ none ≠ some n then 1 else 0
      rw [List.count_append, h.stops n, hheld]
      by_cases hn : n = c.number
      · subst hn
        simp [hmem]
      · have hn' : ¬ c.number = n := fun hcn => hn hcn.symm
        simp [hn']
    · exact absurd hn (by simp [heldNumber])
    · exact absurd hn (by simp [heldNumber])
    · rw [List.count_append, h.hooks]
      simp

theorem numbers_next (h : Tallied es gs s) (b : Behaviour) :
    (gs ++ [(⟨s.created + 1, b⟩ : Given)]).map (·.number) = List.range' 1 (s.created + 1) := by
  rw [List.map_append, h.numbers, List.range'_1_concat, Nat.add_comm 1]
  rfl

/-- **A container that does not come up** is stopped at once, and is not held. -/
theorem fallen (h : Tallied es gs s) (hidle : s.container = none) {b : Behaviour}
    (hb : b.comesUp = false) (hstops : ∀ n, es'.count (.stopped n) = if n = s.created + 1 then 1 else 0)
    (hhooks : es'.count .exitHookRegistered = 0) (hc : s'.container = none)
    (hn : s'.created = s.created + 1) (hr : s'.exitHookRegistered = s.exitHookRegistered) :
    Tallied (es ++ es') (gs ++ [⟨s.created + 1, b⟩]) s' where
  numbers := by rw [hn, h.numbers_next]
  stops n := by
    unfold heldNumber
    rw [List.count_append, hstops, h.stops n, heldNumber, hidle, hc, List.map_append]
    by_cases hlast : n = s.created + 1
    · subst hlast
      simp [h.next_not_mem]
    · simp [hlast]
  held n hs' := absurd hs' (by simp [heldNumber, hc])
  starts n hs' := absurd hs' (by simp [heldNumber, hc])
  hook := by rw [hr, h.hook, List.any_append]; simp [hb]
  hooks := by rw [List.count_append, hhooks, hr, h.hooks, Nat.add_zero]

/-- **A container that comes up** is held; the hook is registered if it was not yet. -/
theorem risen (h : Tallied es gs s) (hidle : s.container = none) {b : Behaviour}
    (hb : b.comesUp = true) (hstarted : .started (s.created + 1) ∈ es')
    (hstops : ∀ n, es'.count (.stopped n) = 0)
    (hhooks : es'.count .exitHookRegistered = if s.exitHookRegistered then 0 else 1)
    (hc : s'.heldNumber = some (s.created + 1)) (hn : s'.created = s.created + 1)
    (hr : s'.exitHookRegistered = true) :
    Tallied (es ++ es') (gs ++ [⟨s.created + 1, b⟩]) s' where
  numbers := by rw [hn, h.numbers_next]
  stops n := by
    rw [List.count_append, hstops, h.stops n, heldNumber, hidle, hc, List.map_append]
    by_cases hlast : n = s.created + 1
    · subst hlast
      simp [h.next_not_mem]
    · have hlast' : ¬ s.created + 1 = n := fun hcn => hlast hcn.symm
      simp [hlast, hlast']
  held n hs' := by
    obtain rfl : s.created + 1 = n := Option.some.inj (hc.symm.trans hs')
    exact ⟨_, List.mem_append_right _ (List.mem_singleton_self _), rfl, hb⟩
  starts n hs' := by
    obtain rfl : s.created + 1 = n := Option.some.inj (hc.symm.trans hs')
    exact List.mem_append_right es hstarted
  hook := by rw [hr, List.any_append]; simp [hb]
  hooks := by
    rw [List.count_append, hhooks, hr, h.hooks]
    cases s.exitHookRegistered <;> rfl

/-- **A start** gives one container at most, which is held or has been stopped afterwards. -/
theorem start (h : Tallied es gs s) (hidle : s.container = none) (r : Request) (w : World) :
    Tallied (es ++ (s.start r w).1.events)
      (gs ++ (Call.ensure r w).given (s.start r w).1.events) (s.start r w).2 := by
  have hend := start_ends s r w
  have hasks := asks_none_askEvents (s.asking w)
  have hask : ∀ n, (askEvents (s.asking w)).count (.stopped n) = 0 := fun n =>
    count_askEvents (by simp) _
  have hask' : (askEvents (s.asking w)).count .exitHookRegistered = 0 :=
    count_askEvents (by simp) _
  generalize s.start r w = out at hend ⊢
  cases hend with
  | skipped skip =>
    rw [Call.given_of_asks_none rfl, List.append_nil, List.append_nil]
    exact h
  | notAnswered need answer =>
    rw [Call.given_of_asks_none hasks, List.append_nil]
    exact h.quiet hask hask' rfl rfl rfl
  | noRuntime need answer =>
    rw [Call.given_of_asks_none hasks, List.append_nil]
    exact h.quiet hask hask' rfl rfl rfl
  | notCreated need answer create =>
    rw [Call.given_of_create_error create, List.append_nil]
    refine h.quiet (fun n => ?_) ?_ rfl rfl rfl
    · rw [List.count_append, hask n]
      simp
    · rw [List.count_append, hask']
      simp
  | @notUp b f es need answer create up =>
    rw [Call.given_of_create_ok create, asks_one (asks_none_of_notUp up)]
    refine h.fallen hidle (bringUp_error up).1 (fun n => ?_) ?_ hidle rfl rfl
    · rw [List.count_append, hask n, List.count_cons, List.count_append,
        count_of_bringUp up (by simp) (by simp)]
      by_cases hn : n = s.created + 1
      · simp [hn]
      · have hn' : ¬ s.created + 1 = n := fun h => hn h.symm
        simp [hn, hn']
    · rw [List.count_append, hask', List.count_cons, List.count_append,
        count_of_bringUp up (by simp) (by simp)]
      simp
  | @up b url es need answer create up =>
    rw [Call.given_of_create_ok create, asks_one (asks_none_of_up up _)]
    refine h.risen hidle (bringUp_ok up).1 ?_ (fun n => ?_) ?_ rfl rfl rfl
    · obtain ⟨-, -, rfl⟩ := bringUp_ok up
      simp
    · rw [List.count_append, hask n, List.count_cons, List.count_append,
        count_of_bringUp up (by simp) (by simp)]
      cases s.exitHookRegistered <;> simp
    · rw [List.count_append, hask', List.count_cons, List.count_append,
        count_of_bringUp up (by simp) (by simp)]
      cases s.exitHookRegistered <;> simp

/-- **The tally is kept by every call**: a call is a release followed by a start. -/
theorem turn (h : Tallied es gs s) (c : Call) :
    Tallied (es ++ (s.turn c).reply.events) (gs ++ c.given (s.turn c).reply.events)
      (s.turn c).after := by
  cases c with
  | stop f =>
    rw [Call.given_stop, List.append_nil]
    exact h.stop f
  | ensure r w =>
    cases hr : s.reuses r with
    | true =>
      obtain ⟨c, -, he⟩ := ensure_reuse hr w
      simp only [DevService.turn, he, List.append_nil, Call.given_of_asks_none (List.filterMap_nil)]
      exact h
    | false =>
      obtain ⟨-, hevents, hafter⟩ := ensure_anew (w := w) hr
      have hstart := (h.stop w.heldStopFailure).start (container_stop s _) r w
      simp only [DevService.turn, hevents, hafter]
      rw [Call.given_append_of_asks_none (asks_none_releaseEvents s w), ← List.append_assoc]
      exact hstart

end Tallied

/-- **The tally of every history.** -/
theorem tallied (runtime : RuntimeStatus) (calls : List Call) :
    Tallied (History.ofCalls runtime calls).events (History.ofCalls runtime calls).given
      (History.ofCalls runtime calls).service := by
  refine History.ofCalls_induction (P := fun h => Tallied h.events h.given h.service)
    (Tallied.fresh runtime) (fun h c ih => ?_) calls
  rw [History.events_next, History.given_next]
  exact ih.turn c

/-! ## Before a container is asked for -/

/-- What stands before a request for a container, among events of which the first ones ask for none,
begins with these. -/
theorem prefix_of_asks_none {as bs pre post : List Event} {n : Nat} {c : ContainerSpec}
    (h : as ++ bs = pre ++ .creating n c :: post) (has : as.filterMap Event.asked? = []) :
    as <+: pre := by
  obtain ⟨l, hpre, -⟩ | ⟨l, has', hl⟩ := List.append_eq_append_iff.mp h
  · exact ⟨l, hpre.symm⟩
  · cases l with
    | nil => exact ⟨[], by rw [has', List.append_nil, List.append_nil]⟩
    | cons e l =>
      obtain rfl : .creating n c = e := (List.cons.inj hl).1
      rw [has', List.filterMap_append] at has
      exact absurd (List.append_eq_nil_iff.mp has).2 (by simp [Event.asked?])

/-- **A call asks for one container at most**: before it does, it has let go of what was running and
asked for no other. -/
theorem before_creating {s : DevService} {c : Call} {pre post : List Event} {n : Nat}
    {spec : ContainerSpec} (h : (s.turn c).reply.events = pre ++ .creating n spec :: post) :
    ∃ f, (s.stop f).1.events <+: pre ∧ pre.filterMap Event.asked? = [] := by
  have hasks : ∀ {es : List Event}, es = pre ++ .creating n spec :: post →
      es.filterMap Event.asked? ≠ [] := by
    rintro es rfl
    simp [Event.asked?]
  cases c with
  | stop f =>
    have hnone : ((s.turn (.stop f)).reply.events).filterMap Event.asked? = [] := by
      unfold turn stop
      cases s.container <;> rfl
    exact absurd hnone (hasks h)
  | ensure r w =>
    cases hr : s.reuses r with
    | true =>
      obtain ⟨c, -, he⟩ := ensure_reuse hr w
      exact absurd (by simp [turn, he]) (hasks h)
    | false =>
      obtain ⟨-, hevents, -⟩ := ensure_anew (w := w) hr
      have hrel := asks_none_releaseEvents s w
      replace h := hevents.symm.trans h
      refine ⟨w.heldStopFailure, prefix_of_asks_none h hrel, ?_⟩
      have hone := congrArg (List.filterMap Event.asked?) h
      rw [List.filterMap_append, List.filterMap_append, hrel, List.nil_append,
        List.filterMap_cons] at hone
      obtain hstart | ⟨rest, hstart, hrest⟩ := start_asks (s.released w) r w
      · rw [hstart] at hone
        exact absurd hone.symm (by simp [Event.asked?])
      · rw [hstart, asks_one hrest] at hone
        cases hpre : pre.filterMap Event.asked? with
        | nil => rfl
        | cons m l => simp [hpre, Event.asked?] at hone

/-- **When a container is asked for, all earlier ones have been stopped.** -/
theorem Tallied.stopped_before {es : List Event} {gs : List Given} {s : DevService}
    (h : Tallied es gs s) {c : Call} {pre post : List Event} {n : Nat} {spec : ContainerSpec}
    (hc : (s.turn c).reply.events = pre ++ .creating n spec :: post) :
    ∀ g ∈ gs ++ c.given pre, Event.stopped g.number ∈ es ++ pre := by
  obtain ⟨f, ⟨rest, hrest⟩, hasks⟩ := before_creating hc
  rw [Call.given_of_asks_none hasks, List.append_nil]
  intro g hg
  have hone : (es ++ (s.stop f).1.events).count (.stopped g.number) = 1 := by
    rw [(h.stop f).stops, heldNumber, container_stop, if_pos]
    exact ⟨List.mem_map_of_mem hg, by simp⟩
  have hmem : Event.stopped g.number ∈ es ++ (s.stop f).1.events :=
    List.count_pos_iff.mp (by omega)
  rw [← hrest, ← List.append_assoc]
  exact List.mem_append_left rest hmem

/-! ## The exit hook -/

/-- A start registers the exit hook exactly where a registry is running after it. -/
theorem exitHookRegistered_start (s : DevService) (hidle : s.container = none) (r : Request)
    (w : World) :
    (s.start r w).2.exitHookRegistered = (s.exitHookRegistered || (s.start r w).2.running) := by
  have hend := start_ends s r w
  generalize s.start r w = out at hend ⊢
  have hrun : s.running = false := by rw [running, hidle]; rfl
  cases hend with
  | up need answer create up => exact (Bool.or_true _).symm
  | skipped skip => rw [hrun, Bool.or_false]
  | _ => exact (Bool.or_false _).symm.trans (congrArg (s.exitHookRegistered || ·) hrun.symm)

/-- So does a call, where the hook of the running registry has been registered before. -/
theorem exitHookRegistered_turn (s : DevService)
    (h : s.running = true → s.exitHookRegistered = true) (c : Call) :
    (s.turn c).after.exitHookRegistered = (s.exitHookRegistered || (s.turn c).after.running) := by
  cases c with
  | stop f =>
    show (s.stop f).2.exitHookRegistered = (s.exitHookRegistered || (s.stop f).2.running)
    rw [exitHookRegistered_stop, running, container_stop]
    exact (Bool.or_false _).symm
  | ensure r w =>
    show (s.ensure r w).2.exitHookRegistered = (s.exitHookRegistered || (s.ensure r w).2.running)
    cases hr : s.reuses r with
    | true =>
      obtain ⟨c, hc, he⟩ := ensure_reuse hr w
      have hrun : s.running = true := by rw [running, hc]; rfl
      rw [he, h hrun]
      rfl
    | false =>
      have hstart := exitHookRegistered_start (s.released w) (container_stop s _) r w
      rw [(ensure_anew hr).2.2, hstart, released, exitHookRegistered_stop]

/-- **The service knows whether a registry was ever running.** -/
theorem any_running_turns (runtime : RuntimeStatus) (calls : List Call) :
    (History.ofCalls runtime calls).turns.any (·.after.running)
      = (History.ofCalls runtime calls).service.exitHookRegistered := by
  -- the tally is carried along: it says that the hook of a running registry is registered
  refine (History.ofCalls_induction (P := fun h => Tallied h.events h.given h.service
    ∧ h.turns.any (·.after.running) = h.service.exitHookRegistered)
    ⟨Tallied.fresh runtime, rfl⟩ (fun h c ⟨ht, ih⟩ => ⟨?_, ?_⟩) calls).2
  · rw [History.events_next, History.given_next]
    exact ht.turn c
  · have hrun : h.service.running = true → h.service.exitHookRegistered = true := by
      intro hr
      obtain ⟨k, hk⟩ := Option.isSome_iff_exists.mp hr
      obtain ⟨g, hg, -, hup⟩ := ht.held k.number (by rw [heldNumber, hk]; rfl)
      rw [ht.hook]
      exact List.any_eq_true.mpr ⟨g, hg, hup⟩
    show (h.turns ++ [h.service.turn c]).any (·.after.running) = _
    rw [List.any_append, ih]
    simp only [List.any_cons, List.any_nil, Bool.or_false]
    exact (exitHookRegistered_turn h.service hrun c).symm

/-! ## The books of a history -/

/-- **Every container is accounted for.** After any calls, whatever the outside did during them,
each container ever given is held, was started and was never stopped, or is not held and was stopped
exactly once. Whenever a further call asks for a container, all those given before have been stopped
by then. The exit hook has been registered once if a registry was ever running, which is to say that
some container came up, and never otherwise.

Containers are told apart by their numbers, of which no two are equal. -/
theorem containers_accounted (runtime : RuntimeStatus) (calls : List Call) :
    let h := History.ofCalls runtime calls
    (∀ g ∈ h.given,
        (h.service.heldNumber = some g.number
            ∧ .started g.number ∈ h.events ∧ g.behaviour.startFailure = none
            ∧ h.events.count (.stopped g.number) = 0)
          ∨ (h.service.heldNumber ≠ some g.number ∧ h.events.count (.stopped g.number) = 1))
      ∧ (h.given.map (·.number)).Nodup
      ∧ (∀ n, h.service.heldNumber = some n → n ∈ h.given.map (·.number))
      ∧ (∀ c pre n spec post,
          (h.service.turn c).reply.events = pre ++ .creating n spec :: post →
            ∀ g ∈ h.given ++ c.given pre, Event.stopped g.number ∈ h.events ++ pre)
      ∧ h.events.count .exitHookRegistered = (if h.turns.any (·.after.running) then 1 else 0)
      ∧ h.turns.any (·.after.running) = h.given.any (·.behaviour.comesUp) := by
  intro h
  have ht : Tallied h.events h.given h.service := tallied runtime calls
  have hrun : h.turns.any (·.after.running) = h.service.exitHookRegistered :=
    any_running_turns runtime calls
  refine ⟨fun g hg => ?_, ?_, fun n hn => ?_, fun c pre n spec post hc => ht.stopped_before hc, ?_, ?_⟩
  · have hmem : g.number ∈ h.given.map (·.number) := List.mem_map_of_mem hg
    by_cases hheld : h.service.heldNumber = some g.number
    · obtain ⟨g', hg', hn, hup⟩ := ht.held _ hheld
      obtain rfl : g' = g := ht.eq_of_number_eq hg' hg hn
      refine .inl ⟨hheld, ht.starts _ hheld, startFailure_of_comesUp hup, ?_⟩
      rw [ht.stops, if_neg (fun hne => hne.2 hheld)]
    · refine .inr ⟨hheld, ?_⟩
      rw [ht.stops, if_pos ⟨hmem, hheld⟩]
  · rw [ht.numbers]
    exact List.nodup_range'
  · obtain ⟨g, hg, hgn, -⟩ := ht.held n hn
    exact hgn ▸ List.mem_map_of_mem hg
  · rw [ht.hooks, hrun]
  · rw [hrun, ht.hook]

end DevService

end ChannelSerde
