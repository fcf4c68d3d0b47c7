import Mathlib.Data.List.Induction
import Mathlib.Tactic.ByContra
import ChannelSerde.Proofs.DevService.History

/-!
# When a container is asked for

A registry costs time and memory, so a container should be asked for where it is needed and nowhere
else. A call asks for one under five conditions, and they are looked at in two places: that no
registry with this snapshot is running before anything is let go of, the others in the start that
follows. The last of them, that containers can be run, is the only one that the outside decides, and
finding it out takes a command that may be slow. So it comes last (`Due` has the four before it),
and who remembers the first answer runs the command once.

What is remembered is a part of the service, while the first answer is a matter of the history: it
is read off the turns by `History.runtimeAnswer?`. That the two agree is the invariant that carries
the run (`runtime_ofCalls`).
-/

namespace ChannelSerde

open RegistryUrl

namespace DevService

/-- **A registry is due**: none is running with what is asked for, what is asked for is enabled, no
address is configured, and some Kafka channel has no address of its own. -/
structure Due (s : DevService) (r : Request) : Prop where
  notRunning : ¬ (s.running = true ∧ ∃ kept, s.snapshot = some kept ∧ r.snapshot.same kept = true)
  enabled : r.snapshot.enabled = true
  unset : r.config.isSet registryUrlKey = false
  lacking : someChannelHasNone r.config = true

/-- **What the runtime answered in a turn**, if it was asked and answered. -/
def Turn.runtimeAnswer? (t : Turn) : Option Bool :=
  match t.call with
  | .ensure _ w =>
    if .runtimeAsked ∈ t.reply.events then w.runtime.available.toOption else none
  | .stop _ => none

/-- **The first answer of the runtime** so far. -/
def History.runtimeAnswer? (h : History) : Option Bool := h.turns.findSome? Turn.runtimeAnswer?

/-- **The runtime answers during a call**, should it be asked: its command ends or cannot be run,
and does not fail in a way that nobody expects. -/
def Call.RuntimeAnswers : Call → Prop
  | .ensure _ w => ∀ f, w.runtime ≠ .broken f
  | .stop _ => True

variable {s : DevService} {r : Request} {w : World}

/-! ## The conditions -/

/-- **A registry is due** where none is handed out again and nothing is skipped. -/
theorem due_iff : s.Due r ↔ s.reuses r = false ∧ skipRecord? r = none := by
  rw [skipRecord?_eq_none_iff, ← Bool.not_eq_true, reuses_iff]
  exact ⟨fun h => ⟨h.notRunning, h.enabled, h.unset, h.lacking⟩, fun ⟨hr, he, hu, hl⟩ =>
    ⟨hr, he, hu, hl⟩⟩

/-- The runtime is told to be there by what is remembered, or by the command if nothing is. -/
theorem asking_available_iff :
    (s.asking w).available = .ok true
      ↔ s.runtime.known.or w.runtime.available.toOption = some true := by
  unfold asking RuntimeStatus.ask
  cases s.runtime.known with
  | some b => simp
  | none =>
    show w.runtime.available = .ok true ↔ w.runtime.available.toOption = some true
    cases w.runtime.available <;> simp [Except.toOption]

/-! ## A start -/

theorem count_runtimeAsked_askEvents :
    (askEvents (s.asking w)).count .runtimeAsked = if s.runtime.known = none then 1 else 0 := by
  unfold askEvents asking RuntimeStatus.ask
  cases s.runtime.known <;> simp

/-- **How often a start asks the runtime.** -/
theorem count_runtimeAsked_start (s : DevService) (r : Request) (w : World) :
    (s.start r w).1.events.count .runtimeAsked
      = if skipRecord? r = none ∧ s.runtime.known = none then 1 else 0 := by
  have hend := start_ends s r w
  generalize s.start r w = out at hend ⊢
  cases hend with
  | skipped skip => simp [skip]
  | notAnswered need answer | noRuntime need answer =>
    simpa [need] using count_runtimeAsked_askEvents
  | notCreated need answer create =>
    simp [List.count_append, count_runtimeAsked_askEvents, need]
  | notUp need answer create up =>
    have hup := count_of_bringUp up (e := .runtimeAsked) (by simp) (by simp)
    simp [List.count_append, count_runtimeAsked_askEvents, hup, need]
  | up need answer create up =>
    have hup := count_of_bringUp up (e := .runtimeAsked) (by simp) (by simp)
    have hhook : (if s.exitHookRegistered then [] else [Event.exitHookRegistered]).count
        .runtimeAsked = 0 := by
      cases s.exitHookRegistered <;> simp
    simp [List.count_append, count_runtimeAsked_askEvents, hup, hhook, need]

/-- **What a start learns** is what the runtime answers, where it is asked. -/
theorem runtime_start (s : DevService) (r : Request) (w : World) :
    (s.start r w).2.runtime
      = if skipRecord? r = none then (s.asking w).status else s.runtime := by
  have hend := start_ends s r w
  generalize s.start r w = out at hend ⊢
  cases hend with
  | skipped skip => simp [skip]
  | notAnswered need _ | noRuntime need _ | notCreated need _ _ | notUp need _ _ _
  | up need _ _ _ =>
    rw [if_pos need]
    rfl

/-- **A start asks for a container** where nothing is skipped and containers can be run. -/
theorem start_creates_iff (s : DevService) (r : Request) (w : World) :
    (∃ n made, .creating n made ∈ (s.start r w).1.events)
      ↔ skipRecord? r = none ∧ (s.asking w).available = .ok true := by
  have hend := start_ends s r w
  generalize s.start r w = out at hend ⊢
  cases hend with
  | skipped skip => simp [skip]
  | notAnswered need answer | noRuntime need answer =>
    refine ⟨fun ⟨n, made, h⟩ => ?_, fun ⟨_, h⟩ => absurd (answer.symm.trans h) (by simp)⟩
    exact absurd h (not_creating_of_asks_none (asks_none_askEvents _) n made)
  | notCreated need answer create | notUp need answer create up | up need answer create up =>
    exact iff_of_true ⟨s.created + 1, spec r, by simp⟩ ⟨need, answer⟩

/-! ## A call -/

theorem runtime_released (s : DevService) (w : World) : (s.released w).runtime = s.runtime := by
  unfold released stop
  cases s.container <;> rfl

theorem count_runtimeAsked_stop (s : DevService) (f : Option Failure) :
    (s.stop f).1.events.count .runtimeAsked = 0 := by
  unfold stop
  cases s.container <;> simp

/-- **How often a call asks the runtime**: once if a registry is due and nothing is remembered. -/
theorem count_runtimeAsked_ensure (s : DevService) (r : Request) (w : World) :
    ((s.Due r ∧ s.runtime.known = none) ∧ (s.ensure r w).1.events.count .runtimeAsked = 1)
      ∨ (¬ (s.Due r ∧ s.runtime.known = none)
          ∧ (s.ensure r w).1.events.count .runtimeAsked = 0) := by
  rw [due_iff]
  cases hr : s.reuses r with
  | true =>
    obtain ⟨_, -, he⟩ := ensure_reuse hr w
    exact .inr ⟨by simp, by rw [he]; rfl⟩
  | false =>
    rw [(ensure_anew hr).2.1, List.count_append, releaseEvents, count_runtimeAsked_stop,
      count_runtimeAsked_start, runtime_released]
    by_cases h : skipRecord? r = none ∧ s.runtime.known = none
    · exact .inl ⟨⟨⟨rfl, h.1⟩, h.2⟩, by rw [if_pos h]⟩
    · exact .inr ⟨fun ⟨⟨_, hskip⟩, hknown⟩ => h ⟨hskip, hknown⟩, by rw [if_neg h]⟩

/-- **When a call asks the runtime.** -/
theorem runtimeAsked_mem_ensure (s : DevService) (r : Request) (w : World) :
    .runtimeAsked ∈ (s.ensure r w).1.events ↔ s.Due r ∧ s.runtime.known = none := by
  rw [← List.count_pos_iff]
  obtain ⟨h, hcount⟩ | ⟨h, hcount⟩ := count_runtimeAsked_ensure s r w
  · exact iff_of_true (by omega) h
  · exact iff_of_false (by omega) h

/-- **When a call asks for a container.** -/
theorem ensure_creates_iff (s : DevService) (r : Request) (w : World) :
    (∃ n made, .creating n made ∈ (s.ensure r w).1.events)
      ↔ s.Due r ∧ s.runtime.known.or w.runtime.available.toOption = some true := by
  rw [due_iff]
  constructor
  · rintro ⟨n, made, h⟩
    obtain ⟨hr, hstart⟩ := start_creating_of_ensure h
    obtain ⟨hskip, havailable⟩ := (start_creates_iff _ r w).mp ⟨n, made, hstart⟩
    rw [asking_available_iff, runtime_released] at havailable
    exact ⟨⟨hr, hskip⟩, havailable⟩
  · rintro ⟨⟨hr, hskip⟩, havailable⟩
    rw [← runtime_released s w, ← asking_available_iff] at havailable
    obtain ⟨n, made, h⟩ := (start_creates_iff _ r w).mpr ⟨hskip, havailable⟩
    exact ⟨n, made, (ensure_anew hr).2.1 ▸ List.mem_append_right _ h⟩

/-- **Where no registry is due, the runtime has no part in a call**: whatever is remembered of it
and however its command would end, the call comes to the same, and what is remembered stays. -/
theorem ensure_of_not_due (h : ¬ s.Due r) (w : World) (known : RuntimeStatus) (e : ProbeEnd) :
    ({ s with runtime := known }).ensure r { w with runtime := e }
      = ((s.ensure r w).1, { (s.ensure r w).2 with runtime := known }) := by
  rw [due_iff] at h
  obtain ⟨container, exported, snapshot, hook, created, runtime⟩ := s
  cases container with
  | none =>
    -- nothing is running, so the start is skipped
    obtain ⟨note, hnote⟩ := Option.ne_none_iff_exists'.mp fun hnone => h ⟨rfl, hnone⟩
    simp only [ensure, start, hnote]
  | some c =>
    cases hm : snapshot.any r.snapshot.same with
    | true => simp only [ensure, matchesRunning, hm, if_true, provision]
    | false =>
      obtain ⟨note, hnote⟩ := Option.ne_none_iff_exists'.mp fun hnone => h ⟨hm, hnone⟩
      simp only [ensure, matchesRunning, hm, Bool.false_eq_true, if_false, stop, start, hnote]

/-- **What a call learns** is what the runtime answers, where it is asked. -/
theorem runtime_ensure (s : DevService) (r : Request) (w : World) :
    (s.ensure r w).2.runtime
      = if s.reuses r = false ∧ skipRecord? r = none then (s.asking w).status else s.runtime := by
  cases hr : s.reuses r with
  | true =>
    obtain ⟨_, -, he⟩ := ensure_reuse hr w
    rw [he]
    simp
  | false =>
    have hasking : (s.released w).asking w = s.asking w := by
      unfold asking
      rw [runtime_released]
    rw [(ensure_anew hr).2.2, runtime_start, runtime_released, hasking]
    simp

/-! ## A run -/

/-- **A turn adds what the runtime answers in it** to what is remembered. -/
theorem runtime_turn (hs : s.runtime.remembers = true) (c : Call) :
    (s.turn c).after.runtime = ⟨true, s.runtime.known.or (s.turn c).runtimeAnswer?⟩ := by
  have hsame : s.runtime = ⟨true, s.runtime.known⟩ := by rw [← hs]
  cases c with
  | stop f =>
    show (s.stop f).2.runtime = ⟨true, s.runtime.known.or none⟩
    rw [Option.or_none, ← hsame]
    unfold stop
    cases s.container <;> rfl
  | ensure r w =>
    show (s.ensure r w).2.runtime = ⟨true, s.runtime.known.or
      (if .runtimeAsked ∈ (s.ensure r w).1.events then w.runtime.available.toOption else none)⟩
    rw [runtime_ensure]
    simp only [runtimeAsked_mem_ensure, due_iff]
    by_cases hdue : s.reuses r = false ∧ skipRecord? r = none
    · rw [if_pos hdue, asking, RuntimeStatus.ask]
      cases hk : s.runtime.known with
      | some b => exact hsame.trans (by rw [hk]; rfl)
      | none => simp [hs, hdue]
    · rw [if_neg hdue, if_neg fun h => hdue h.1, Option.or_none]
      exact hsame

theorem runtimeAnswer?_next (h : History) (c : Call) :
    (h.next c).runtimeAnswer? = h.runtimeAnswer?.or (h.service.turn c).runtimeAnswer? := by
  unfold History.runtimeAnswer? History.next
  rw [List.findSome?_append, List.findSome?_cons, List.findSome?_nil]
  cases (h.service.turn c).runtimeAnswer? <;> rfl

/-- **What is remembered of the runtime is its first answer.** -/
theorem runtime_ofCalls (calls : List Call) :
    (History.ofCalls .fresh calls).service.runtime
      = ⟨true, (History.ofCalls .fresh calls).runtimeAnswer?⟩ := by
  refine History.ofCalls_induction (P := fun h => h.service.runtime = ⟨true, h.runtimeAnswer?⟩) rfl
    (fun h c hh => ?_) calls
  show (h.service.turn c).after.runtime = _
  rw [runtime_turn (by rw [hh]), hh, runtimeAnswer?_next]

/-- A turn asks the runtime once where it answers, and else not at all. -/
theorem count_runtimeAsked_turn {c : Call} (hc : c.RuntimeAnswers) :
    (s.turn c).reply.events.count .runtimeAsked
      = if (s.turn c).runtimeAnswer?.isSome = true then 1 else 0 := by
  cases c with
  | stop f => exact count_runtimeAsked_stop s f
  | ensure r w =>
    have hanswers : w.runtime.available.toOption.isSome = true := by
      cases he : w.runtime with
      | exit code => rfl
      | notRun text => rfl
      | broken f => exact absurd he (hc f)
    show (s.ensure r w).1.events.count .runtimeAsked
      = if (if .runtimeAsked ∈ (s.ensure r w).1.events then w.runtime.available.toOption
          else none).isSome = true then 1 else 0
    obtain ⟨h, hcount⟩ | ⟨h, hcount⟩ := count_runtimeAsked_ensure s r w
    · rw [hcount, if_pos ((runtimeAsked_mem_ensure s r w).mpr h), if_pos hanswers]
    · rw [hcount, if_neg fun hmem => h ((runtimeAsked_mem_ensure s r w).mp hmem)]
      rfl

/-- A turn in which the runtime answers is the first one. -/
theorem known_eq_none_of_runtimeAnswer? {c : Call} (h : (s.turn c).runtimeAnswer?.isSome = true) :
    s.runtime.known = none := by
  cases c with
  | stop f => exact absurd h Bool.false_ne_true
  | ensure r w =>
    by_contra hknown
    have hnot : .runtimeAsked ∉ (s.ensure r w).1.events := fun hmem =>
      hknown ((runtimeAsked_mem_ensure s r w).mp hmem).2
    refine absurd h ?_
    show ¬ (if .runtimeAsked ∈ (s.ensure r w).1.events then w.runtime.available.toOption
      else none).isSome = true
    rw [if_neg hnot]
    exact Bool.false_ne_true

/-- **The command is run once at most**, and exactly if its answer is known. -/
theorem count_runtimeAsked_ofCalls {calls : List Call} (h : ∀ c ∈ calls, c.RuntimeAnswers) :
    (History.ofCalls .fresh calls).events.count .runtimeAsked
      = if (History.ofCalls .fresh calls).runtimeAnswer?.isSome = true then 1 else 0 := by
  induction calls using List.reverseRecOn with
  | nil => rfl
  | append_singleton calls c ih =>
    have hbefore := ih fun c' hc' => h c' (List.mem_append_left _ hc')
    have hturn := count_runtimeAsked_turn (s := (History.ofCalls .fresh calls).service)
      (h c (List.mem_append_right _ (List.mem_singleton_self c)))
    rw [History.ofCalls_concat, History.events_next, List.count_append, hbefore, hturn,
      runtimeAnswer?_next]
    cases ht : ((History.ofCalls .fresh calls).service.turn c).runtimeAnswer? with
    | none => rw [Option.or_none]; rfl
    | some b =>
      have hnone := known_eq_none_of_runtimeAnswer? (Option.isSome_of_eq_some ht)
      rw [runtime_ofCalls] at hnone
      rw [show (History.ofCalls .fresh calls).runtimeAnswer? = none from hnone]
      rfl

/-- **When a container is asked for.** After any calls on a service that remembers the runtime's
first answer, whatever the outside did during them, a further call asks for a container exactly if a
registry is due and the runtime is there: as its first answer said, or as it answers now if there is
none yet.

It runs the runtime's command only if a registry is due, and then exactly if there is no answer yet.
Where none is due, neither what is remembered of the runtime nor how the command would end plays any
part. And as long as the command answers, which it does where it succeeds, fails, takes too long or
cannot be run, it has been run once if an answer is known, and not at all otherwise. -/
theorem container_asked_iff (calls : List Call) (r : Request) (w : World) :
    let h := History.ofCalls .fresh calls
    let s := h.service
    ((∃ n made, .creating n made ∈ (s.ensure r w).1.events)
        ↔ s.Due r ∧ h.runtimeAnswer?.or w.runtime.available.toOption = some true)
      ∧ (.runtimeAsked ∈ (s.ensure r w).1.events ↔ s.Due r ∧ h.runtimeAnswer? = none)
      ∧ (¬ s.Due r → ∀ known e,
          ({ s with runtime := known }).ensure r { w with runtime := e }
            = ((s.ensure r w).1, { (s.ensure r w).2 with runtime := known }))
      ∧ ((∀ c ∈ calls, c.RuntimeAnswers) →
          h.events.count .runtimeAsked = if h.runtimeAnswer?.isSome = true then 1 else 0) := by
  intro h s
  have hknown : s.runtime.known = h.runtimeAnswer? := congrArg RuntimeStatus.known
    (runtime_ofCalls calls)
  rw [← hknown]
  exact ⟨ensure_creates_iff s r w, runtimeAsked_mem_ensure s r w, fun hnot known e =>
    ensure_of_not_due hnot w known e, fun hanswers => hknown ▸ count_runtimeAsked_ofCalls hanswers⟩

/-- An outside that can run containers and has none to give. -/
def noneGiven : World := runnable (.error (.outside "RuntimeError" "no such image"))

/-- One call, for which there was no container. -/
def notCreatedOnce : List Call := [.ensure (ordersRequest .development) noneGiven]

/-- **The first answer counts**: after that call a registry is due again, and a container is asked
for without a look at the runtime, although it is gone by now. -/
theorem container_asked_after_notCreated :
    let s := (History.ofCalls .fresh notCreatedOnce).service
    let reply := (s.ensure (ordersRequest .development) { noneGiven with runtime := .exit 1 }).1
    (∃ n made, .creating n made ∈ reply.events) ∧ .runtimeAsked ∉ reply.events := by
  intro s reply
  have hanswer : (History.ofCalls .fresh notCreatedOnce).runtimeAnswer? = some true := by
    decide +kernel
  have hdown : s.running = false := by decide +kernel
  have hdue : s.Due (ordersRequest .development) := by
    rw [due_iff, reuses, hdown]
    exact ⟨rfl, skipRecord?_ordersRequest _⟩
  obtain ⟨hcreates, hasks, -⟩ := container_asked_iff notCreatedOnce (ordersRequest .development)
    { noneGiven with runtime := .exit 1 }
  exact ⟨hcreates.mpr ⟨hdue, by rw [hanswer]; rfl⟩, fun hmem =>
    absurd ((hasks.mp hmem).2.symm.trans hanswer) (by simp)⟩

end DevService

end ChannelSerde
