import ChannelSerde.Proofs.DevService.Start

/-!
# The history of a service

A service is called again and again, to provide a registry or to stop, and the outside does as it
likes in each call. A history is what has happened so far: the calls made, with what each of them
came to, and the service as it is now. Every history starts with a fresh service, so a property that
holds there and that a call preserves holds of every history (`History.ofCalls_induction`).

The outside also knows what the service does not: which containers it gave, and what these do.
`given` reads that off the calls, so that what happened to a container can be compared with what it
is.
-/

namespace ChannelSerde

/-- The number under which a container is asked for. -/
def Event.asked? : Event → Option Nat
  | .creating n _ => some n
  | _ => none

namespace DevService

/-- **A call on a service**, with what the outside does during it. -/
inductive Call where
  /-- A registry is asked for. -/
  | ensure (r : Request) (w : World)
  /-- The registry is stopped, which may fail. -/
  | stop (failure : Option Failure)

/-- **A call that was made**: what it came to, and the service after it. -/
structure Turn where
  call : Call
  reply : Reply (Except Failure (Option Provision))
  after : DevService

/-- **A container that the outside gave**, and what it does. -/
structure Given where
  number : Nat
  behaviour : Behaviour

namespace Call

/-- The container that the outside gives during a call, if it is asked for one and can. -/
def container? : Call → Option Behaviour
  | ensure _ w => w.create.toOption
  | stop _ => none

/-- **The containers given during some events of a call.** -/
def given (c : Call) (es : List Event) : List Given :=
  c.container?.toList.flatMap fun b => (es.filterMap Event.asked?).map (⟨·, b⟩)

theorem given_stop (f : Option Failure) (es : List Event) : (stop f).given es = [] := rfl

theorem given_of_asks_none {es : List Event} (h : es.filterMap Event.asked? = []) (c : Call) :
    c.given es = [] := by
  unfold given
  simp [h]

theorem given_of_create_error {w : World} {f : Failure} (h : w.create = .error f) (r : Request)
    (es : List Event) : (ensure r w).given es = [] := by
  have hc : (ensure r w).container? = none := by rw [container?, h]; rfl
  rw [given, hc]
  rfl

theorem given_of_create_ok {w : World} {b : Behaviour} (h : w.create = .ok b) (r : Request)
    (es : List Event) : (ensure r w).given es = (es.filterMap Event.asked?).map (⟨·, b⟩) := by
  have hc : (ensure r w).container? = some b := by rw [container?, h]; rfl
  rw [given, hc]
  exact List.append_nil _

/-- Events that ask for no container can be left out. -/
theorem given_append_of_asks_none {as : List Event} (h : as.filterMap Event.asked? = [])
    (c : Call) (bs : List Event) : c.given (as ++ bs) = c.given bs := by
  unfold given
  rw [List.filterMap_append, h, List.nil_append]

end Call

/-- **A turn**: a call is made. -/
def turn (s : DevService) (c : Call) : Turn :=
  match c with
  | .ensure r w => ⟨c, (s.ensure r w).1, (s.ensure r w).2⟩
  | .stop f => ⟨c, { (s.stop f).1 with answer := .ok none }, (s.stop f).2⟩

@[simp] theorem call_turn (s : DevService) (c : Call) : (s.turn c).call = c := by
  cases c <;> rfl

/-- The containers given in a turn. -/
def Turn.given (t : Turn) : List Given := t.call.given t.reply.events

/-- **What has happened to a service.** -/
structure History where
  /-- The calls made so far, first one first. -/
  turns : List Turn
  service : DevService

namespace History

/-- Nothing has happened yet. -/
def start (runtime : RuntimeStatus) : History := ⟨[], .fresh runtime⟩

/-- The history after one call more. -/
def next (h : History) (c : Call) : History :=
  ⟨h.turns ++ [h.service.turn c], (h.service.turn c).after⟩

/-- **The history of some calls** on a fresh service. -/
def ofCalls (runtime : RuntimeStatus) (calls : List Call) : History :=
  calls.foldl next (start runtime)

theorem ofCalls_concat (runtime : RuntimeStatus) (calls : List Call) (c : Call) :
    ofCalls runtime (calls ++ [c]) = (ofCalls runtime calls).next c := by
  unfold ofCalls
  rw [List.foldl_append]
  rfl

/-- All events so far. -/
def events (h : History) : List Event := h.turns.flatMap (·.reply.events)

/-- All containers given so far. -/
def given (h : History) : List Given := h.turns.flatMap Turn.given

@[simp] theorem events_next (h : History) (c : Call) :
    (h.next c).events = h.events ++ (h.service.turn c).reply.events := by
  unfold events next
  simp

@[simp] theorem given_next (h : History) (c : Call) :
    (h.next c).given = h.given ++ c.given (h.service.turn c).reply.events := by
  unfold given next Turn.given
  simp

/-- **What holds of a fresh service and is preserved by every call holds of every history.** -/
theorem ofCalls_induction {P : History → Prop} {runtime : RuntimeStatus} (first : P (start runtime))
    (step : ∀ h c, P h → P (h.next c)) (calls : List Call) : P (ofCalls runtime calls) :=
  List.foldlRecOn calls next first (fun h hh c _ => step h c hh)

end History

/-! ## What is asked for during a call -/

theorem asks_none_askEvents (a : RuntimeStatus.Reply) :
    (askEvents a).filterMap Event.asked? = [] := by
  unfold askEvents
  split <;> rfl

theorem asks_none_releaseEvents (s : DevService) (w : World) :
    (s.releaseEvents w).filterMap Event.asked? = [] := by
  unfold releaseEvents stop
  cases s.container <;> rfl

theorem asks_none_of_bringUp {n : Nat} {t : Seconds} {b : Behaviour} {o : Except Failure String}
    {es : List Event} (h : bringUp n t b = (o, es)) : es.filterMap Event.asked? = [] := by
  cases o with
  | ok url =>
    obtain ⟨-, -, rfl⟩ := bringUp_ok h
    rfl
  | error f =>
    obtain ⟨-, rfl | ⟨url, rfl⟩⟩ := bringUp_error h <;> rfl

theorem asks_none_of_notUp {n : Nat} {t : Seconds} {b : Behaviour} {f : Failure} {es : List Event}
    (h : bringUp n t b = (.error f, es)) :
    (es ++ [Event.stopped n]).filterMap Event.asked? = [] := by
  rw [List.filterMap_append, asks_none_of_bringUp h]
  rfl

theorem asks_none_of_up {n : Nat} {t : Seconds} {b : Behaviour} {url : String} {es : List Event}
    (h : bringUp n t b = (.ok url, es)) (hook : Bool) :
    (es ++ if hook then [] else [Event.exitHookRegistered]).filterMap Event.asked? = [] := by
  rw [List.filterMap_append, asks_none_of_bringUp h]
  cases hook <;> rfl

/-- After asking the runtime, one container is asked for. -/
theorem asks_one {es : List Event} (h : es.filterMap Event.asked? = []) (a : RuntimeStatus.Reply)
    (n : Nat) (c : ContainerSpec) :
    (askEvents a ++ .creating n c :: es).filterMap Event.asked? = [n] := by
  rw [List.filterMap_append, asks_none_askEvents]
  exact congrArg (n :: ·) h

/-- **A start asks for one container at most**, after asking the runtime, and for the next number.
-/
theorem start_asks (s : DevService) (r : Request) (w : World) :
    (s.start r w).1.events.filterMap Event.asked? = []
      ∨ ∃ rest, (s.start r w).1.events
            = askEvents (s.asking w) ++ .creating (s.created + 1) (spec r) :: rest
          ∧ rest.filterMap Event.asked? = [] := by
  have h := start_ends s r w
  generalize s.start r w = out at h ⊢
  cases h with
  | skipped skip => exact .inl rfl
  | notAnswered need answer => exact .inl (asks_none_askEvents _)
  | noRuntime need answer => exact .inl (asks_none_askEvents _)
  | notCreated need answer create => exact .inr ⟨[], rfl, rfl⟩
  | notUp need answer create up => exact .inr ⟨_, rfl, asks_none_of_notUp up⟩
  | up need answer create up => exact .inr ⟨_, rfl, asks_none_of_up up _⟩

/-! ## What is created during a call -/

theorem not_creating_of_asks_none {es : List Event} (h : es.filterMap Event.asked? = []) (n : Nat)
    (made : ContainerSpec) : .creating n made ∉ es := by
  intro hmem
  have hasks : n ∈ es.filterMap Event.asked? := List.mem_filterMap.mpr ⟨_, hmem, rfl⟩
  rw [h] at hasks
  exact List.not_mem_nil hasks

/-- **A call creates a container in its start**, so no registry matched. -/
theorem start_creating_of_ensure {s : DevService} {r : Request} {w : World} {n : Nat}
    {made : ContainerSpec} (h : .creating n made ∈ (s.ensure r w).1.events) :
    s.reuses r = false ∧ .creating n made ∈ ((s.released w).start r w).1.events := by
  cases hr : s.reuses r with
  | true =>
    obtain ⟨_, -, he⟩ := ensure_reuse hr w
    rw [he] at h
    exact absurd h List.not_mem_nil
  | false =>
    rw [(ensure_anew hr).2.1] at h
    obtain h | h := List.mem_append.mp h
    · exact absurd h (not_creating_of_asks_none (asks_none_releaseEvents s w) n made)
    · exact ⟨rfl, h⟩

end DevService

end ChannelSerde
