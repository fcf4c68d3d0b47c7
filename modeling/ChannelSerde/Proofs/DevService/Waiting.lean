import Mathlib.Data.Nat.Find
import Mathlib.Order.Basic
import ChannelSerde.DevService.Readiness

/-!
# The attempt that settles a wait

The loop that waits for the registry has three ways out: the registry is ready, an attempt fails
when the deadline has passed, or something breaks that is not a matter of the connection. Each of
them is a fact about one attempt and the clock after it (`Attempt.Settles`), so a wait has no memory
but for the number of the attempts that it has made. It goes past every attempt that settles nothing
(`poll_append`), and the first one that does ends it, with its own answer
(`Waiting.ends_at_first_settling`).

The outside is a script without an end, of which a run is shown the beginning. Nothing is assumed of
the clock: it may stand still, in which case a wait need not end, or go back, in which case a
deadline that had passed may lie ahead again. Only a reading that is taken counts.
-/

namespace ChannelSerde

open Log

variable {τ : Type}

/-- **How an answer fails, by status or by the connection**, and the text that says so. -/
inductive Answer.Fails : Answer → String → Prop
  | status {code : Int} (h : code ≠ 200) : Fails (.status code) ("HTTP " ++ toString code)
  | message {kind message : String} (h : message ≠ "") : Fails (.unreachable kind message) message
  | kind {kind : String} : Fails (.unreachable kind "") kind

/-- An answer fails by the text that is kept as the last error. -/
theorem Answer.error?_eq_some_iff {a : Answer} {e : String} : a.error? = some e ↔ a.Fails e := by
  constructor
  · intro h
    cases a with
    | status code =>
      by_cases hcode : code = 200
      · rw [Answer.error?, if_pos hcode] at h
        cases h
      · rw [Answer.error?, if_neg hcode] at h
        cases h
        exact .status hcode
    | unreachable kind message =>
      by_cases hmessage : message = ""
      · rw [Answer.error?, if_pos hmessage] at h
        cases h
        exact hmessage ▸ .kind
      · rw [Answer.error?, if_neg hmessage] at h
        cases h
        exact .message hmessage
    | broken f => cases h
  · intro h
    cases h with
    | status hcode => exact if_neg hcode
    | message hmessage => exact congrArg some (if_neg hmessage)
    | kind => exact congrArg some (if_pos rfl)

theorem Answer.eq_ready {a : Answer} (hbroken : ∀ f, a ≠ .broken f) (herror : a.error? = none) :
    a = .status 200 := by
  cases a with
  | status code =>
    by_contra hcode
    have hne : code ≠ 200 := fun h => hcode (h ▸ rfl)
    rw [Answer.error?, if_neg hne] at herror
    cases herror
  | unreachable kind message => cases herror
  | broken f => exact absurd rfl (hbroken f)

namespace Attempt

/-- **An attempt settles a wait up to a deadline**, and how. -/
inductive Settles [LE τ] (deadline : τ) : Attempt τ → WaitEnd → Prop
  /-- The registry is ready; it does not matter when. -/
  | ready {t : τ} : Settles deadline ⟨.status 200, t⟩ .ready
  | late {answer : Answer} {t : τ} {e : String} (hfails : answer.Fails e) (hlate : deadline ≤ t) :
    Settles deadline ⟨answer, t⟩ (.late e)
  | broken {f : Failure} {t : τ} : Settles deadline ⟨.broken f, t⟩ (.broken f)

/-- The wait goes on after an attempt. -/
def Leaves [LE τ] (deadline : τ) (a : Attempt τ) : Prop :=
  ∀ stop, ¬ a.Settles deadline stop

/-- **Whatever an attempt comes back with, it settles the wait if the deadline has passed.** -/
theorem exists_settles [LE τ] {deadline : τ} {a : Attempt τ} (h : deadline ≤ a.time) :
    ∃ stop, a.Settles deadline stop := by
  obtain ⟨answer, t⟩ := a
  by_cases hbroken : ∃ f, answer = .broken f
  · obtain ⟨f, rfl⟩ := hbroken
    exact ⟨.broken f, .broken⟩
  · cases herror : answer.error? with
    | none => exact ⟨.ready, Answer.eq_ready (not_exists.mp hbroken) herror ▸ .ready⟩
    | some e => exact ⟨.late e, .late (Answer.error?_eq_some_iff.mp herror) h⟩

end Attempt

namespace WaitCall

/-- The address that is asked, of a request. -/
def asked? : WaitCall → Option String
  | .get url => some url
  | _ => none

/-- The length of a pause. -/
def slept? : WaitCall → Option Seconds
  | .sleep seconds => some seconds
  | _ => none

end WaitCall

namespace Waiting

/-- What is done for a number of attempts that settle nothing. -/
def rounds (w : Waiting) (k : ℕ) : List WaitCall :=
  (List.replicate k [.get w.url, .sleep w.interval]).flatten

theorem rounds_succ (w : Waiting) (k : ℕ) :
    w.rounds (k + 1) = .get w.url :: .sleep w.interval :: w.rounds k := rfl

section Poll

variable [LE τ] [DecidableLE τ] (w : Waiting) {deadline : τ}

/-- **The step that ends a wait.** -/
theorem poll_cons_of_settles {a : Attempt τ} {stop : WaitEnd} (h : a.Settles deadline stop)
    (rest : List (Attempt τ)) : w.poll deadline (a :: rest) = (stop, [.get w.url]) := by
  cases h with
  | ready => rfl
  | broken => rfl
  | @late answer t e hfails hlate =>
    have herror : answer.error? = some e := Answer.error?_eq_some_iff.mpr hfails
    cases hfails <;> simp only [poll, herror, if_pos hlate]

/-- **The step that goes on.** -/
theorem poll_cons_of_leaves {a : Attempt τ} (h : a.Leaves deadline) (rest : List (Attempt τ)) :
    w.poll deadline (a :: rest)
      = ((w.poll deadline rest).1,
        .get w.url :: .sleep w.interval :: (w.poll deadline rest).2) := by
  obtain ⟨answer, t⟩ := a
  have hbroken : ∀ f, answer ≠ .broken f := fun f hf => h (.broken f) (hf ▸ .broken)
  cases herror : answer.error? with
  | none => exact absurd (Answer.eq_ready hbroken herror ▸ .ready) (h .ready)
  | some e =>
    have hearly : ¬ deadline ≤ t := fun hlate =>
      h (.late e) (.late (Answer.error?_eq_some_iff.mp herror) hlate)
    cases answer with
    | broken f => exact absurd rfl (hbroken f)
    | status code => simp only [poll, herror, if_neg hearly]
    | unreachable kind message => simp only [poll, herror, if_neg hearly]

/-- **Attempts that settle nothing are gone past**, one request and one pause for each. -/
theorem poll_append {before : List (Attempt τ)} (h : ∀ a ∈ before, a.Leaves deadline)
    (rest : List (Attempt τ)) :
    w.poll deadline (before ++ rest)
      = ((w.poll deadline rest).1, w.rounds before.length ++ (w.poll deadline rest).2) := by
  induction before with
  | nil => rfl
  | cons a before ih =>
    rw [List.forall_mem_cons] at h
    rw [List.cons_append, w.poll_cons_of_leaves h.1, ih h.2, List.length_cons, rounds_succ]
    rfl

end Poll

/-! ## What is done, counted -/

/-- What is done by a wait that is settled by the attempt after the given number of pauses. -/
def callsAfter (w : Waiting) (pauses : ℕ) : List WaitCall :=
  w.opening ++ w.rounds pauses ++ [.get w.url] ++ if w.ownClient then [.closeClient] else []

theorem asked_callsAfter (w : Waiting) (pauses : ℕ) :
    (w.callsAfter pauses).filterMap WaitCall.asked? = List.replicate (pauses + 1) w.url := by
  have hrounds : (w.rounds pauses).filterMap WaitCall.asked? = List.replicate pauses w.url := by
    rw [rounds, List.filterMap_flatten, List.map_replicate]
    exact List.flatten_replicate_singleton
  rw [callsAfter, opening, List.replicate_succ']
  simp only [List.filterMap_append, hrounds]
  cases w.ownClient
  · exact List.append_nil _
  · exact List.append_nil _

theorem slept_callsAfter (w : Waiting) (pauses : ℕ) :
    (w.callsAfter pauses).filterMap WaitCall.slept? = List.replicate pauses w.interval := by
  have hrounds :
      (w.rounds pauses).filterMap WaitCall.slept? = List.replicate pauses w.interval := by
    rw [rounds, List.filterMap_flatten, List.map_replicate]
    exact List.flatten_replicate_singleton
  rw [callsAfter, opening]
  simp only [List.filterMap_append, hrounds]
  cases w.ownClient
  · exact (List.append_nil _).trans (List.append_nil _)
  · exact (List.append_nil _).trans (List.append_nil _)

theorem count_closeClient_callsAfter (w : Waiting) (pauses : ℕ) :
    (w.callsAfter pauses).count .closeClient = if w.ownClient then 1 else 0 := by
  have hrounds : (w.rounds pauses).count .closeClient = 0 :=
    List.count_eq_zero_of_not_mem (by simp [rounds])
  rw [callsAfter, opening]
  simp only [List.count_append, hrounds]
  cases w.ownClient <;> rfl

end Waiting

/-! ## Scripts -/

/-- **What the outside does while a registry is waited for**: what each attempt comes back with,
counted from one, and what the clock reads, first at the start and then after each attempt. -/
structure WaitScript (τ : Type) where
  answer : ℕ → Answer
  clock : ℕ → τ

namespace WaitScript

/-- The attempt of a number. -/
def attempt (s : WaitScript τ) (i : ℕ) : Attempt τ := ⟨s.answer i, s.clock i⟩

/-- The first attempts of a script. -/
def attempts (s : WaitScript τ) (n : ℕ) : List (Attempt τ) :=
  (List.range' 1 n).map s.attempt

theorem length_attempts (s : WaitScript τ) (n : ℕ) : (s.attempts n).length = n := by
  rw [attempts, List.length_map, List.length_range']

theorem forall_mem_attempts {s : WaitScript τ} {n : ℕ} {p : Attempt τ → Prop}
    (h : ∀ j, 1 ≤ j → j ≤ n → p (s.attempt j)) : ∀ a ∈ s.attempts n, p a := by
  intro a ha
  obtain ⟨j, hj, rfl⟩ := List.mem_map.mp ha
  rw [List.mem_range'_1] at hj
  exact h j hj.1 (by omega)

/-- Any of the first attempts stands after those of smaller numbers. -/
theorem attempts_eq_append (s : WaitScript τ) {i n : ℕ} (hpos : 1 ≤ i) (hle : i ≤ n) :
    ∃ later, s.attempts n = s.attempts (i - 1) ++ s.attempt i :: later := by
  refine ⟨(List.range' (i + 1) (n - i)).map s.attempt, ?_⟩
  have hn : n = (i - 1) + ((n - i) + 1) := by omega
  have hi : 1 + (i - 1) = i := by omega
  rw [attempts, hn, ← List.range'_append_1, List.map_append, hi, List.range'_succ, List.map_cons]
  congr 4
  omega

end WaitScript

namespace Waiting

variable [LE τ]

/-- **The attempt `i` ends a wait**, which comes to `r`: how it ends, what is done, what is
logged. -/
structure EndsAt (w : Waiting) (deadline : τ) (s : WaitScript τ) (i : ℕ)
    (r : WaitEnd × List WaitCall × List Record) : Prop where
  positive : 1 ≤ i
  first : ∀ j, 1 ≤ j → j < i → (s.attempt j).Leaves deadline
  settles : (s.attempt i).Settles deadline r.1
  /-- It returns, gives up with what the attempt itself failed by, or lets a failure through. -/
  outcome :
    (s.answer i = .status 200 ∧ w.failure? r.1 = none ∧ r.2.2 = [w.readyRecord]) ∨
    (∃ e, (s.answer i).Fails e ∧ deadline ≤ s.clock i ∧
      w.failure? r.1 = some (.start (w.lateError e)) ∧ r.2.2 = []) ∨
    (∃ f, s.answer i = .broken f ∧ w.failure? r.1 = some f ∧ r.2.2 = [])
  /-- Nothing is done but this, in this order. -/
  calls : r.2.1 = w.callsAfter (i - 1)
  requests : r.2.1.filterMap WaitCall.asked? = List.replicate i (w.baseUrl ++ readinessPath)
  pauses : r.2.1.filterMap WaitCall.slept? = List.replicate (i - 1) w.interval
  closings : r.2.1.count .closeClient = if w.ownClient then 1 else 0

/-- **A wait is still going on after `n` attempts.** -/
structure GoesOn (w : Waiting) (deadline : τ) (s : WaitScript τ) (n : ℕ)
    (r : WaitEnd × List WaitCall × List Record) : Prop where
  leaves : ∀ j, 1 ≤ j → j ≤ n → (s.attempt j).Leaves deadline
  result : r = (.undecided, w.opening ++ w.rounds n, [])

/-- What a way out says about the attempt that led to it. -/
theorem outcome_of_settles (w : Waiting) {deadline t : τ} {answer : Answer} {stop : WaitEnd}
    (h : Attempt.Settles deadline ⟨answer, t⟩ stop) :
    (answer = .status 200 ∧ w.failure? stop = none ∧ w.records stop = [w.readyRecord]) ∨
    (∃ e, answer.Fails e ∧ deadline ≤ t ∧
      w.failure? stop = some (.start (w.lateError e)) ∧ w.records stop = []) ∨
    (∃ f, answer = .broken f ∧ w.failure? stop = some f ∧ w.records stop = []) := by
  cases h with
  | ready => exact .inl ⟨rfl, rfl, rfl⟩
  | @late _ _ e hfails hlate => exact .inr (.inl ⟨e, hfails, hlate, rfl, rfl⟩)
  | @broken f _ => exact .inr (.inr ⟨f, rfl, rfl, rfl⟩)

/-- Every way out closes a client of one's own. -/
theorem closing_of_settles (w : Waiting) {deadline : τ} {a : Attempt τ} {stop : WaitEnd}
    (h : a.Settles deadline stop) :
    w.closing stop = if w.ownClient then [.closeClient] else [] := by
  cases h <;> rfl

variable [DecidableLE τ]

/-- The first attempt that settles a wait ends it. -/
theorem endsAt_run (w : Waiting) {deadline : τ} {s : WaitScript τ} {i n : ℕ} {stop : WaitEnd}
    (hpos : 1 ≤ i) (hle : i ≤ n) (hfirst : ∀ j, 1 ≤ j → j < i → (s.attempt j).Leaves deadline)
    (hsettles : (s.attempt i).Settles deadline stop) :
    w.EndsAt deadline s i (w.run deadline (s.attempts n)) := by
  obtain ⟨later, hsplit⟩ := s.attempts_eq_append hpos hle
  have hbefore : ∀ a ∈ s.attempts (i - 1), a.Leaves deadline :=
    WaitScript.forall_mem_attempts fun j hj hlt => hfirst j hj (by omega)
  have hrun : w.run deadline (s.attempts n) = (stop, w.callsAfter (i - 1), w.records stop) := by
    rw [run, hsplit, w.poll_append hbefore, w.poll_cons_of_settles hsettles, s.length_attempts]
    simp only [callsAfter, w.closing_of_settles hsettles, List.append_assoc]
  rw [hrun]
  refine ⟨hpos, hfirst, hsettles, w.outcome_of_settles hsettles, rfl, ?requests, ?pauses, ?closings⟩
  case requests =>
    have hi : i - 1 + 1 = i := by omega
    exact hi ▸ w.asked_callsAfter (i - 1)
  case pauses => exact w.slept_callsAfter (i - 1)
  case closings => exact w.count_closeClient_callsAfter (i - 1)

/-- Where none settles it, a wait goes on. -/
theorem goesOn_run (w : Waiting) {deadline : τ} {s : WaitScript τ} {n : ℕ}
    (h : ∀ j, 1 ≤ j → j ≤ n → (s.attempt j).Leaves deadline) :
    w.GoesOn deadline s n (w.run deadline (s.attempts n)) := by
  have hpoll := w.poll_append (WaitScript.forall_mem_attempts h) []
  rw [List.append_nil, s.length_attempts] at hpoll
  refine ⟨h, ?_⟩
  rw [run, hpoll]
  simp [poll, closing, records]

/-- **A wait is ended by one of its first attempts, or goes on after them.** -/
theorem endsAt_or_goesOn (w : Waiting) (deadline : τ) (s : WaitScript τ) (n : ℕ) :
    (∃ i ≤ n, w.EndsAt deadline s i (w.run deadline (s.attempts n))) ∨
      w.GoesOn deadline s n (w.run deadline (s.attempts n)) := by
  classical
  by_cases hsome : ∃ i, 1 ≤ i ∧ i ≤ n ∧ ∃ stop, (s.attempt i).Settles deadline stop
  · have hfind := Nat.find_spec hsome
    obtain ⟨stop, hsettles⟩ := hfind.2.2
    refine .inl ⟨Nat.find hsome, hfind.2.1, w.endsAt_run hfind.1 hfind.2.1 ?_ hsettles⟩
    intro j hj hlt stop' hstop'
    exact Nat.find_min hsome hlt ⟨hj, by omega, stop', hstop'⟩
  · refine .inr (w.goesOn_run fun j hj hle stop hstop => hsome ⟨j, hj, hle, stop, hstop⟩)

/-- **A wait has ended once the clock has read the deadline after an attempt.** -/
theorem endsAt_of_deadline_le (w : Waiting) {deadline : τ} {s : WaitScript τ} {n : ℕ} (hn : 1 ≤ n)
    (h : deadline ≤ s.clock n) :
    ∃ i ≤ n, w.EndsAt deadline s i (w.run deadline (s.attempts n)) := by
  refine (w.endsAt_or_goesOn deadline s n).resolve_right fun hgoes => ?_
  obtain ⟨stop, hsettles⟩ := Attempt.exists_settles (a := s.attempt n) h
  exact hgoes.leaves n hn le_rfl stop hsettles

/-- **A wait ends at the first attempt that settles it**, up to the deadline that the clock's first
reading and the timeout make. As many requests are made as it takes, all for the one address, with a
pause between every two; there is at least one, whatever the timeout, and none afterwards. A client
is closed if it is one's own, once, on every way out. Where none of the first attempts settles
anything, the wait is still going on after them. -/
theorem ends_at_first_settling [Add τ] (w : Waiting) (count : Seconds → τ) (s : WaitScript τ)
    (n : ℕ) :
    (∃ i ≤ n, w.EndsAt (s.clock 0 + count w.timeout) s i
      (w.runFrom count (s.clock 0) (s.attempts n))) ∨
    w.GoesOn (s.clock 0 + count w.timeout) s n (w.runFrom count (s.clock 0) (s.attempts n)) :=
  w.endsAt_or_goesOn (s.clock 0 + count w.timeout) s n

/-- An answer that comes after the deadline is an answer. -/
example (w : Waiting) (rest : List (Attempt ℕ)) :
    (w.run 10 (⟨.status 503, 5⟩ :: ⟨.status 200, 11⟩ :: rest)).1 = .ready := rfl

end Waiting

end ChannelSerde
