import ChannelSerde.Proofs.DevService.History

/-!
# What is kept of a running registry

Of a running registry a service keeps its container, what it exports and what it was started with.
These three are set at different moments and read at others: one call compares the snapshot, another
hands out what is exported. So they have to agree, with one another and with the call that started
the registry. `History.Coherent` says so, and every history is coherent.

The check that a snapshot is enabled comes after the look at the running registry. That a disabled
snapshot is never answered by a running registry therefore rests on the invariant: a snapshot that
is kept is enabled.
-/

namespace ChannelSerde

namespace DevService

/-- **Nothing is kept.** -/
structure IsIdle (s : DevService) : Prop where
  container : s.container = none
  exported : s.exported = none
  snapshot : s.snapshot = none

/-- **What a service keeps goes back to a turn**: the snapshot was asked for in it, the container was
given in it and answered the address that is exported, and the turn was answered with what is handed
out still. -/
structure Keeps (s : DevService) (t : Turn) (c : Container) (url : String) (kept : Snapshot) :
    Prop where
  container : s.container = some c
  exported : s.exported = some (exports url)
  snapshot : s.snapshot = some kept
  enabled : kept.enabled = true
  asked : ∃ r w, t.call = .ensure r w ∧ r.snapshot = kept
  given : ∃ g ∈ t.given, g.number = c.number ∧ g.behaviour.url = .ok url
  answer : t.reply.answer = .ok (some (s.provision c))

/-- **A history is coherent**: nothing is kept, or what one of its turns started. -/
def History.Coherent (h : History) : Prop :=
  IsIdle h.service ∨ ∃ t ∈ h.turns, ∃ c url kept, Keeps h.service t c url kept

variable {s : DevService} {r : Request} {w : World}

/-! ## Small steps -/

theorem IsIdle.stop (h : IsIdle s ∨ s.running = true) (f : Option Failure) :
    IsIdle (s.stop f).2 := by
  unfold DevService.stop
  cases hc : s.container with
  | some c => exact ⟨rfl, rfl, rfl⟩
  | none =>
    obtain hidle | hrun := h
    · exact hidle
    · rw [running, hc] at hrun
      exact absurd hrun Bool.false_ne_true

theorem IsIdle.running_eq (h : IsIdle s) : s.running = false := by
  rw [running, h.container]
  rfl

theorem Keeps.running_eq {t : Turn} {c : Container} {url : String} {kept : Snapshot}
    (h : Keeps s t c url kept) : s.running = true := by
  rw [running, h.container]
  rfl

theorem Keeps.provision_eq {t : Turn} {c : Container} {url : String} {kept : Snapshot}
    (h : Keeps s t c url kept) : s.provision c = ⟨serviceName, c.id, exports url⟩ := by
  rw [provision, h.exported]
  rfl

theorem start_of_disabled (h : r.snapshot.enabled = false) (s : DevService) (w : World) :
    (s.start r w).1.answer = .ok none := by
  have hend := start_ends s r w
  generalize s.start r w = out at hend ⊢
  cases hend with
  | skipped skip => rfl
  | notAnswered need _ | noRuntime need _ | notCreated need _ _ | notUp need _ _ _
  | up need _ _ _ =>
    exact absurd (((skipRecord?_eq_none_iff r).mp need).1.symm.trans h) Bool.noConfusion

/-- **A start leaves nothing, or a registry that it answers with.** The events before the start ask
for no container. -/
theorem start_kept (hidle : IsIdle s) (before : List Event)
    (hbefore : before.filterMap Event.asked? = []) {t : Turn} (hcall : t.call = .ensure r w)
    (hevents : t.reply.events = before ++ (s.start r w).1.events)
    (hanswer : t.reply.answer = (s.start r w).1.answer) :
    (IsIdle (s.start r w).2 ∧ ∀ p, (s.start r w).1.answer ≠ .ok (some p))
      ∨ ∃ c url, Keeps (s.start r w).2 t c url r.snapshot := by
  have hend := start_ends s r w
  generalize s.start r w = out at hend hevents hanswer ⊢
  cases hend with
  | skipped skip => exact .inl ⟨hidle, fun p => by simp⟩
  | notAnswered need answer =>
    exact .inl ⟨⟨hidle.container, hidle.exported, hidle.snapshot⟩, fun p => by simp⟩
  | noRuntime need answer =>
    exact .inl ⟨⟨hidle.container, hidle.exported, hidle.snapshot⟩, fun p => by simp⟩
  | notCreated need answer create =>
    exact .inl ⟨⟨hidle.container, hidle.exported, hidle.snapshot⟩, fun p => by simp⟩
  | notUp need answer create up =>
    exact .inl ⟨⟨hidle.container, hidle.exported, hidle.snapshot⟩, fun p => by simp⟩
  | @up b url es need answer create up =>
    refine .inr ⟨⟨s.created + 1, b.id⟩, url, rfl, rfl, rfl, ((skipRecord?_eq_none_iff r).mp need).1,
      ⟨r, w, hcall, rfl⟩, ⟨⟨s.created + 1, b⟩, ?_, rfl, (bringUp_ok up).2.1⟩, hanswer⟩
    rw [Turn.given, hcall, hevents, Call.given_append_of_asks_none hbefore,
      Call.given_of_create_ok create, asks_one (asks_none_of_up up _)]
    exact List.mem_singleton_self _

/-! ## A call -/

theorem History.Coherent.isIdle_stop {h : History} (hh : h.Coherent) (f : Option Failure) :
    IsIdle (h.service.stop f).2 :=
  IsIdle.stop (hh.imp_right fun ⟨_, _, _, _, _, hk⟩ => hk.running_eq) f

/-- **A snapshot that is kept is found again**: the call is answered as the one that started the
container was, and nothing is done. -/
theorem History.Coherent.ensure_reuse {h : History} (hh : h.Coherent) {r : Request}
    (hr : h.service.reuses r = true) (w : World) :
    ∃ t ∈ h.turns, ∃ c url kept, Keeps h.service t c url kept ∧ r.snapshot.same kept = true
      ∧ h.service.ensure r w = (⟨t.reply.answer, [], []⟩, h.service) := by
  obtain ⟨c, hc, he⟩ := DevService.ensure_reuse hr w
  obtain hidle | ⟨t, ht, c', url, kept, hk⟩ := hh
  · exact absurd (hidle.container.symm.trans hc) (Option.some_ne_none c).symm
  · obtain rfl : c' = c := Option.some.inj (hk.container.symm.trans hc)
    refine ⟨t, ht, c', url, kept, hk, ?_, ?_⟩
    · have hmatch := (Bool.and_eq_true_iff.mp hr).2
      rwa [matchesRunning, hk.snapshot] at hmatch
    · rw [he, hk.answer]

/-- **Where no snapshot that is kept matches**, the call leaves nothing, or a registry that it
started. -/
theorem History.Coherent.ensure_anew {h : History} (hh : h.Coherent) {r : Request}
    (hr : h.service.reuses r = false) (w : World) :
    (IsIdle (h.service.ensure r w).2 ∧ ∀ p, (h.service.ensure r w).1.answer ≠ .ok (some p))
      ∨ ∃ c url, Keeps (h.service.ensure r w).2 (h.service.turn (.ensure r w)) c url r.snapshot := by
  obtain ⟨hanswer, hevents, hafter⟩ := DevService.ensure_anew (w := w) hr
  rw [hafter, hanswer]
  exact start_kept (hh.isIdle_stop _) (h.service.releaseEvents w) (asks_none_releaseEvents _ w) rfl
    hevents hanswer

/-- **A call keeps a history coherent.** -/
theorem History.Coherent.next {h : History} (hh : h.Coherent) (c : Call) : (h.next c).Coherent := by
  cases c with
  | stop f => exact .inl (hh.isIdle_stop f)
  | ensure r w =>
    cases hr : h.service.reuses r with
    | true =>
      obtain ⟨t, ht, c, url, kept, hk, -, he⟩ := hh.ensure_reuse hr w
      refine .inr ⟨t, List.mem_append_left _ ht, c, url, kept, ?_⟩
      show Keeps (h.service.ensure r w).2 t c url kept
      rw [he]
      exact hk
    | false =>
      obtain ⟨hidle, -⟩ | ⟨c, url, hk⟩ := hh.ensure_anew hr w
      · exact .inl hidle
      · exact .inr ⟨_, List.mem_append_right _ (List.mem_singleton_self _), c, url, _, hk⟩

/-- **Every history is coherent.** -/
theorem coherent (runtime : RuntimeStatus) (calls : List Call) :
    (History.ofCalls runtime calls).Coherent :=
  History.ofCalls_induction (.inl ⟨rfl, rfl, rfl⟩) (fun _ c hh => hh.next c) calls

/-! ## What a call answers -/

theorem History.Coherent.whole {h : History} (hh : h.Coherent) :
    h.service.exported.isSome = h.service.container.isSome
      ∧ h.service.snapshot.isSome = h.service.container.isSome := by
  obtain hidle | ⟨t, -, c, url, kept, hk⟩ := hh
  · rw [hidle.container, hidle.exported, hidle.snapshot]
    exact ⟨rfl, rfl⟩
  · rw [hk.container, hk.exported, hk.snapshot]
    exact ⟨rfl, rfl⟩

/-- **A registry that is answered is kept**, and was started with what is asked for. -/
theorem History.Coherent.kept_of_answer {h : History} (hh : h.Coherent) {r : Request} {w : World}
    {p : Provision} (hp : (h.service.ensure r w).1.answer = .ok (some p)) :
    ∃ t ∈ (h.next (.ensure r w)).turns, ∃ c url kept,
      Keeps (h.service.ensure r w).2 t c url kept ∧ r.snapshot.same kept = true
        ∧ p = ⟨serviceName, c.id, exports url⟩ := by
  cases hr : h.service.reuses r with
  | true =>
    obtain ⟨t, ht, c, url, kept, hk, hsame, he⟩ := hh.ensure_reuse hr w
    rw [he] at hp ⊢
    refine ⟨t, List.mem_append_left _ ht, c, url, kept, hk, hsame, ?_⟩
    rw [← hk.provision_eq]
    exact (Option.some.inj (Except.ok.inj (hk.answer.symm.trans hp))).symm
  | false =>
    obtain ⟨-, hnone⟩ | ⟨c, url, hk⟩ := hh.ensure_anew hr w
    · exact absurd hp (hnone p)
    · refine ⟨_, List.mem_append_right _ (List.mem_singleton_self _), c, url, _, hk,
        Snapshot.same_self _, ?_⟩
      rw [← hk.provision_eq]
      exact (Option.some.inj (Except.ok.inj (hk.answer.symm.trans hp))).symm

/-- **Where no registry is answered, none is kept.** -/
theorem History.Coherent.isIdle_of_answer {h : History} (hh : h.Coherent) {r : Request} {w : World}
    (hnone : ∀ p, (h.service.ensure r w).1.answer ≠ .ok (some p)) :
    IsIdle (h.service.ensure r w).2 := by
  cases hr : h.service.reuses r with
  | true =>
    obtain ⟨t, -, c, url, kept, hk, -, he⟩ := hh.ensure_reuse hr w
    refine absurd ?_ (hnone (h.service.provision c))
    rw [he]
    exact hk.answer
  | false =>
    obtain ⟨hidle, -⟩ | ⟨c, url, hk⟩ := hh.ensure_anew hr w
    · exact hidle
    · exact absurd hk.answer (hnone _)

/-- **A disabled snapshot is answered by no registry**, since none is running that was started with
it. -/
theorem History.Coherent.answer_of_disabled {h : History} (hh : h.Coherent) {r : Request}
    (hd : r.snapshot.enabled = false) (w : World) : (h.service.ensure r w).1.answer = .ok none := by
  cases hr : h.service.reuses r with
  | true =>
    obtain ⟨t, -, c, url, kept, hk, hsame, -⟩ := hh.ensure_reuse hr w
    have henabled := (Snapshot.enabled_eq_of_same hsame).trans hk.enabled
    exact absurd (henabled.symm.trans hd) Bool.noConfusion
  | false => exact (DevService.ensure_anew hr).1.trans (start_of_disabled hd _ w)

/-- **What is answered, what is kept and what was asked for agree.** After any calls, whatever the
outside did during them, a further call for a registry ends as follows.

The three things kept are all there or all not. If a registry is answered, one is running, its
snapshot is the one asked for and enabled, and its properties are the registry's address alone: the
path after the address that the running container answered when it was started. If none is answered,
or the call fails, none is running. A disabled snapshot is always answered by none. A snapshot that
is running is answered as the call was that started its container, and nothing is done. -/
theorem ensure_agrees (runtime : RuntimeStatus) (calls : List Call) (r : Request) (w : World) :
    let h := History.ofCalls runtime calls
    let s := h.service
    let s' := (s.ensure r w).2
    let answer := (s.ensure r w).1.answer
    (s'.exported.isSome = s'.container.isSome ∧ s'.snapshot.isSome = s'.container.isSome)
      ∧ (∀ p, answer = .ok (some p) →
          s'.running = true ∧ r.snapshot.enabled = true
            ∧ (∃ kept, s'.snapshot = some kept ∧ r.snapshot.same kept = true)
            ∧ ∃ c, s'.container = some c ∧ ∃ t ∈ (h.next (.ensure r w)).turns, ∃ g ∈ t.given,
                g.number = c.number ∧ ∃ url, g.behaviour.url = .ok url
                  ∧ p.config.entries = [(registryUrlKey, url ++ registryPath)])
      ∧ ((∀ p, answer ≠ .ok (some p)) → s'.running = false)
      ∧ (r.snapshot.enabled = false → answer = .ok none ∧ s'.running = false)
      ∧ (∀ kept, s.snapshot = some kept → r.snapshot.same kept = true →
          s' = s ∧ (s.ensure r w).1.events = []
            ∧ ∃ t ∈ h.turns, (∃ c, s.container = some c ∧ ∃ g ∈ t.given, g.number = c.number)
                ∧ answer = t.reply.answer ∧ ∃ p, answer = .ok (some p)) := by
  intro h s s' answer
  have hh : h.Coherent := coherent runtime calls
  refine ⟨(hh.next (.ensure r w)).whole, fun p hp => ?_, fun hnone => ?_, fun hd => ?_,
    fun kept hkept hsame => ?_⟩
  · obtain ⟨t, ht, c, url, kept, hk, hsame, rfl⟩ := hh.kept_of_answer hp
    obtain ⟨g, hg, hgn, hgu⟩ := hk.given
    exact ⟨hk.running_eq, (Snapshot.enabled_eq_of_same hsame).trans hk.enabled,
      ⟨kept, hk.snapshot, hsame⟩, c, hk.container, t, ht, g, hg, hgn, url, hgu, rfl⟩
  · exact (hh.isIdle_of_answer hnone).running_eq
  · have hanswer : answer = .ok none := hh.answer_of_disabled hd w
    refine ⟨hanswer, (hh.isIdle_of_answer fun p hp => ?_).running_eq⟩
    exact absurd (hanswer.symm.trans hp) (by simp)
  · have hr : s.reuses r = true := by
      have hrun : s.running = true := by rw [running, ← hh.whole.2, hkept]; rfl
      rw [reuses, hrun, matchesRunning, hkept]
      exact hsame
    obtain ⟨t, ht, c, url, kept', hk, -, he⟩ := hh.ensure_reuse hr w
    obtain ⟨g, hg, hgn, -⟩ := hk.given
    have hanswer : answer = t.reply.answer := congrArg (·.1.answer) he
    exact ⟨congrArg Prod.snd he, congrArg (·.1.events) he, t, ht, ⟨c, hk.container, g, hg, hgn⟩,
      hanswer, _, hanswer.trans hk.answer⟩

end DevService

end ChannelSerde
