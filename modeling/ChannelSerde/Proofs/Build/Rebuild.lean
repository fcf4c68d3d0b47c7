import ChannelSerde.Proofs.Build.ControlKeys
import ChannelSerde.Proofs.Build.Reachable
import ChannelSerde.Proofs.Build.Session
import ChannelSerde.Proofs.DevService.Held

/-!
# Building again

A developer builds many times in a row, and the registry that the first build started is to stay up
while the sources change. It does as long as the user's configuration does not: a build asks for a
snapshot that is read off the user's sources alone, so the next build asks for what is running, gets
it, and the service does nothing. What else may change between two builds changes nothing here: the
declarations and what classifies them, since channels have no say in the snapshot; the mode, since a
build for production does not ask at all; and the order in which variables are listed, since
snapshots are compared without it.

`Serves` says what is left behind for a configuration. A build that comes with a registry
establishes it (`serves_of_answer`), the calls in between keep it as long as the container is held
(`Serves.of_follows`), and a build that finds it does nothing (`Serves.run`).
-/

namespace ChannelSerde

open Config DevService

namespace Build

section Serving

variable [Settings.TextRules]

/-- **A service serves a registry to a configuration**: it holds the registry, and was asked for it
with what the configuration asks for. -/
structure Serves (s : DevService) (user : Config) (p : Provision) : Prop where
  held : ∃ c, s.container = some c ∧ s.provision c = p
  on : Settings.globallyEnabled user = true
  asked : ∃ settings kept, Settings.DevServices.ofConfig user Settings.sectionStart = .ok settings
    ∧ s.snapshot = some kept ∧ (Snapshot.ofSettings settings).same kept = true


variable {s s' : DevService} {user : Config} {p : Provision}

theorem Serves.of_alike (h : Serves s user p) {user' : Config} (alike : Alike user user') :
    Serves s user' p := by
  obtain ⟨settings, kept, hsettings, hkept, hsame⟩ := h.asked
  obtain ⟨env, hsettings', henv⟩ := Settings.DevServices.ofConfig_alike alike hsettings
  refine ⟨h.held, ?_, _, kept, hsettings', hkept, ?_⟩
  · rw [← h.on, Settings.globallyEnabled, Settings.globallyEnabled, switch?, switch?, alike.get?]
  · exact Snapshot.same_trans (Snapshot.same_symm (Snapshot.same_ofSettings henv)) hsame

/-- **What is served is served still** while the container is held. -/
theorem Serves.of_follows (h : Serves s user p) (hfollows : s.Follows s')
    (hnumber : ∀ c, s.container = some c → c.number ≤ s.created)
    (held : s'.container = s.container) : Serves s' user p := by
  obtain ⟨c, hc, rfl⟩ := h.held
  obtain ⟨hexported, hsnapshot⟩ := hfollows.kept_of_held hc (hnumber c hc) held
  refine ⟨⟨c, held.trans hc, ?_⟩, h.on, ?_⟩
  · rw [provision, hexported]
    rfl
  · rw [hsnapshot]
    exact h.asked

/-- **Where a registry is served, it is what a build asks for**, whatever channels are detected,
unless the build is for production and asks for nothing. -/
theorem Serves.wanted {sources : List Source} (h : Serves s (ofSources sources) p) (o : SerdeLayer)
    (c : Channels) (mode : LaunchMode) :
    (mode = .production ∧ Build.wanted (assemble sources (applied o c) c) mode = .ok none)
      ∨ ∃ r, Build.wanted (assemble sources (applied o c) c) mode = .ok (some r)
          ∧ ∀ w, s.ensure r w = (⟨.ok (some p), [], []⟩, s) := by
  obtain ⟨held, hc, rfl⟩ := h.held
  obtain ⟨settings, kept, hsettings, hkept, hsame⟩ := h.asked
  rw [← ofConfig_assemble sources o c] at hsettings
  have hon := (globallyEnabled_assemble sources o c).trans h.on
  generalize assemble sources (applied o c) c = cfg at hsettings hon ⊢
  unfold Build.wanted
  by_cases hmode : mode = .production
  · exact .inl ⟨hmode, if_pos hmode⟩
  · rw [if_neg hmode, hon, if_neg (by simp), hsettings]
    have hreuse : s.reuses (request cfg mode settings) = true := by
      rw [reuses, running, hc, matchesRunning, hkept]
      exact hsame
    refine .inr ⟨_, rfl, fun w => ?_⟩
    obtain ⟨held', hc', hensure⟩ := ensure_reuse hreuse w
    obtain rfl : held' = held := Option.some.inj (hc'.symm.trans hc)
    exact hensure

/-- **A build that finds its registry served does nothing** to the service, and comes with that
registry if it comes to an outcome and is not for production. -/
theorem Serves.run {st : BuildState} {input : BuildInput}
    (h : Serves st.service (ofSources input.sources) p) (w : World) :
    let run := st.run input w
    run.1.events = [] ∧ run.2.service = st.service
      ∧ (input.mode ≠ .production → ∀ out, run.1.answer = .ok out → out.provision = some p) := by
  intro run
  have hensure : ∀ r, asked? st.shared input = some r →
      st.service.ensure r w = (⟨.ok (some p), [], []⟩, st.service) := by
    intro r hr
    obtain ⟨o, -, -, want⟩ := asked?_eq_some hr
    obtain ⟨-, hnone⟩ | ⟨r', want', hr'⟩ := h.wanted o (channels input) input.mode
    · exact absurd (want.symm.trans hnone) (by simp)
    · obtain rfl : r' = r := Option.some.inj (Except.ok.inj (want'.symm.trans want))
      exact hr' w
  obtain ⟨hservice, hevents⟩ := run_service st input w
  refine ⟨?_, ?_, fun hmode out hout => ?_⟩
  · rw [hevents]
    cases hr : asked? st.shared input with
    | none => rfl
    | some r => exact congrArg (·.1.events) (hensure r hr)
  · rw [hservice]
    cases hr : asked? st.shared input with
    | none => rfl
    | some r => exact congrArg Prod.snd (hensure r hr)
  · -- a build that gets through has asked, since it is not for production
    obtain ⟨o, start, clear⟩ := clear_of_answer hout
    obtain ⟨hproduction, -⟩ | ⟨r, want, -⟩ := h.wanted o (channels input) input.mode
    · exact absurd hproduction hmode
    · have hr : asked? st.shared input = some r := asked?_of_want start clear want
      obtain ⟨_, p', rfl, -, ⟨hnone, -⟩ | ⟨r', hr', answer⟩⟩ := outcome_of_answer hout
      · exact absurd (hr.symm.trans hnone) (by simp)
      · obtain rfl : r' = r := Option.some.inj (hr'.symm.trans hr)
        exact (Except.ok.inj ((congrArg (·.1.answer) (hensure r' hr')).symm.trans answer)).symm

/-! ## What a build leaves behind -/

/-- **A build that comes with a registry leaves it served** to its configuration. -/
theorem serves_of_answer {h : History} (hh : h.Coherent) {st : BuildState}
    (hst : st.service = h.service) {input : BuildInput} {w : World} {out : BuildOutcome}
    (hrun : (st.run input w).1.answer = .ok out) (hp : out.provision = some p) :
    Serves (st.run input w).2.service (ofSources input.sources) p := by
  obtain ⟨o, p', rfl, -, ⟨-, hnone⟩ | ⟨r, hr, answer⟩⟩ := outcome_of_answer hrun
  · obtain rfl : p' = some p := hp
    exact absurd hnone (by simp)
  · obtain rfl : p' = some p := hp
    obtain ⟨o', start, clear, want⟩ := asked?_eq_some hr
    rw [hst] at answer
    obtain ⟨t, -, c, url, kept, hk, hsame, rfl⟩ := hh.kept_of_answer answer
    rw [(run_service _ _ _).1, hr, hst]
    -- what was asked for was read off the user's sources
    obtain hnone | ⟨e, -, herror⟩ | ⟨settings, hsettings, -, hon, want'⟩ :=
      wanted_cases (configuration o' input) input.mode
    · exact absurd (want.symm.trans hnone) (by simp)
    · exact absurd (want.symm.trans herror) (by simp)
    · obtain rfl : r = _ := Option.some.inj (Except.ok.inj (want.symm.trans want'))
      refine ⟨⟨c, hk.container, hk.provision_eq⟩, ?_, settings, kept, ?_, hk.snapshot, hsame⟩
      · exact (globallyEnabled_assemble input.sources o' (channels input)).symm.trans hon
      · exact (ofConfig_assemble input.sources o' (channels input)).symm.trans hsettings

/-! ## Sessions -/

namespace Session

theorem ofActs_append (runtime : RuntimeStatus) (acts later : List Act) :
    ofActs runtime (acts ++ later) = later.foldl next (ofActs runtime acts) := List.foldl_append

theorem next_follows (s : Session) (a : Act) : s.service.Follows (s.next a).service := by
  cases a with
  | call c => exact s.service.turn_follows c
  | build shared input w =>
    rw [service_next_build]
    cases asked? shared input with
    | none => exact Follows.refl _
    | some r => exact s.service.turn_follows (.ensure r w)

/-- **A service follows the one of before any acts.** -/
theorem foldl_follows (s : Session) (acts : List Act) :
    s.service.Follows (acts.foldl next s).service :=
  List.foldlRecOn (motive := fun t => s.service.Follows t.service) acts next (Follows.refl _)
    fun t h a _ => h.trans (t.next_follows a)

end Session

/-- **Building again leaves the registry alone.** In any session, a build comes with a registry, and
whatever is done after it, its container is held still. Then a build whose user's sources answer
alike, over any layer, of any index, with any classifier and in any mode, causes no event and leaves
the service as it is; if it comes to an outcome and is not for production, it comes with the very
registry of the first. -/
theorem building_again (runtime : RuntimeStatus) (before between : List Act)
    (shared shared' : Option SerdeLayer) (first second : BuildInput) (w w' : World)
    {out : BuildOutcome} {p : Provision}
    (alike : Alike (ofSources first.sources) (ofSources second.sources))
    (hrun : (((Session.ofActs runtime before).state shared).run first w).1.answer = .ok out)
    (hp : out.provision = some p)
    (held : (Session.ofActs runtime (before ++ .build shared first w :: between)).service.container
      = (Session.ofActs runtime (before ++ [.build shared first w])).service.container) :
    let s := Session.ofActs runtime (before ++ .build shared first w :: between)
    let again := (s.state shared').run second w'
    s.service.running = true
      ∧ again.1.events = [] ∧ again.2.service = s.service
      ∧ (second.mode ≠ .production →
          ∀ out', again.1.answer = .ok out' → out'.provision = some p) := by
  intro s again
  -- the session up to the first build, and what is done after it
  obtain ⟨calls, hcalls⟩ := Session.isCalled runtime before
  obtain ⟨calls₁, hcalls₁⟩ := Session.isCalled runtime (before ++ [.build shared first w])
  have hfirst : (Session.ofActs runtime (before ++ [.build shared first w])).service
      = (((Session.ofActs runtime before).state shared).run first w).2.service :=
    congrArg Session.service (Session.ofActs_append runtime before _)
  have hfollows :
      (Session.ofActs runtime (before ++ [.build shared first w])).service.Follows s.service := by
    have hsplit : before ++ .build shared first w :: between
        = (before ++ [.build shared first w]) ++ between := by simp
    show Follows _ (Session.ofActs runtime _).service
    rw [hsplit, Session.ofActs_append runtime _ between]
    exact Session.foldl_follows _ _
  have hserves : Serves s.service (ofSources second.sources) p := by
    refine Serves.of_alike (Serves.of_follows ?_ hfollows (fun c hc => ?_) held) alike
    · rw [hfirst]
      exact serves_of_answer (coherent runtime calls) hcalls hrun hp
    · rw [hcalls₁] at hc ⊢
      exact number_le_created runtime calls₁ hc
  refine ⟨?_, hserves.run w'⟩
  obtain ⟨c, hc, -⟩ := hserves.held
  rw [running, hc]
  rfl

end Serving

section Found

attribute [local instance] Settings.TextRules.library

/-- The registry of a build with a blank address stays up when the consumer is gone in the next
build, and in another mode. -/
theorem building_again_blankInput :
    let next : BuildInput := { blankInput with index := .own .empty, mode := .test }
    let s := Session.ofActs .fresh [.build none blankInput working]
    ((s.state none).run next working).1.events = []
      ∧ ((s.state none).run next working).2.service = s.service := by
  intro next s
  obtain ⟨-, hevents, hservice, -⟩ :=
    building_again .fresh [] [] none none blankInput next working working (Alike.refl _)
      run_blankInput rfl rfl
  exact ⟨hevents, hservice⟩

end Found

end Build

end ChannelSerde
