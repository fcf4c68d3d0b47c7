import ChannelSerde.Build.Basic

/-!
# How a build ends

A build asks the service for at most one registry, and what it asks for is settled by the user's
sources, the detected channels and the mode alone: `asked?` says what that is. `End` has one
constructor for each stage at which a build can end, with what was found on the way there and with
the reply and the state that follow. A stage before the service is asked leaves the service as it
was and causes no event; once it has been asked, the events are the service's own.

What comes after the service is the second check of the addresses. `finish_of_clear` says that
nothing but that check can still stop a build.
-/

namespace ChannelSerde

open Log

namespace Build

/-! ## What a build works with -/

/-- The channels that a build detects. -/
def channels (input : BuildInput) : Channels :=
  (Channels.none.detectBy input.classifier input.index.symbols).1

/-- What detection logs. -/
def detection (input : BuildInput) : List Record :=
  (Channels.none.detectBy input.classifier input.index.symbols).2

/-- The layer of a build over the one that it starts with. -/
def layer (o : SerdeLayer) (input : BuildInput) : SerdeLayer := applied o (channels input)

/-- The configuration of a build before a registry is provided. -/
def configuration (o : SerdeLayer) (input : BuildInput) : Config :=
  assemble input.sources (layer o input) (channels input)

/-- The state of builds with a layer in place of the shared one, if one is shared. -/
def withLayer (st : BuildState) (o : SerdeLayer) : BuildState :=
  { st with shared := st.shared.map fun _ => o }

/-- The state with an id set and what was before it restored. -/
def closed (st : BuildState) (input : BuildInput) : BuildState :=
  (st.started input).restored st.ids.tokens.length

/-- **The id of before is current again.** -/
theorem current_closed (st : BuildState) (input : BuildInput) :
    (closed st input).ids.current = st.ids.current := by
  show (((st.ids.push input.buildId).reset? st.ids.tokens.length).getD _).current = _
  unfold BuildIds.push BuildIds.reset?
  -- an empty id is not set, and its token restores nothing
  by_cases hempty : input.buildId.isEmpty = true
  · simp [hempty]
  · simp [hempty]

/-! ## Asking for a registry -/

section Asking

variable [Settings.TextRules]

/-- **What the service is asked for**, if it is asked. -/
def wanted (c : Config) (mode : LaunchMode) : Except BuildError (Option Request) :=
  if mode = .production then .ok none
  else if !Settings.globallyEnabled c then .ok none
  else
    match Settings.DevServices.ofConfig c Settings.sectionStart with
    | .error e => .error (.settings e)
    | .ok settings => .ok (some (request c mode settings))

/-- What is logged where the service is not asked. -/
def unaskedRecords (c : Config) (mode : LaunchMode) : List Record :=
  if mode = .production then [] else if !Settings.globallyEnabled c then [disabledRecord] else []

variable {s : DevService} {c : Config} {mode : LaunchMode}

/-- **A build wants nothing, cannot read its settings, or wants a registry** that goes by them. -/
theorem wanted_cases (c : Config) (mode : LaunchMode) :
    wanted c mode = .ok none
      ∨ (∃ e, Settings.DevServices.ofConfig c Settings.sectionStart = .error e
          ∧ wanted c mode = .error (.settings e))
      ∨ ∃ settings, Settings.DevServices.ofConfig c Settings.sectionStart = .ok settings
          ∧ mode ≠ .production ∧ Settings.globallyEnabled c = true
          ∧ wanted c mode = .ok (some (request c mode settings)) := by
  unfold wanted
  by_cases hmode : mode = .production
  · exact .inl (if_pos hmode)
  · rw [if_neg hmode]
    by_cases hon : (!Settings.globallyEnabled c) = true
    · exact .inl (if_pos hon)
    · rw [if_neg hon]
      have hon' : Settings.globallyEnabled c = true := by simpa using hon
      cases Settings.DevServices.ofConfig c Settings.sectionStart with
      | error e => exact .inr (.inl ⟨e, rfl, rfl⟩)
      | ok settings => exact .inr (.inr ⟨settings, rfl, hmode, hon', rfl⟩)

/-- Only its settings can keep a build from knowing what it wants. -/
theorem wanted_error {e : BuildError} (h : wanted c mode = .error e) :
    ∃ e', e = .settings e' := by
  obtain hw | ⟨e', -, hw⟩ | ⟨settings, -, -, -, hw⟩ := wanted_cases c mode <;> rw [hw] at h
  · exact absurd h (by simp)
  · exact ⟨e', (Except.error.inj h).symm⟩
  · exact absurd h (by simp)

/-- **What is asked for comes with the whole configuration.** -/
theorem wanted_config {r : Request} (h : wanted c mode = .ok (some r)) : r.config = c := by
  obtain hw | ⟨e, -, hw⟩ | ⟨settings, -, -, -, hw⟩ := wanted_cases c mode <;> rw [hw] at h
  · exact absurd h (by simp)
  · exact absurd h (by simp)
  · obtain rfl := Option.some.inj (Except.ok.inj h)
    rfl

/-- **A registry is provided** by asking the service for what is wanted. -/
theorem provide_eq (s : DevService) (c : Config) (mode : LaunchMode) (w : World) :
    provide s c mode w
      = match wanted c mode with
        | .error e => (⟨.error e, [], []⟩, s)
        | .ok none => (⟨.ok none, [], unaskedRecords c mode⟩, s)
        | .ok (some r) =>
          (⟨(s.ensure r w).1.answer.mapError .service, (s.ensure r w).1.events,
            (s.ensure r w).1.records⟩, (s.ensure r w).2) := by
  unfold provide wanted unaskedRecords
  by_cases hmode : mode = .production
  · simp only [hmode, if_true]
  · by_cases hon : (!Settings.globallyEnabled c) = true
    · simp only [if_neg hmode, if_pos hon]
    · simp only [if_neg hmode, if_neg hon]
      cases Settings.DevServices.ofConfig c Settings.sectionStart <;> rfl

end Asking

/-! ## The end of a build -/

/-- What a build comes to with a registry or without. -/
def outcome (input : BuildInput) (o : SerdeLayer) (p : Option Provision) : BuildOutcome :=
  { channels := channels input, converted := input.index.convert plainRules
    config := withProvision (configuration o input) p, layer := layer o input, provision := p }

/-- **Only an address that is refused stops a build at its end.** -/
theorem finish_of_clear {input : BuildInput} {o : SerdeLayer} {p : Option Provision}
    (h : RegistryUrl.misplaced? (withProvision (configuration o input) p) (channels input) = none) :
    (finish input (configuration o input) (channels input) (layer o input) p).1
      = .ok (outcome input o p) := by
  unfold finish RegistryUrl.validate
  simp only [h]
  rfl

/-- A build that is not stopped at its end comes to its outcome, and has passed the check. -/
theorem eq_outcome_of_finish {input : BuildInput} {o : SerdeLayer} {p : Option Provision}
    {out : BuildOutcome}
    (h : (finish input (configuration o input) (channels input) (layer o input) p).1 = .ok out) :
    out = outcome input o p
      ∧ ∃ warnings, RegistryUrl.validate out.config out.channels = .ok warnings := by
  unfold finish at h
  cases hv : RegistryUrl.validate (withProvision (configuration o input) p) (channels input) with
  | error m =>
    simp only [hv] at h
    exact absurd h (by simp)
  | ok warnings =>
    simp only [hv] at h
    obtain rfl := Except.ok.inj h
    exact ⟨rfl, warnings, hv⟩

/-- What follows once it is known what is provided. -/
def conclude (st : BuildState) (o : SerdeLayer) (input : BuildInput)
    (provided : Reply (Except BuildError (Option Provision)) × DevService) :
    Reply (Except BuildError BuildOutcome) × BuildState :=
  let st := { withLayer st (layer o input) with service := provided.2 }
  match provided.1.answer with
  | .error e => (⟨.error e, provided.1.events, detection input ++ provided.1.records⟩, st)
  | .ok p =>
    let (result, records) :=
      finish input (configuration o input) (channels input) (layer o input) p
    (⟨result, provided.1.events, detection input ++ provided.1.records ++ records⟩, st)

/-- The ids have no part in what follows, and may be restored before. -/
theorem conclude_restored (st : BuildState) (o : SerdeLayer) (input : BuildInput)
    (provided : Reply (Except BuildError (Option Provision)) × DevService) (token : Nat) :
    ((conclude st o input provided).1, (conclude st o input provided).2.restored token)
      = conclude (st.restored token) o input provided := by
  obtain ⟨⟨answer, events, records⟩, s⟩ := provided
  cases answer <;> rfl

variable [Settings.TextRules]

/-- A build does its work under its id, and restores the id before. -/
theorem run_eq (st : BuildState) (input : BuildInput) (w : World) :
    st.run input w = (((st.started input).work input w).1,
      ((st.started input).work input w).2.restored st.ids.tokens.length) := rfl

section Work

variable {st : BuildState} {input : BuildInput} {o : SerdeLayer}

theorem work_of_misplaced {m : RegistryUrl.Misplaced}
    (start : layerOf st.shared input.sources = .ok o)
    (found : RegistryUrl.misplaced? (configuration o input) (channels input) = some m) (w : World) :
    st.work input w
      = (⟨.error (.misplacedUrl m), [], detection input⟩, withLayer st (layer o input)) := by
  unfold configuration layer channels at found
  unfold BuildState.work layer channels detection withLayer
  generalize Channels.none.detectBy input.classifier input.index.symbols = detected at found ⊢
  rw [start]
  dsimp only
  rw [found]

theorem work_of_clear (start : layerOf st.shared input.sources = .ok o)
    (clear : RegistryUrl.misplaced? (configuration o input) (channels input) = none) (w : World) :
    st.work input w
      = conclude st o input (provide st.service (configuration o input) input.mode w) := by
  unfold configuration layer channels at clear
  unfold BuildState.work conclude configuration layer channels detection withLayer
  -- whatever is detected: detection need not be unfolded
  generalize Channels.none.detectBy input.classifier input.index.symbols = detected at clear ⊢
  rw [start]
  dsimp only
  split
  · next m found => exact absurd (clear.symm.trans found) (by simp)
  · rfl

/-- A build whose settings are refused has done nothing. -/
theorem run_of_unread {e : Settings.SettingsError}
    (start : layerOf st.shared input.sources = .error e) (w : World) :
    st.run input w = (⟨.error (.settings e), [], detection input⟩, closed st input) := by
  have hwork : (st.started input).work input w
      = (⟨.error (.settings e), [], detection input⟩, st.started input) := by
    unfold BuildState.work
    rw [show layerOf (st.started input).shared input.sources = .error e from start]
    rfl
  rw [run_eq, hwork]
  rfl

/-- A build with an address that is not read is refused, its layer in place. -/
theorem run_of_misplaced {m : RegistryUrl.Misplaced}
    (start : layerOf st.shared input.sources = .ok o)
    (found : RegistryUrl.misplaced? (configuration o input) (channels input) = some m) (w : World) :
    st.run input w = (⟨.error (.misplacedUrl m), [], detection input⟩,
      withLayer (closed st input) (layer o input)) := by
  have start' : layerOf (st.started input).shared input.sources = .ok o := start
  rw [run_eq, work_of_misplaced start' found]
  rfl

/-- A build that is not refused provides a registry and concludes. -/
theorem run_of_clear (start : layerOf st.shared input.sources = .ok o)
    (clear : RegistryUrl.misplaced? (configuration o input) (channels input) = none) (w : World) :
    st.run input w = conclude (closed st input) o input
      (provide st.service (configuration o input) input.mode w) := by
  have start' : layerOf (st.started input).shared input.sources = .ok o := start
  rw [run_eq, work_of_clear start' clear]
  exact conclude_restored _ o input _ _

end Work

/-- **A build that the service fails stops with that failure.** -/
theorem run_of_failed {st : BuildState} {input : BuildInput} {w : World} {o : SerdeLayer}
    {r : Request} {f : Failure} (start : layerOf st.shared input.sources = .ok o)
    (clear : RegistryUrl.misplaced? (configuration o input) (channels input) = none)
    (want : wanted (configuration o input) input.mode = .ok (some r))
    (answer : (st.service.ensure r w).1.answer = .error f) :
    (st.run input w).1.answer = .error (.service f) := by
  rw [run_of_clear start clear, provide_eq, want]
  show (conclude (closed st input) o input
    (⟨(st.service.ensure r w).1.answer.mapError .service, _, _⟩, _)).1.answer = _
  rw [answer]
  rfl

/-- **How a build ends**, by the stage that it reaches. -/
inductive End (st : BuildState) (input : BuildInput) (w : World) :
    Reply (Except BuildError BuildOutcome) × BuildState → Prop where
  /-- The settings of the serializers are refused. -/
  | unread {e : Settings.SettingsError} (start : layerOf st.shared input.sources = .error e) :
      End st input w (⟨.error (.settings e), [], detection input⟩, closed st input)
  /-- An address stands where it is not read. -/
  | misplaced {o : SerdeLayer} {m : RegistryUrl.Misplaced}
      (start : layerOf st.shared input.sources = .ok o)
      (found : RegistryUrl.misplaced? (configuration o input) (channels input) = some m) :
      End st input w
        (⟨.error (.misplacedUrl m), [], detection input⟩,
          withLayer (closed st input) (layer o input))
  /-- The settings of the dev service are refused. -/
  | unknown {o : SerdeLayer} {e : BuildError} (start : layerOf st.shared input.sources = .ok o)
      (clear : RegistryUrl.misplaced? (configuration o input) (channels input) = none)
      (want : wanted (configuration o input) input.mode = .error e) :
      End st input w
        (⟨.error e, [], detection input⟩, withLayer (closed st input) (layer o input))
  /-- No registry is wanted. -/
  | unasked {o : SerdeLayer} (start : layerOf st.shared input.sources = .ok o)
      (clear : RegistryUrl.misplaced? (configuration o input) (channels input) = none)
      (want : wanted (configuration o input) input.mode = .ok none) :
      End st input w
        (⟨.ok (outcome input o none), [],
          detection input ++ unaskedRecords (configuration o input) input.mode
            ++ (finish input (configuration o input) (channels input) (layer o input) none).2⟩,
          withLayer (closed st input) (layer o input))
  /-- The service fails. -/
  | failed {o : SerdeLayer} {r : Request} {f : Failure}
      (start : layerOf st.shared input.sources = .ok o)
      (clear : RegistryUrl.misplaced? (configuration o input) (channels input) = none)
      (want : wanted (configuration o input) input.mode = .ok (some r))
      (answer : (st.service.ensure r w).1.answer = .error f) :
      End st input w
        (⟨.error (.service f), (st.service.ensure r w).1.events,
          detection input ++ (st.service.ensure r w).1.records⟩,
          { withLayer (closed st input) (layer o input) with service := (st.service.ensure r w).2 })
  /-- The service answers with a registry, or with none. -/
  | answered {o : SerdeLayer} {r : Request} {p : Option Provision}
      {result : Except BuildError BuildOutcome} {records : List Record}
      (start : layerOf st.shared input.sources = .ok o)
      (clear : RegistryUrl.misplaced? (configuration o input) (channels input) = none)
      (want : wanted (configuration o input) input.mode = .ok (some r))
      (answer : (st.service.ensure r w).1.answer = .ok p)
      (rest : finish input (configuration o input) (channels input) (layer o input) p
        = (result, records)) :
      End st input w
        (⟨result, (st.service.ensure r w).1.events,
          detection input ++ (st.service.ensure r w).1.records ++ records⟩,
          { withLayer (closed st input) (layer o input) with service := (st.service.ensure r w).2 })

/-- **Every build ends in one of these ways.** -/
theorem run_ends (st : BuildState) (input : BuildInput) (w : World) :
    End st input w (st.run input w) := by
  cases start : layerOf st.shared input.sources with
  | error e =>
    rw [run_of_unread start]
    exact .unread start
  | ok o =>
    cases clear : RegistryUrl.misplaced? (configuration o input) (channels input) with
    | some m =>
      rw [run_of_misplaced start clear]
      exact .misplaced start clear
    | none =>
      rw [run_of_clear start clear, provide_eq]
      cases want : wanted (configuration o input) input.mode with
      | error e =>
        show End st input w (_, _)
        rw [List.append_nil]
        exact .unknown start clear want
      | ok asked =>
        cases asked with
        | none =>
          have hend := End.unasked (w := w) start clear want
          rw [← finish_of_clear (p := none) clear] at hend
          exact hend
        | some r =>
          show End st input w (conclude (closed st input) o input
            (⟨(st.service.ensure r w).1.answer.mapError .service, _, _⟩, _))
          cases answer : (st.service.ensure r w).1.answer with
          | error f => exact .failed start clear want answer
          | ok p => exact .answered start clear want answer rfl

/-- **The id of before is current again** after every build. -/
theorem current_run (st : BuildState) (input : BuildInput) (w : World) :
    (st.run input w).2.ids.current = st.ids.current := by
  have hend := run_ends st input w
  generalize st.run input w = result at hend ⊢
  cases hend <;> exact current_closed st input

/-! ## What a build asks for -/

/-- **What a build asks the service for**, if it comes to that. -/
def asked? (shared : Option SerdeLayer) (input : BuildInput) : Option Request :=
  match layerOf shared input.sources with
  | .error _ => none
  | .ok o =>
    if (RegistryUrl.misplaced? (configuration o input) (channels input)).isSome then none
    else (wanted (configuration o input) input.mode).toOption.bind id

/-- A build that starts and is not refused asks for what it wants. -/
theorem asked?_of_clear {shared : Option SerdeLayer} {input : BuildInput} {o : SerdeLayer}
    (start : layerOf shared input.sources = .ok o)
    (clear : RegistryUrl.misplaced? (configuration o input) (channels input) = none) :
    asked? shared input = (wanted (configuration o input) input.mode).toOption.bind id := by
  unfold asked?
  simp only [start, clear]
  rfl

/-- So what it wants is what it asks for, nothing included. -/
theorem asked?_of_want {shared : Option SerdeLayer} {input : BuildInput} {o : SerdeLayer}
    {wish : Option Request} (start : layerOf shared input.sources = .ok o)
    (clear : RegistryUrl.misplaced? (configuration o input) (channels input) = none)
    (want : wanted (configuration o input) input.mode = .ok wish) : asked? shared input = wish := by
  rw [asked?_of_clear start clear, want]
  rfl

/-- A build that cannot tell what it wants asks for nothing. -/
theorem asked?_of_error {shared : Option SerdeLayer} {input : BuildInput} {o : SerdeLayer}
    {e : BuildError} (start : layerOf shared input.sources = .ok o)
    (clear : RegistryUrl.misplaced? (configuration o input) (channels input) = none)
    (want : wanted (configuration o input) input.mode = .error e) : asked? shared input = none := by
  rw [asked?_of_clear start clear, want]
  rfl

/-- **What is asked for** is wanted by a build that starts and is not refused. -/
theorem asked?_eq_some {shared : Option SerdeLayer} {input : BuildInput} {r : Request}
    (h : asked? shared input = some r) :
    ∃ o, layerOf shared input.sources = .ok o
      ∧ RegistryUrl.misplaced? (configuration o input) (channels input) = none
      ∧ wanted (configuration o input) input.mode = .ok (some r) := by
  cases start : layerOf shared input.sources with
  | error e =>
    rw [asked?, start] at h
    exact absurd h (by simp)
  | ok o =>
    cases clear : RegistryUrl.misplaced? (configuration o input) (channels input) with
    | some m =>
      rw [asked?, start] at h
      exact absurd h (by simp [clear])
    | none =>
      cases want : wanted (configuration o input) input.mode with
      | error e => exact absurd ((asked?_of_error start clear want).symm.trans h) (by simp)
      | ok wish =>
        obtain rfl : wish = some r := (asked?_of_want start clear want).symm.trans h
        exact ⟨o, rfl, clear, want⟩

/-- **A build calls the service once at most**, for what it asks, and its events are those of the
call. -/
theorem run_service (st : BuildState) (input : BuildInput) (w : World) :
    (st.run input w).2.service
        = ((asked? st.shared input).map fun r => (st.service.ensure r w).2).getD st.service
      ∧ (st.run input w).1.events
        = ((asked? st.shared input).map fun r => (st.service.ensure r w).1.events).getD [] := by
  have hend := run_ends st input w
  generalize st.run input w = result at hend ⊢
  cases hend with
  | unread start => rw [asked?, start]; exact ⟨rfl, rfl⟩
  | misplaced start found => simp [asked?, start, found, withLayer, closed, BuildState.started,
      BuildState.restored]
  | unknown start clear want =>
    rw [asked?_of_error start clear want]
    exact ⟨rfl, rfl⟩
  | unasked start clear want =>
    rw [asked?_of_want start clear want]
    exact ⟨rfl, rfl⟩
  | failed start clear want answer =>
    rw [asked?_of_want start clear want]
    exact ⟨rfl, rfl⟩
  | answered start clear want answer rest =>
    rw [asked?_of_want start clear want]
    exact ⟨rfl, rfl⟩

/-! ## What a build comes to -/

/-- A build that comes to an outcome has started and was not refused. -/
theorem clear_of_answer {st : BuildState} {input : BuildInput} {w : World} {out : BuildOutcome}
    (hrun : (st.run input w).1.answer = .ok out) :
    ∃ o, layerOf st.shared input.sources = .ok o
      ∧ RegistryUrl.misplaced? (configuration o input) (channels input) = none := by
  have hend := run_ends st input w
  generalize st.run input w = result at hend hrun
  cases hend with
  | unread start => exact absurd hrun (by simp)
  | misplaced start found => exact absurd hrun (by simp)
  | unknown start clear want | unasked start clear want | failed start clear want answer
  | answered start clear want answer rest => exact ⟨_, start, clear⟩

/-- **What a build comes to**: it has passed the check of the addresses, and its registry, if it
comes with one, is what the service answered with. -/
theorem outcome_of_answer {st : BuildState} {input : BuildInput} {w : World} {out : BuildOutcome}
    (hrun : (st.run input w).1.answer = .ok out) :
    ∃ o p, out = outcome input o p
      ∧ (∃ warnings, RegistryUrl.validate out.config out.channels = .ok warnings)
      ∧ ((asked? st.shared input = none ∧ p = none)
        ∨ ∃ r, asked? st.shared input = some r ∧ (st.service.ensure r w).1.answer = .ok p) := by
  have hend := run_ends st input w
  generalize st.run input w = result at hend hrun
  cases hend with
  | unread start => exact absurd hrun (by simp)
  | misplaced start found => exact absurd hrun (by simp)
  | unknown start clear want => exact absurd hrun (by simp)
  | failed start clear want answer => exact absurd hrun (by simp)
  | @unasked o start clear want =>
    obtain rfl := Except.ok.inj hrun
    obtain ⟨-, hvalid⟩ := eq_outcome_of_finish (finish_of_clear (p := none) clear)
    exact ⟨o, none, rfl, hvalid, .inl ⟨asked?_of_want start clear want, rfl⟩⟩
  | @answered o r p _ _ start clear want answer rest =>
    obtain ⟨rfl, hvalid⟩ := eq_outcome_of_finish ((congrArg Prod.fst rest).trans hrun)
    exact ⟨o, p, rfl, hvalid, .inr ⟨r, asked?_of_want start clear want, answer⟩⟩

end Build

end ChannelSerde
