import ChannelSerde.Proofs.DevService.Kept

/-!
# While a container is held

What is kept of a registry is set when its container comes up and let go of together with it;
between these two moments no call changes it. And a container that was let go of does not come back,
since every new one gets the next number. So whoever finds the container of before held finds with
it what it exports and what it was started with, whatever was done in the meantime.

`Follows` says how a service may come after another. It holds over every call and over any number of
them, so nothing has to be known of the calls in between (`Follows.kept_of_held`).
-/

namespace ChannelSerde

namespace DevService

/-- **A service comes after another**: it keeps what that one keeps, or holds a container, if it
holds one, that was created later. -/
structure Follows (s s' : DevService) : Prop where
  /-- Containers are only ever added. -/
  created : s.created ≤ s'.created
  kept : (s'.container = s.container ∧ s'.exported = s.exported ∧ s'.snapshot = s.snapshot)
    ∨ ∀ c, s'.container = some c → s.created < c.number ∧ c.number ≤ s'.created

namespace Follows

variable {s s' s'' : DevService}

theorem refl (s : DevService) : Follows s s := ⟨Nat.le_refl _, .inl ⟨rfl, rfl, rfl⟩⟩

theorem trans (h : Follows s s') (h' : Follows s' s'') : Follows s s'' := by
  refine ⟨Nat.le_trans h.created h'.created, ?_⟩
  obtain ⟨hc, he, hs⟩ | hlater := h'.kept
  · -- the second keeps what the first left: what that was is settled by the first
    obtain ⟨hc₀, he₀, hs₀⟩ | hlater₀ := h.kept
    · exact .inl ⟨hc.trans hc₀, he.trans he₀, hs.trans hs₀⟩
    · refine .inr fun c held => ?_
      obtain ⟨hlt, hle⟩ := hlater₀ c (hc ▸ held)
      exact ⟨hlt, Nat.le_trans hle h'.created⟩
  · refine .inr fun c held => ?_
    obtain ⟨hlt, hle⟩ := hlater c held
    exact ⟨Nat.lt_of_le_of_lt h.created hlt, hle⟩

/-- **Where the container of before is held, what is kept is what was kept.** -/
theorem kept_of_held (h : Follows s s') {c : Container} (hc : s.container = some c)
    (hnumber : c.number ≤ s.created) (held : s'.container = s.container) :
    s'.exported = s.exported ∧ s'.snapshot = s.snapshot := by
  obtain ⟨-, hkept⟩ | hlater := h.kept
  · exact hkept
  · obtain ⟨hlt, -⟩ := hlater c (held.trans hc)
    exact absurd hlt (Nat.not_lt.mpr hnumber)

end Follows

variable (s : DevService)

theorem stop_follows (f : Option Failure) : s.Follows (s.stop f).2 := by
  unfold stop
  cases hc : s.container with
  | none => exact .refl s
  | some c => exact ⟨Nat.le_refl _, .inr fun c' hc' => absurd hc' (by simp)⟩

/-- A start keeps what was kept, or holds the container that it creates. -/
theorem start_follows (r : Request) (w : World) : s.Follows (s.start r w).2 := by
  have hend := start_ends s r w
  generalize s.start r w = out at hend ⊢
  cases hend with
  | skipped skip => exact .refl s
  | notAnswered need answer => exact ⟨Nat.le_refl _, .inl ⟨rfl, rfl, rfl⟩⟩
  | noRuntime need answer => exact ⟨Nat.le_refl _, .inl ⟨rfl, rfl, rfl⟩⟩
  | notCreated need answer create => exact ⟨Nat.le_refl _, .inl ⟨rfl, rfl, rfl⟩⟩
  | notUp need answer create up => exact ⟨Nat.le_succ _, .inl ⟨rfl, rfl, rfl⟩⟩
  | up need answer create up =>
    refine ⟨Nat.le_succ _, .inr fun c hc => ?_⟩
    obtain rfl := Option.some.inj hc
    exact ⟨Nat.lt_succ_self _, Nat.le_refl _⟩

/-- **A service follows the one of before a call.** -/
theorem turn_follows (c : Call) : s.Follows (s.turn c).after := by
  cases c with
  | stop f => exact s.stop_follows f
  | ensure r w =>
    show s.Follows (s.ensure r w).2
    cases hr : s.reuses r with
    | true =>
      obtain ⟨_, -, he⟩ := ensure_reuse hr w
      rw [he]
      exact .refl s
    | false =>
      obtain ⟨-, -, hafter⟩ := ensure_anew (w := w) hr
      rw [hafter]
      exact (s.stop_follows _).trans (start_follows _ r w)

/-- **What is held was created before.** -/
theorem number_le_created (runtime : RuntimeStatus) (calls : List Call) {c : Container}
    (hc : (History.ofCalls runtime calls).service.container = some c) :
    c.number ≤ (History.ofCalls runtime calls).service.created := by
  have hfollows : (fresh runtime).Follows (History.ofCalls runtime calls).service :=
    History.ofCalls_induction (P := fun h => (fresh runtime).Follows h.service) (Follows.refl _)
      (fun h c hh => hh.trans (h.service.turn_follows c)) calls
  obtain ⟨hnone, -⟩ | hlater := hfollows.kept
  · exact absurd (hnone.symm.trans hc) (by simp [fresh])
  · exact (hlater c hc).2

end DevService

end ChannelSerde
