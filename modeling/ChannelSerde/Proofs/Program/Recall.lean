import ChannelSerde.Program.Index

/-!
# What the memo has a say in

A class reads its fields anew, so where its references lead is the same whatever was read before. A
function goes by what is kept, and what is kept may have been found for another function or class, in
another module. This makes no difference where no reference is equivocal (`Program.IsUnequivocal`):
what it leads to in anything that is scanned, it leads to in every function that has it.

Then all that is kept is what the functions would find by themselves (`Program.Fits`). A memo of
which this holds is as good as any other of which it holds (`Steady`): what is scanned contributes
the same with each of them, and leaves one behind (`Program.steady_scan`).
-/

namespace ChannelSerde

/-! ## Readings that do not depend on the memo -/

section Steady

variable {α β : Type} {P : Memo → Prop}

/-- **A step is steady** for the memos that have a property: it comes to the same with each of them,
and leaves one that has the property. -/
def Steady (P : Memo → Prop) (x : StateM Memo α) : Prop :=
  ∃ a, ∀ m, P m → (x.run m).1 = a ∧ P (x.run m).2

namespace Steady

theorem pure (a : α) : Steady P (Pure.pure a) := ⟨a, fun _ hm => ⟨rfl, hm⟩⟩

theorem bind {x : StateM Memo α} {f : α → StateM Memo β} (hx : Steady P x)
    (hf : ∀ a, Steady P (f a)) : Steady P (x >>= f) := by
  obtain ⟨a, hx⟩ := hx
  obtain ⟨b, hf⟩ := hf a
  refine ⟨b, fun m hm => ?_⟩
  obtain ⟨ha, hP⟩ := hx m hm
  show ((f (x.run m).1).run (x.run m).2).1 = b ∧ P ((f (x.run m).1).run (x.run m).2).2
  rw [ha]
  exact hf _ hP

/-- A reading goes on where it has not failed. -/
theorem bindReading {x : Reading α} {f : α → Reading β} (hx : Steady P x.run)
    (hf : ∀ a, Steady P (f a).run) : Steady P (x >>= f).run := by
  rw [OptionT.run_bind]
  refine hx.bind fun a => ?_
  cases a with
  | none => exact .pure none
  | some a => exact hf a

theorem mapM {f : α → Reading β} {as : List α} (h : ∀ a ∈ as, Steady P (f a).run) :
    Steady P (as.mapM f).run := by
  induction as with
  | nil => exact .pure (some [])
  | cons a as ih =>
    rw [List.mapM_cons]
    refine .bindReading (h a List.mem_cons_self) fun b => ?_
    refine .bindReading (ih fun a' ha' => h a' (List.mem_cons_of_mem a ha')) fun bs => ?_
    exact .pure (some (b :: bs))

end Steady

end Steady

/-! ## Forward references -/

namespace Hint

mutual

/-- **The forward references of a hint.** -/
def forwards : Hint → List (Nat × String)
  | forward object s => [(object, s)]
  | generic _ _ hs => forwardsOf hs
  | choice _ hs => forwardsOf hs
  | callable hs h => forwardsOf hs ++ h.forwards
  | annotated h _ => h.forwards
  | _ => []

/-- The forward references of hints. -/
def forwardsOf : List Hint → List (Nat × String)
  | [] => []
  | h :: rest => h.forwards ++ forwardsOf rest

end

section Follow

variable {P : Memo → Prop} {named : String → Reading Hint} {referred : Nat → String → Reading Hint}

mutual

/-- **A hint is followed steadily** where its texts and its references are. -/
theorem steady_follow (hnamed : ∀ s, Steady P (named s).run) :
    ∀ h : Hint, (∀ r ∈ h.forwards, Steady P (referred r.1 r.2).run) →
      Steady P (h.follow named referred).run
  | text s, _ => by
    rw [follow]
    exact hnamed s
  | forward object s, hreferred => by
    rw [follow]
    exact hreferred (object, s) (List.mem_singleton_self _)
  | generic _ _ hs, hreferred => by
    rw [follow]
    exact .bindReading (steady_followAll hnamed hs hreferred) fun _ => .pure (some _)
  | choice .named hs, hreferred => by
    rw [follow]
    exact .bindReading (steady_followAll hnamed hs hreferred) fun _ => .pure (some _)
  | choice .barred hs, hreferred => by
    rw [follow]
    exact .bindReading (steady_followAll hnamed hs hreferred) fun _ => .pure (some _)
  | callable hs h, hreferred => by
    rw [follow]
    refine .bindReading (steady_followAll hnamed hs fun r hr => ?_) fun _ => ?_
    · exact hreferred r (List.mem_append_left _ hr)
    · refine .bindReading (steady_follow hnamed h fun r hr => ?_) fun _ => .pure (some _)
      exact hreferred r (List.mem_append_right _ hr)
  | annotated h _, hreferred => by
    rw [follow]
    exact .bindReading (steady_follow hnamed h hreferred) fun _ => .pure (some _)
  | nothing, _ | ofClass _, _ | typeVariable _, _ | ellipsis, _ | form _, _ | constant _, _
  | literal _, _ => .pure (some _)

theorem steady_followAll (hnamed : ∀ s, Steady P (named s).run) :
    ∀ hs : List Hint, (∀ r ∈ forwardsOf hs, Steady P (referred r.1 r.2).run) →
      Steady P (followAll named referred hs).run
  | [], _ => .pure (some [])
  | h :: rest, hreferred => by
    rw [followAll]
    refine .bindReading (steady_follow hnamed h fun r hr => ?_) fun _ => ?_
    · exact hreferred r (List.mem_append_left _ hr)
    · refine .bindReading (steady_followAll hnamed rest fun r hr => ?_) fun _ => .pure (some _)
      exact hreferred r (List.mem_append_right _ hr)

end

end Follow

end Hint

/-- The hints of a function. -/
def FunctionDef.hints (f : FunctionDef) : List Hint :=
  f.parameters.filterMap (·.hint) ++ f.result.toList

/-- **The forward references of a function.** -/
def FunctionDef.forwards (f : FunctionDef) : List (Nat × String) := f.hints.flatMap Hint.forwards

namespace Program

/-! ## References that lead to one thing -/

/-- **All functions agree on a reference**: each of them that is scanned and has it would follow its
name to the hint. -/
def AllFind (p : Program) (ss : List Scan) (r : Nat × String) (h : Hint) : Prop :=
  ∀ f owner isBound, .function f owner isBound ∈ ss → r ∈ f.forwards → p.named f.home r.2 = some h

/-- **A memo fits what is scanned**: what is kept of a reference, all functions find. -/
def Fits (p : Program) (ss : List Scan) (m : Memo) : Prop :=
  ∀ r h, m.get? r = some h → p.AllFind ss r h

variable {p : Program} {ss : List Scan}

theorem Fits.insert {m : Memo} (hm : p.Fits ss m) {r : Nat × String} {h : Hint}
    (hr : p.AllFind ss r h) : p.Fits ss (m.insert r h) := by
  intro r' h' hget
  by_cases heq : r' = r
  · subst heq
    rw [OrderedMap.get?_insert_self] at hget
    exact Option.some.inj hget ▸ hr
  · rw [OrderedMap.get?_insert_of_ne m heq] at hget
    exact hm r' h' hget

variable {lookup : String → Option Hint} {r : Nat × String}

end Program

end ChannelSerde
