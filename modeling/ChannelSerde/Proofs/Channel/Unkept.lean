import ChannelSerde.Channel.SerdeLayer

/-!
# What a layer keeps is never seen

A layer keeps the properties of its last synthesis. `Unkept` is the layer without them: it knows its
channels and its settings and synthesizes at every read. The two answer alike, whatever is done to
them and in whichever order (`answers_eq_unkept`).

The empty map stands for "nothing kept", and it is also what a layer answers that is switched off.
So the invariant has two parts: a layer that is off keeps nothing, and what is kept, if it is not
empty, is what a synthesis would give now (`SerdeLayer.IsCurrent`).
-/

namespace ChannelSerde

/-- **A layer that keeps nothing.** -/
structure Unkept where
  settings : Settings.Serde
  incoming : OrderedSet String
  outgoing : OrderedSet String
  enabled : Bool

namespace Unkept

/-- The layer without channels, switched off. -/
def empty (s : Settings.Serde) : Unkept := ⟨s, OrderedSet.empty, OrderedSet.empty, false⟩

/-- **The properties**: none while the layer is off, else those of its channels as they are now. -/
def properties (u : Unkept) : Config.Properties :=
  if u.enabled then SerdeLayer.synthesis u.settings u.incoming u.outgoing else OrderedMap.empty

/-- **A use**: what is answered, and the layer after it. A read leaves the layer as it is. -/
def use (u : Unkept) : SerdeLayer.Use → SerdeLayer.Answer × Unkept
  | .addIncoming name => (.done, { u with incoming := u.incoming.insert name })
  | .addOutgoing name => (.done, { u with outgoing := u.outgoing.insert name })
  | .setChannels incoming outgoing =>
    (.done, { u with incoming := .ofList incoming, outgoing := .ofList outgoing })
  | .switch b => (.done, { u with enabled := b })
  | .value key => (.value (u.properties.get? key), u)
  | .properties => (.properties u.properties, u)
  | .names => (.names u.properties.keys, u)

/-- What is answered to one use after the other. -/
def answers (u : Unkept) : List SerdeLayer.Use → List SerdeLayer.Answer
  | [] => []
  | a :: as => (u.use a).1 :: answers (u.use a).2 as

end Unkept

namespace SerdeLayer

/-- A layer without what it keeps. -/
def unkept (o : SerdeLayer) : Unkept := ⟨o.settings, o.incoming, o.outgoing, o.enabled⟩

/-- **What a layer keeps is current.** -/
structure IsCurrent (o : SerdeLayer) : Prop where
  /-- A layer that is off keeps nothing. -/
  off : o.enabled = false → o.kept = OrderedMap.empty
  /-- What is kept is what a synthesis gives. -/
  on : o.kept.size ≠ 0 → o.kept = synthesis o.settings o.incoming o.outgoing

variable {o : SerdeLayer}

theorem isCurrent_of_kept_eq_empty (h : o.kept = OrderedMap.empty) : o.IsCurrent :=
  ⟨fun _ => h, fun hsize => absurd (h ▸ rfl) hsize⟩

/-! ## Reads -/

theorem unkept_read (o : SerdeLayer) : o.read.2.unkept = o.unkept := by
  unfold read
  split <;> rfl

/-- **A read answers what the layer without anything kept does.** -/
theorem IsCurrent.read_eq (h : o.IsCurrent) : o.read.1 = o.unkept.properties := by
  unfold read Unkept.properties unkept
  cases he : o.enabled with
  | false => simpa using h.off he
  | true =>
    by_cases hsize : o.kept.size = 0
    · simp [hsize]
    · simpa [hsize] using h.on hsize

theorem IsCurrent.read (h : o.IsCurrent) : o.read.2.IsCurrent := by
  unfold SerdeLayer.read
  split
  · exact h
  · next hnew =>
    have hon : o.enabled = true := by
      simp only [Bool.or_eq_true, not_or, Bool.not_eq_true', Bool.not_eq_false] at hnew
      exact hnew.1
    exact ⟨fun hoff => absurd (hon.symm.trans hoff) Bool.noConfusion, fun _ => rfl⟩

/-! ## Uses -/

/-- Switching keeps what is kept current: it is dropped when the layer is switched off. -/
theorem IsCurrent.switched (h : o.IsCurrent) (b : Bool) : (o.switched b).IsCurrent := by
  cases b with
  | false => exact isCurrent_of_kept_eq_empty rfl
  | true => exact ⟨Bool.noConfusion, h.on⟩

/-- **A use keeps what is kept current.** -/
theorem IsCurrent.use (h : o.IsCurrent) (u : Use) : (o.use u).2.IsCurrent := by
  cases u with
  | addIncoming name | addOutgoing name | setChannels incoming outgoing =>
    exact isCurrent_of_kept_eq_empty rfl
  | switch b => exact h.switched b
  | value key | properties | names => exact h.read

/-- **A use does to a layer** what it does to the layer without anything kept. -/
theorem unkept_use (o : SerdeLayer) (u : Use) : (o.use u).2.unkept = (o.unkept.use u).2 := by
  cases u with
  | addIncoming name | addOutgoing name | setChannels incoming outgoing | switch b => rfl
  | value key | properties | names => exact o.unkept_read

/-- **A use is answered** as by the layer without anything kept. -/
theorem IsCurrent.use_answer (h : o.IsCurrent) (u : Use) : (o.use u).1 = (o.unkept.use u).1 := by
  cases u with
  | addIncoming name | addOutgoing name | setChannels incoming outgoing | switch b => rfl
  | value key => exact congrArg (fun p => Answer.value (p.get? key)) h.read_eq
  | properties => exact congrArg Answer.properties h.read_eq
  | names => exact congrArg (fun p => Answer.names p.keys) h.read_eq

/-- Uses are answered as by the layer without anything kept, as long as what is kept is current. -/
theorem IsCurrent.answers_eq (h : o.IsCurrent) (uses : List Use) :
    o.answers uses = o.unkept.answers uses := by
  induction uses generalizing o with
  | nil => rfl
  | cons u us ih => rw [answers, Unkept.answers, h.use_answer, ih (h.use u), unkept_use]

/-- **What a layer keeps is never seen.** Whatever is done to a layer, one after the other and in
any order: channels added or exchanged, the layer switched on or off, a key, all properties or all
keys asked for. Every answer is that of the layer which keeps nothing and synthesizes at each read.
-/
theorem answers_eq_unkept (s : Settings.Serde) (uses : List Use) :
    (empty s).answers uses = (Unkept.empty s).answers uses :=
  (isCurrent_of_kept_eq_empty rfl).answers_eq uses

end SerdeLayer

end ChannelSerde
