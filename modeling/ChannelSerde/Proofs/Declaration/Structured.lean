import Mathlib.Logic.Relation
import ChannelSerde.Declaration.Payload
import ChannelSerde.Proofs.Declaration.Edits

/-!
# What makes a type structured

Classification follows the first bases of a class and remembers the names that it has met. What it
finds does not depend on that memory: the names on the chain of a class are those that links lead to
from it, the class itself left out (`mem_chain_iff`). A link leads from a known class to its first
base and never to the root class, so a chain may be broken, end at a name that is not known, or run
in a circle.

What was met and what the chain still lists are closed under links together (`mem_of_link`). That is
the invariant which carries the proof, since a chain that runs into a circle stops only where
everything behind has been met.
-/

namespace ChannelSerde

/-- **A reference comes down to a class** through the first arguments of generic types. -/
inductive TypeRef.ComesDownTo : TypeRef → String → Prop where
  /-- A class comes down to itself. -/
  | ofClass (name : String) (arguments : List TypeRef) :
      ComesDownTo (.type name .ofClass arguments) name
  /-- A generic type comes down to what its first argument does. -/
  | first {r : TypeRef} {c : String} (name : String) (rest : List TypeRef) (h : ComesDownTo r c) :
      ComesDownTo (.type name .parameterized (r :: rest)) c

theorem TypeRef.ComesDownTo.payload?_eq {r : TypeRef} {c : String} (h : r.ComesDownTo c) :
    r.payload? = some c := by
  induction h with
  | ofClass name arguments => rfl
  | first name rest h ih => exact ih

/-- **The payload of a reference** is the class that it comes down to. -/
theorem TypeRef.payload?_eq_some_iff {r : TypeRef} {c : String} :
    r.payload? = some c ↔ r.ComesDownTo c := by
  refine ⟨fun h => ?_, ComesDownTo.payload?_eq⟩
  fun_induction payload? r with
  | case1 => exact absurd h (Option.some_ne_none c).symm
  | case2 name arguments =>
    obtain rfl := Option.some.inj h
    exact .ofClass name arguments
  | case3 name r rest ih => exact .first name rest (ih h)
  | case4 => exact absurd h (Option.some_ne_none c).symm

namespace MessageRule

variable {classes : OrderedMap String ClassRecord} {met : List String} {start : Option String}

/-- **A link**: from a known class to its first base, if that is not the root class. -/
def Link (classes : OrderedMap String ClassRecord) (a b : String) : Prop :=
  ∃ c, classes.get? a = some c ∧ c.parent = some b ∧ b ≠ rootClass

/-! ## The names on a chain -/

theorem notMem_of_mem_chainFrom {n : String} (h : n ∈ chainFrom classes met start) : n ∉ met := by
  fun_induction chainFrom classes met start with
  | case1 => exact absurd h List.not_mem_nil
  | case2 => exact absurd h List.not_mem_nil
  | case3 met name stop unknown =>
    obtain rfl := List.mem_singleton.mp h
    exact (not_or.mp stop).2
  | case4 met name stop c known ih =>
    obtain rfl | hrest := List.mem_cons.mp h
    · exact (not_or.mp stop).2
    · exact fun hmet => ih hrest (List.mem_cons_of_mem name hmet)

theorem nodup_chainFrom : (chainFrom classes met start).Nodup := by
  fun_induction chainFrom classes met start with
  | case1 => exact List.nodup_nil
  | case2 => exact List.nodup_nil
  | case3 met name stop unknown => exact List.pairwise_singleton _ name
  | case4 met name stop c known ih =>
    exact List.nodup_cons.mpr ⟨fun h => notMem_of_mem_chainFrom h List.mem_cons_self, ih⟩

/-- **A chain ends**: behind the known classes that were not met it lists one name at most. -/
theorem length_chainFrom_le :
    (chainFrom classes met start).length ≤ (unmet classes met).length + 1 := by
  fun_induction chainFrom classes met start with
  | case1 => exact Nat.zero_le _
  | case2 => exact Nat.zero_le _
  | case3 met name stop unknown => exact Nat.le_add_left 1 _
  | case4 met name stop c known ih =>
    have hkeys : name ∈ classes.keys := (classes.get?_isSome name).mp (by rw [known]; rfl)
    have hless := length_unmet_cons hkeys (not_or.mp stop).2
    rw [List.length_cons]
    omega

/-- **What was met and what the chain lists are closed under links**, if links from what was met
lead to nothing but that and the start. -/
theorem mem_of_link (hmet : ∀ a ∈ met, ∀ b, Link classes a b → b ∈ met ∨ start = some b)
    {a b : String} (ha : a ∈ met ∨ a ∈ chainFrom classes met start) (hab : Link classes a b) :
    b ∈ met ∨ b ∈ chainFrom classes met start := by
  fun_induction chainFrom classes met start with
  | case1 met =>
    obtain ha | ha := ha
    · exact .inl ((hmet a ha b hab).resolve_right (Option.some_ne_none b).symm)
    · exact absurd ha List.not_mem_nil
  | case2 met name stop =>
    obtain ha | ha := ha
    · obtain hb | hb := hmet a ha b hab
      · exact .inl hb
      · -- the chain stops at the start, which is no root class here, so it was met
        obtain rfl := Option.some.inj hb
        obtain ⟨-, -, -, hroot⟩ := hab
        exact .inl (stop.resolve_left hroot)
    · exact absurd ha List.not_mem_nil
  | case3 met name stop unknown =>
    obtain ha | ha := ha
    · exact (hmet a ha b hab).imp id fun hb => List.mem_singleton.mpr (Option.some.inj hb).symm
    · obtain rfl := List.mem_singleton.mp ha
      obtain ⟨c, hc, -⟩ := hab
      exact absurd (unknown.symm.trans hc) (Option.some_ne_none c).symm
  | case4 met name stop c known ih =>
    have hnext : ∀ a ∈ name :: met, ∀ b, Link classes a b → b ∈ name :: met ∨ c.parent = some b := by
      intro a ha b hab
      obtain rfl | ha := List.mem_cons.mp ha
      · obtain ⟨c', hc', hparent, -⟩ := hab
        obtain rfl := Option.some.inj (known.symm.trans hc')
        exact .inr hparent
      · obtain hb | hb := hmet a ha b hab
        · exact .inl (List.mem_cons_of_mem name hb)
        · exact .inl (List.mem_cons.mpr (.inl (Option.some.inj hb).symm))
    -- the first name of the chain counts as met behind it
    have hiff : ∀ n, (n ∈ met ∨ n ∈ name :: chainFrom classes (name :: met) c.parent)
        ↔ (n ∈ name :: met ∨ n ∈ chainFrom classes (name :: met) c.parent) := by
      intro n
      rw [List.mem_cons, List.mem_cons, or_left_comm, or_assoc]
    exact (hiff b).mpr (ih hnext ((hiff a).mp ha))

/-- **What a chain lists is reached by links**, if its start is. -/
theorem reached_of_mem_chainFrom {name n : String}
    (hstart : ∀ b, start = some b → b ≠ rootClass → Relation.TransGen (Link classes) name b)
    (h : n ∈ chainFrom classes met start) : Relation.TransGen (Link classes) name n := by
  fun_induction chainFrom classes met start with
  | case1 => exact absurd h List.not_mem_nil
  | case2 => exact absurd h List.not_mem_nil
  | case3 met first stop unknown =>
    obtain rfl := List.mem_singleton.mp h
    exact hstart n rfl (not_or.mp stop).1
  | case4 met first stop c known ih =>
    have hfirst := hstart first rfl (not_or.mp stop).1
    obtain rfl | hrest := List.mem_cons.mp h
    · exact hfirst
    · exact ih (fun b hb hroot => hfirst.tail ⟨c, known, hb, hroot⟩) hrest

/-! ## The chain of a class -/

/-- **The chain of a class lists what links lead to from it**, the class itself left out. -/
theorem mem_chain_iff {c : ClassRecord} (hc : classes.get? c.name = some c) (n : String) :
    n ∈ chain classes c ↔ n ≠ c.name ∧ Relation.TransGen (Link classes) c.name n := by
  constructor
  · intro h
    refine ⟨fun hn => notMem_of_mem_chainFrom h (hn ▸ List.mem_singleton_self _), ?_⟩
    exact reached_of_mem_chainFrom (fun b hb hroot => .single ⟨c, hc, hb, hroot⟩) h
  · rintro ⟨hne, hreach⟩
    have hmet : ∀ a ∈ [c.name], ∀ b, Link classes a b → b ∈ [c.name] ∨ c.parent = some b := by
      intro a ha b hab
      obtain rfl := List.mem_singleton.mp ha
      obtain ⟨c', hc', hparent, -⟩ := hab
      obtain rfl := Option.some.inj (hc.symm.trans hc')
      exact .inr hparent
    have hmem : n ∈ [c.name] ∨ n ∈ chain classes c := by
      clear hne
      induction hreach with
      | single hlink => exact mem_of_link hmet (.inl (List.mem_singleton_self _)) hlink
      | tail _ hlink ih => exact mem_of_link hmet ih hlink
    exact hmem.resolve_left fun hn => hne (List.mem_singleton.mp hn)

/-- **The chain of a known class** lists no more names than there are classes. -/
theorem length_chain_le {c : ClassRecord} (hc : classes.get? c.name = some c) :
    (chain classes c).length ≤ classes.size := by
  have hkeys : c.name ∈ classes.keys := (classes.get?_isSome c.name).mp (by rw [hc]; rfl)
  have hless := length_unmet_cons hkeys (List.not_mem_nil (a := c.name))
  have hall : (unmet classes []).length ≤ classes.size := by
    rw [OrderedMap.size, ← List.length_map Prod.fst]
    exact List.length_filter_le _ _
  have hchain : (chain classes c).length ≤ (unmet classes [c.name]).length + 1 :=
    length_chainFrom_le
  omega

/-! ## Structured types -/

/-- **A known class is a message** if the marker is one of its further bases, or if links lead from
it to another class that is the marker or its base implementation. -/
theorem isMessage_iff (k : MessageRule) {c : ClassRecord} (hc : classes.get? c.name = some c) :
    k.isMessage classes c = true
      ↔ k.marker ∈ c.interfaces
        ∨ ∃ s, s ≠ c.name ∧ (s = k.marker ∨ s = k.base)
          ∧ Relation.TransGen (Link classes) c.name s := by
  unfold isMessage
  simp only [Bool.or_eq_true, List.any_eq_true, beq_iff_eq, List.contains_iff_mem,
    mem_chain_iff hc]
  rw [or_comm]
  refine or_congr Iff.rfl (exists_congr fun s => ?_)
  rw [and_assoc, and_comm (a := Relation.TransGen _ _ _)]

/-- **What makes a type structured** over classes that are filed under their own names. -/
theorem isStructured_iff {i : Index} (hi : i.IsFiled) (k : MessageRule) (r : TypeRef) :
    k.isStructured i.classes r = true
      ↔ ∃ c, r.ComesDownTo c
        ∧ (c = k.marker
          ∨ ∃ known, i.classNamed c = some known
            ∧ (k.marker ∈ known.interfaces
              ∨ ∃ s, s ≠ c ∧ (s = k.marker ∨ s = k.base)
                ∧ Relation.TransGen (Link i.classes) c s)) := by
  have hmessage : ∀ c known, i.classNamed c = some known →
      (k.isMessage i.classes known = true
        ↔ k.marker ∈ known.interfaces
          ∨ ∃ s, s ≠ c ∧ (s = k.marker ∨ s = k.base)
            ∧ Relation.TransGen (Link i.classes) c s) := by
    intro c known hknown
    obtain rfl := hi c known hknown
    exact isMessage_iff k hknown
  simp only [← TypeRef.payload?_eq_some_iff]
  unfold isStructured
  cases hp : r.payload? with
  | none => simp
  | some c =>
    simp only [Bool.or_eq_true, beq_iff_eq, Option.any_eq_true, Option.some.injEq,
      exists_eq_left']
    refine or_congr Iff.rfl (exists_congr fun known => and_congr_right fun hknown => ?_)
    exact hmessage c known hknown

/-- **A type is structured by what its class derives from.** However an index came about, whichever
classes are missing from it and whatever circles its bases run in: a reference carries structured
payloads exactly if it comes down to a class, through first arguments, that is the marker or that is
known and derives from it. It derives from the marker if that is one of its own further bases, or if
one or more links lead from it to another class that is the marker or its base implementation; that
one need not be known. The search comes to an end: it meets no name twice, and no more names than
there are classes. -/
theorem isStructured_iff_derives (k : MessageRule) (edits : List Index.Edit) (r : TypeRef) :
    let i := Index.ofEdits edits
    (k.isStructured i.classes r = true
      ↔ ∃ c, r.ComesDownTo c
        ∧ (c = k.marker
          ∨ ∃ known, i.classNamed c = some known
            ∧ (k.marker ∈ known.interfaces
              ∨ ∃ s, s ≠ c ∧ (s = k.marker ∨ s = k.base)
                ∧ Relation.TransGen (Link i.classes) c s)))
      ∧ ∀ c known, i.classNamed c = some known →
          (chain i.classes known).Nodup ∧ (chain i.classes known).length ≤ i.classes.size := by
  intro i
  have hi : i.IsFiled := Index.isFiled_ofEdits edits
  refine ⟨isStructured_iff hi k r, fun c known hknown => ⟨nodup_chainFrom, ?_⟩⟩
  obtain rfl := hi c known hknown
  exact length_chain_le hknown

end MessageRule

end ChannelSerde
