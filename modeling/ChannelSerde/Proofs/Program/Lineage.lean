import Mathlib.Logic.Relation
import ChannelSerde.Program.ClassDef

/-!
# What classes derive from

The lineage of a class lists what it derives from, directly or not, as often as it is reached. What
it lists is what steps from a class to one of its bases lead to (`mem_lineage_iff`), and for all that
follows only that counts.

A table of classes goes by names, and a program by the classes themselves. The two agree where no two
classes bear one name. Every class derives from the root class in the end, so that counts among them
whether it is written as a base or not; and it has no bases, so nothing is reached beyond it.
-/

namespace ChannelSerde

namespace ClassDef

/-- **A class derives from another directly.** -/
def HasBase (c b : ClassDef) : Prop := b ∈ c.bases

theorem lineage_eq (c : ClassDef) : c.lineage = c :: lineages c.bases := by
  cases c
  rfl

theorem mem_lineages {cs : List ClassDef} {d : ClassDef} :
    d ∈ lineages cs ↔ ∃ c ∈ cs, d ∈ c.lineage := by
  induction cs with
  | nil => exact iff_of_false List.not_mem_nil fun ⟨_, hc, _⟩ => List.not_mem_nil hc
  | cons c cs ih =>
    rw [lineages, List.mem_append, ih]
    simp only [List.mem_cons, exists_eq_or_imp]

mutual

theorem reached_of_mem_lineage {d : ClassDef} :
    ∀ c : ClassDef, d ∈ c.lineage → Relation.ReflTransGen HasBase c d
  | mk number name bases, h => by
    rw [lineage_eq] at h
    obtain rfl | h := List.mem_cons.mp h
    · exact .refl
    · obtain ⟨b, hb, hd⟩ := reached_of_mem_lineages bases h
      exact .head hb hd

theorem reached_of_mem_lineages {d : ClassDef} :
    ∀ cs : List ClassDef, d ∈ lineages cs → ∃ c ∈ cs, Relation.ReflTransGen HasBase c d
  | [], h => absurd h List.not_mem_nil
  | c :: rest, h => by
    obtain h | h := List.mem_append.mp h
    · exact ⟨c, List.mem_cons_self, reached_of_mem_lineage c h⟩
    · obtain ⟨b, hb, hd⟩ := reached_of_mem_lineages rest h
      exact ⟨b, List.mem_cons_of_mem c hb, hd⟩

end

/-- **The lineage of a class lists what steps to bases lead to.** -/
theorem mem_lineage_iff {c d : ClassDef} :
    d ∈ c.lineage ↔ Relation.ReflTransGen HasBase c d := by
  refine ⟨reached_of_mem_lineage c, fun h => ?_⟩
  induction h using Relation.ReflTransGen.head_induction_on with
  | refl =>
    rw [lineage_eq]
    exact List.mem_cons_self
  | head hbase _ ih =>
    rw [lineage_eq]
    exact List.mem_cons_of_mem _ (mem_lineages.mpr ⟨_, hbase, ih⟩)

theorem mem_lineage_self (c : ClassDef) : c ∈ c.lineage := mem_lineage_iff.mpr .refl

theorem mem_lineages_of_mem {cs : List ClassDef} {c : ClassDef} (h : c ∈ cs) : c ∈ lineages cs :=
  mem_lineages.mpr ⟨c, h, c.mem_lineage_self⟩

theorem base_mem_lineages {cs : List ClassDef} {c b : ClassDef} (hc : c ∈ lineages cs)
    (hb : b ∈ c.bases) : b ∈ lineages cs := by
  obtain ⟨d, hd, hcd⟩ := mem_lineages.mp hc
  exact mem_lineages.mpr ⟨d, hd, mem_lineage_iff.mpr ((mem_lineage_iff.mp hcd).tail hb)⟩

/-- **Classes that are reached have the same lineages**: they add nothing. -/
theorem lineages_subset {cs ds : List ClassDef} (h : cs ⊆ lineages ds) :
    lineages cs ⊆ lineages ds := by
  intro d hd
  obtain ⟨c, hc, hcd⟩ := mem_lineages.mp hd
  obtain ⟨e, he, hec⟩ := mem_lineages.mp (h hc)
  exact mem_lineages.mpr
    ⟨e, he, mem_lineage_iff.mpr ((mem_lineage_iff.mp hec).trans (mem_lineage_iff.mp hcd))⟩

/-! ## Names -/

/-- **The class at the root.** -/
def root : ClassDef := standard rootClass []

theorem name_eq_of_key_eq {c d : ClassDef} (h : c.key = d.key) : c.name = d.name := by
  cases c
  cases d
  exact congrArg Prod.snd h

theorem isRoot_iff {c : ClassDef} : c.isRoot = true ↔ c.name = rootClass := beq_iff_eq

/-- **No two classes bear one name**, of some classes, those they derive from, and the root. -/
def NamedApart (cs : List ClassDef) : Prop :=
  ∀ c ∈ lineages (root :: cs), ∀ d ∈ lineages (root :: cs), c.name = d.name → c = d

namespace NamedApart

variable {cs ds : List ClassDef} {c d : ClassDef}

theorem mono (h : NamedApart ds) (hsub : cs ⊆ lineages ds) : NamedApart cs := by
  have hall : lineages (root :: cs) ⊆ lineages (root :: ds) := by
    refine lineages_subset (List.cons_subset.mpr ⟨mem_lineages_of_mem List.mem_cons_self, ?_⟩)
    exact fun c hc => List.mem_append_right _ (hsub hc)
  exact fun c hc d hd => h c (hall hc) d (hall hd)

theorem eq (h : NamedApart cs) (hc : c ∈ lineages cs) (hd : d ∈ lineages cs)
    (hname : c.name = d.name) : c = d :=
  h c (List.mem_append_right _ hc) d (List.mem_append_right _ hd) hname

/-- **The root is reached in one form only**, and has no bases. -/
theorem eq_root (h : NamedApart cs) (hc : c ∈ lineages cs) (hroot : c.isRoot = true) : c = root :=
  h c (List.mem_append_right _ hc) root (mem_lineages_of_mem List.mem_cons_self)
    (isRoot_iff.mp hroot)

theorem isRoot_eq_false (h : NamedApart cs) (hc : c ∈ lineages cs) {b : ClassDef}
    (hb : b ∈ c.bases) : c.isRoot = false := by
  rw [← Bool.not_eq_true]
  intro hroot
  rw [h.eq_root hc hroot] at hb
  exact List.not_mem_nil hb

end NamedApart

end ClassDef

end ChannelSerde
