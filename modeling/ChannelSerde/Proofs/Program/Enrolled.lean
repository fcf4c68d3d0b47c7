import ChannelSerde.Program.Index
import ChannelSerde.Proofs.Declaration.Edits
import ChannelSerde.Proofs.Program.Lineage

/-!
# What is entered in an index

A class is recorded and known before its bases are entered, so in the middle of this an index is not
closed: it may know a class whose bases are missing. What holds throughout is that it is closed but
for the classes that are being entered (`ClosedBut`). A class that is met again adds nothing even
where it is one of these, and at the end none is left.

So an index into which classes are entered answers the record of each class in their lineages
(`classNamed_enterAll_of_mem`), whatever it answered before, and what it answered before under any
other name (`classNamed_enterAll_of_notMem`). Which of the classes came first, how often one came,
and which declarations came between them does not matter (`run_eq`).
-/

namespace ChannelSerde

namespace Enrolment

open ClassDef (lineages NamedApart HasBase mem_lineages mem_lineages_of_mem base_mem_lineages)

variable {e e' : Enrolment} {c : ClassDef} {cs ds : List ClassDef}

/-! ## Entering class by class -/

theorem passes_iff : e.passes c = true ↔ c.isRoot = true ∨ c.key ∈ e.known := by
  rw [passes, Bool.or_eq_true, List.contains_iff_mem]

theorem isRoot_of_not_passes (h : e.passes c = false) : c.isRoot = false :=
  (Bool.or_eq_false_iff.mp h).1

theorem passes_of_subset (h : e.known ⊆ e'.known) (hc : e.passes c = true) : e'.passes c = true :=
  passes_iff.mpr ((passes_iff.mp hc).imp id fun hknown => h hknown)

theorem enter_of_passes (h : e.passes c = true) : e.enter c = e := by
  cases c
  exact if_pos h

theorem enter_of_not_passes (h : e.passes c = false) :
    e.enter c = (e.record c).enterAll c.bases := by
  cases c
  exact if_neg (Bool.not_eq_true _ ▸ h)

/-- **Induction over entering classes**: the first of them need not be entered, or it is recorded,
then its bases are entered, and then the others. -/
theorem enterAll_induction {motive : Enrolment → List ClassDef → Prop}
    (nil : ∀ e, motive e [])
    (pass : ∀ e c rest, e.passes c = true → motive e rest → motive e (c :: rest))
    (enter : ∀ e c rest, e.passes c = false → motive (e.record c) c.bases →
      motive ((e.record c).enterAll c.bases) rest → motive e (c :: rest))
    (e : Enrolment) (cs : List ClassDef) : motive e cs := by
  refine enterAll.induct (fun e c => ∀ rest, motive (e.enter c) rest → motive e (c :: rest)) motive
    (fun e number name bases hpass rest ih => ?_) (fun e number name bases hnew ihbases rest ih => ?_)
    nil (fun e c rest ihc ih => ihc rest ih) e cs
  · rw [enter_of_passes hpass] at ih
    exact pass e _ rest hpass ih
  · have hnew' : e.passes (.mk number name bases) = false := Bool.not_eq_true _ ▸ hnew
    rw [enter_of_not_passes hnew'] at ih
    exact enter e _ rest hnew' ihbases ih

theorem enterAll_of_passes {rest : List ClassDef} (h : e.passes c = true) :
    e.enterAll (c :: rest) = e.enterAll rest :=
  congrArg (enterAll · rest) (enter_of_passes h)

theorem enterAll_of_not_passes {rest : List ClassDef} (h : e.passes c = false) :
    e.enterAll (c :: rest) = ((e.record c).enterAll c.bases).enterAll rest :=
  congrArg (enterAll · rest) (enter_of_not_passes h)

/-- **What recording a class of the lineages preserves, entering preserves.** -/
theorem enterAll_preserves {P : Enrolment → Prop}
    (hrecord : ∀ e, ∀ c ∈ lineages cs, c.isRoot = false → P e → P (e.record c)) (he : P e) :
    P (e.enterAll cs) := by
  induction e, cs using enterAll_induction with
  | nil e => exact he
  | pass e c rest hpass ih =>
    rw [enterAll_of_passes hpass]
    exact ih (fun e d hd => hrecord e d (List.mem_append_right _ hd)) he
  | enter e c rest hnew ihbases ih =>
    have hc : c ∈ lineages (c :: rest) := mem_lineages_of_mem List.mem_cons_self
    have hbases : lineages c.bases ⊆ lineages (c :: rest) :=
      ClassDef.lineages_subset fun b hb => base_mem_lineages hc hb
    rw [enterAll_of_not_passes hnew]
    refine ih (fun e d hd => hrecord e d (List.mem_append_right _ hd)) ?_
    exact ihbases (fun e d hd => hrecord e d (hbases hd))
      (hrecord e c hc (isRoot_of_not_passes hnew) he)

theorem known_subset_enterAll (e : Enrolment) (cs : List ClassDef) :
    e.known ⊆ (e.enterAll cs).known :=
  enterAll_preserves (P := fun e' => e.known ⊆ e'.known)
    (fun _ _ _ _ h _ hk => List.mem_cons_of_mem _ (h hk)) (List.Subset.refl _)

/-- **Classes that have been entered need not be entered again.** -/
theorem passes_enterAll (e : Enrolment) (cs : List ClassDef) :
    ∀ c ∈ cs, (e.enterAll cs).passes c = true := by
  induction e, cs using enterAll_induction with
  | nil e => exact fun c hc => absurd hc List.not_mem_nil
  | pass e c rest hpass ih =>
    rw [enterAll_of_passes hpass]
    intro d hd
    obtain rfl | hd := List.mem_cons.mp hd
    · exact passes_of_subset (known_subset_enterAll e rest) hpass
    · exact ih d hd
  | enter e c rest hnew ihbases ih =>
    rw [enterAll_of_not_passes hnew]
    intro d hd
    obtain rfl | hd := List.mem_cons.mp hd
    · refine passes_iff.mpr (.inr ?_)
      exact known_subset_enterAll _ rest (known_subset_enterAll _ _ List.mem_cons_self)
    · exact ih d hd

/-! ## Closed under bases -/

/-- **Closed but for pending classes**: the bases of every known class of the lineages need not be
entered any more, unless it is being entered. -/
def ClosedBut (pending cs : List ClassDef) (e : Enrolment) : Prop :=
  ∀ c ∈ lineages cs, c.key ∈ e.known → c ∈ pending ∨ ∀ b ∈ c.bases, e.passes b = true

theorem ClosedBut.record {pending : List ClassDef} (hapart : NamedApart cs)
    (hc : c ∈ lineages cs) (h : e.ClosedBut pending cs) :
    (e.record c).ClosedBut (c :: pending) cs := by
  intro d hd hknown
  obtain hkey | hknown := List.mem_cons.mp hknown
  · have hdc : d = c := hapart.eq hd hc (ClassDef.name_eq_of_key_eq hkey)
    exact .inl (hdc ▸ List.mem_cons_self)
  · refine (h d hd hknown).imp (List.mem_cons_of_mem c) fun hbases b hb => ?_
    exact passes_of_subset (List.subset_cons_self _ _) (hbases b hb)

/-- A class is pending no more when its bases have been entered. -/
theorem ClosedBut.done {pending : List ClassDef} (h : e.ClosedBut (c :: pending) cs)
    (hbases : ∀ b ∈ c.bases, e.passes b = true) : e.ClosedBut pending cs := by
  intro d hd hknown
  obtain hpending | hd := h d hd hknown
  · obtain rfl | hpending := List.mem_cons.mp hpending
    · exact .inr hbases
    · exact .inl hpending
  · exact .inr hd

/-- **Entering classes leaves no more pending than there were.** -/
theorem ClosedBut.enterAll {pending : List ClassDef} (hapart : NamedApart ds)
    (hcs : cs ⊆ lineages ds) (h : e.ClosedBut pending ds) :
    (e.enterAll cs).ClosedBut pending ds := by
  induction e, cs using enterAll_induction generalizing pending with
  | nil e => exact h
  | pass e c rest hpass ih =>
    rw [enterAll_of_passes hpass]
    exact ih (fun d hd => hcs (List.mem_cons_of_mem c hd)) h
  | enter e c rest hnew ihbases ih =>
    have hc : c ∈ lineages ds := hcs List.mem_cons_self
    have hbases : ((e.record c).enterAll c.bases).ClosedBut (c :: pending) ds :=
      ihbases (fun b hb => base_mem_lineages hc hb) (h.record hapart hc)
    rw [enterAll_of_not_passes hnew]
    exact ih (fun d hd => hcs (List.mem_cons_of_mem c hd)) (hbases.done (passes_enterAll _ _))

/-- **All that classes derive from has been entered** with them. -/
theorem passes_of_mem_lineages (hapart : NamedApart cs) (i : Index) (hc : c ∈ lineages cs) :
    ((start i).enterAll cs).passes c = true := by
  have hclosed : ((start i).enterAll cs).ClosedBut [] cs :=
    ClosedBut.enterAll hapart (fun _ => mem_lineages_of_mem)
      fun _ _ hknown => absurd hknown List.not_mem_nil
  obtain ⟨d, hd, hdc⟩ := mem_lineages.mp hc
  rw [ClassDef.mem_lineage_iff] at hdc
  clear hc
  induction hdc with
  | refl => exact passes_enterAll _ cs d hd
  | @tail x b hdx hb ih =>
    have hx : x ∈ lineages cs := mem_lineages.mpr ⟨d, hd, ClassDef.mem_lineage_iff.mpr hdx⟩
    obtain hroot | hknown := passes_iff.mp ih
    · exact absurd hroot (Bool.not_eq_true _ ▸ hapart.isRoot_eq_false hx hb)
    · exact (hclosed x hx hknown).resolve_left List.not_mem_nil b hb

/-! ## What the index answers -/

/-- **An index into which classes are entered answers their records**, and those of all that they
derive from, the root left out, whatever it answered before. -/
theorem classNamed_enterAll_of_mem (hapart : NamedApart cs) (i : Index) (hc : c ∈ lineages cs)
    (hroot : c.isRoot = false) :
    ((start i).enterAll cs).index.classNamed c.name = some c.info := by
  have hrecorded : ∀ d ∈ lineages cs, d.key ∈ ((start i).enterAll cs).known →
      ((start i).enterAll cs).index.classNamed d.name = some d.info := by
    refine enterAll_preserves (P := fun e => ∀ d ∈ lineages cs, d.key ∈ e.known →
      e.index.classNamed d.name = some d.info) (fun e b hb _ he d hd hknown => ?_)
      fun _ _ hknown => absurd hknown List.not_mem_nil
    by_cases hname : d.name = b.name
    · rw [hapart.eq hd hb hname]
      exact OrderedMap.get?_insert_self _ _ _
    · have hkey : d.key ∈ e.known :=
        (List.mem_cons.mp hknown).resolve_left fun h => hname (ClassDef.name_eq_of_key_eq h)
      exact (OrderedMap.get?_insert_of_ne _ hname _).trans (he d hd hkey)
  have hpass := passes_of_mem_lineages hapart i hc
  exact hrecorded c hc ((passes_iff.mp hpass).resolve_left (Bool.not_eq_true _ ▸ hroot))

theorem classNamed_enterAll_of_notMem {name : String}
    (h : ∀ c ∈ lineages cs, c.isRoot = false → c.name ≠ name) (e : Enrolment) :
    (e.enterAll cs).index.classNamed name = e.index.classNamed name :=
  enterAll_preserves (P := fun e' => e'.index.classNamed name = e.index.classNamed name)
    (fun e' c hc hroot he =>
      (OrderedMap.get?_insert_of_ne e'.index.classes (h c hc hroot).symm c.info).trans he) rfl

theorem declarations_enterAll (e : Enrolment) (cs : List ClassDef) :
    (e.enterAll cs).index.declarations = e.index.declarations :=
  enterAll_preserves (P := fun e' => e'.index.declarations = e.index.declarations)
    (fun _ _ _ _ he => he) rfl

/-! ## Entries -/

theorem enterAll_declare (e : Enrolment) (s : Site) (cs : List ClassDef) :
    (e.declare s).enterAll cs = (e.enterAll cs).declare s := by
  induction e, cs using enterAll_induction with
  | nil e => rfl
  | pass e c rest hpass ih =>
    have hpass' : (e.declare s).passes c = true := hpass
    rw [enterAll_of_passes hpass, enterAll_of_passes hpass', ih]
  | enter e c rest hnew ihbases ih =>
    have hnew' : (e.declare s).passes c = false := hnew
    rw [enterAll_of_not_passes hnew, enterAll_of_not_passes hnew', ← ih, ← ihbases]
    rfl

end Enrolment

/-- The classes among entries. -/
def Entry.classes (es : List Entry) : List ClassDef :=
  es.filterMap fun
    | .ofClass c => some c
    | .site _ => none

/-- The declarations among entries. -/
def Entry.sites (es : List Entry) : List Site :=
  es.filterMap fun
    | .ofClass _ => none
    | .site s => some s

namespace Enrolment

/-- **Entries make what their classes and their declarations make**, each kind by itself. -/
theorem run_eq (e : Enrolment) (es : List Entry) :
    e.run es = (Entry.sites es).foldl declare (e.enterAll (Entry.classes es)) := by
  induction es generalizing e with
  | nil => rfl
  | cons entry es ih =>
    cases entry with
    | ofClass c => exact ih (e.enter c)
    | site s =>
      show (e.declare s).run es = _
      rw [ih, enterAll_declare]
      rfl

theorem run_map_ofClass (e : Enrolment) (cs : List ClassDef) :
    e.run (cs.map .ofClass) = e.enterAll cs := by
  induction cs generalizing e with
  | nil => rfl
  | cons c cs ih => exact ih (e.enter c)

theorem foldl_declare (e : Enrolment) (sites : List Site) :
    (sites.foldl declare e).index = sites.foldl Index.addSite e.index := by
  induction sites generalizing e with
  | nil => rfl
  | cons s sites ih => exact ih (e.declare s)

end Enrolment

/-! ## The index with entries -/

namespace Index

open ClassDef (lineages NamedApart mem_lineages_of_mem)

variable {es fs : List Entry} {c : ClassDef}

/-- **An index with entries.** -/
def enter (i : Index) (es : List Entry) : Index := ((Enrolment.start i).run es).index

/-- Its classes come from those among the entries, and its declarations from the others. -/
theorem enter_eq (i : Index) (es : List Entry) :
    i.enter es = { ((Enrolment.start i).enterAll (Entry.classes es)).index with
      declarations := (Entry.sites es).foldl OrderedSet.insert i.declarations } := by
  unfold enter
  rw [Enrolment.run_eq, Enrolment.foldl_declare, foldl_addSite, Enrolment.declarations_enterAll]
  rfl

/-- **An index answers the record of each class that was entered**, directly or as a base. -/
theorem classNamed_enter_of_mem (hapart : NamedApart (Entry.classes es)) (i : Index)
    (hc : c ∈ lineages (Entry.classes es)) (hroot : c.isRoot = false) :
    (i.enter es).classNamed c.name = some c.info := by
  rw [enter_eq]
  exact Enrolment.classNamed_enterAll_of_mem hapart i hc hroot

theorem classNamed_enter_of_notMem {name : String}
    (h : ∀ c ∈ lineages (Entry.classes es), c.isRoot = false → c.name ≠ name) (i : Index) :
    (i.enter es).classNamed name = i.classNamed name := by
  rw [enter_eq]
  exact Enrolment.classNamed_enterAll_of_notMem h (Enrolment.start i)

/-- **What an index answers under a name** is the record of a class that was entered, or what it
answered before, if none of that name was. -/
theorem classNamed_enter_cases (hapart : NamedApart (Entry.classes es)) (i : Index)
    (name : String) :
    (∃ c ∈ lineages (Entry.classes es), c.isRoot = false ∧ c.name = name
        ∧ (i.enter es).classNamed name = some c.info)
      ∨ (∀ c ∈ lineages (Entry.classes es), c.isRoot = false → c.name ≠ name)
        ∧ (i.enter es).classNamed name = i.classNamed name := by
  by_cases h : ∃ c ∈ lineages (Entry.classes es), c.isRoot = false ∧ c.name = name
  · obtain ⟨c, hc, hroot, rfl⟩ := h
    exact .inl ⟨c, hc, hroot, rfl, classNamed_enter_of_mem hapart i hc hroot⟩
  · have hnone : ∀ c ∈ lineages (Entry.classes es), c.isRoot = false → c.name ≠ name :=
      fun c hc hroot hname => h ⟨c, hc, hroot, hname⟩
    exact .inr ⟨hnone, classNamed_enter_of_notMem hnone i⟩

end Index

end ChannelSerde
