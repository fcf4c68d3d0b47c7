import ChannelSerde.Declaration.Index

/-!
# How an index comes about

An index of this library starts without symbols. Classes and declarations are added to it, in any
order, and its declarations are exchanged for others. Whatever is done, each class stays filed under
its own name, so the name under which a class is found is the one that it bears.

An index that is made of a list of classes and one of declarations is the case in which the two do
not mix: each part depends on its own list (`Index.ofLists_eq`).
-/

namespace ChannelSerde

namespace Index

/-- **A change of an index.** -/
inductive Edit where
  | addClass (c : ClassRecord)
  | addSite (s : Site)
  | withSites (sites : List Site)

/-- The index after a change. -/
def edit (i : Index) : Edit → Index
  | .addClass c => i.addClass c
  | .addSite s => i.addSite s
  | .withSites sites => i.withSites sites

/-- **The index that comes about by changes.** -/
def ofEdits (edits : List Edit) : Index := edits.foldl edit empty

/-- **Each class is filed under its own name.** -/
def IsFiled (i : Index) : Prop := ∀ name c, i.classNamed name = some c → c.name = name

theorem IsFiled.addClass {i : Index} (h : i.IsFiled) (c : ClassRecord) : (i.addClass c).IsFiled := by
  intro name d hd
  unfold classNamed Index.addClass at hd
  by_cases hname : name = c.name
  · subst hname
    rw [OrderedMap.get?_insert_self] at hd
    rw [Option.some.inj hd]
  · rw [OrderedMap.get?_insert_of_ne _ hname] at hd
    exact h name d hd

/-- **Each class of an index is filed under its own name**, however the index came about. -/
theorem isFiled_ofEdits (edits : List Edit) : (ofEdits edits).IsFiled := by
  refine List.foldlRecOn edits edit (fun name c hc => ?_) fun i hi e _ => ?_
  · exact absurd hc (Option.some_ne_none c).symm
  · cases e with
    | addClass c => exact hi.addClass c
    | addSite s => exact hi
    | withSites sites => exact hi

/-! ## Indexes that are made of lists -/

theorem declarations_foldl_addClass (classes : List ClassRecord) (i : Index) :
    (classes.foldl addClass i).declarations = i.declarations := by
  induction classes generalizing i with
  | nil => rfl
  | cons c classes ih => exact ih (i.addClass c)

theorem foldl_addSite (sites : List Site) (i : Index) :
    sites.foldl addSite i = { i with declarations := sites.foldl OrderedSet.insert i.declarations } := by
  induction sites generalizing i with
  | nil => rfl
  | cons t sites ih => exact ih (i.addSite t)

/-- **An index that is made of lists** has the declarations of the one and, whichever these are, the
classes of the other. -/
theorem ofLists_eq (classes : List ClassRecord) (sites : List Site) :
    ofLists classes sites = ⟨(classes.foldl addClass empty).classes, .ofList sites⟩ := by
  unfold ofLists
  rw [foldl_addSite, declarations_foldl_addClass]
  rfl

theorem classes_foldl_addClass (classes : List ClassRecord) (i : Index) :
    (classes.foldl addClass i).classes = i.classes.insertAll (classes.map fun c => (c.name, c)) := by
  induction classes generalizing i with
  | nil => rfl
  | cons c classes ih => exact ih (i.addClass c)

/-- **An index that is made of the classes of another** has the same classes, in the same order, if
each of them is filed under its own name. -/
theorem IsFiled.ofLists_values {i : Index} (h : i.IsFiled) (sites : List Site) :
    ofLists i.classes.values sites = i.withSites sites := by
  have hentries : i.classes.values.map (fun c => (c.name, c)) = i.classes.entries := by
    rw [OrderedMap.values, List.map_map]
    refine (List.map_congr_left fun e he => ?_).trans (List.map_id _)
    have hname : e.2.name = e.1 := h e.1 e.2 ((OrderedMap.get?_eq_some_iff _ e.1 e.2).mpr he)
    exact Prod.ext hname rfl
  rw [ofLists_eq, classes_foldl_addClass, hentries]
  exact congrArg (Index.mk · _) (OrderedMap.ofList_entries i.classes)

end Index

end ChannelSerde
