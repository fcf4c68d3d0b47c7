import Mathlib.Data.List.Basic
import ChannelSerde.Proofs.Declaration.Edits
import ChannelSerde.Proofs.Declaration.Shelf

/-!
# What an index holds

Detection and conversion take an index at its word: that it lists each declaration once, that it
files each class under its name, that it finds every marker. What these words come to is said here
by what was done to the index and by nothing else. Of the classes that were added under one name the
last one counts, at the place of the first; of equal declarations the first one counts, and an
exchange of the declarations forgets those of before (`Index.Holds`).

Where there are several indexes, each of them has a history of its own. A copy starts with the
history of what it is copied from, and from then on the two have nothing to do with each other. So
the indexes side by side are those of their histories, whatever is done (`Shelf.run_eq_shelf`).
-/

namespace ChannelSerde

namespace Index

/-! ## What was added -/

/-- The class that a change adds. -/
def Edit.addedClass? : Edit → Option ClassRecord
  | .addClass c => some c
  | .addSite _ | .withSites _ => none

/-- **The classes that changes add**, in order. -/
def addedClasses (edits : List Edit) : List ClassRecord := edits.filterMap Edit.addedClass?

/-- The declarations that are given after a change, if some were given before it. -/
def Edit.given (sites : List Site) : Edit → List Site
  | .addClass _ => sites
  | .addSite s => sites ++ [s]
  | .withSites others => others

/-- **The declarations that changes give**, in order and with repetitions: those of the last
exchange and those that were added after it. -/
def givenSites (edits : List Edit) : List Site := edits.foldl Edit.given []

theorem ofEdits_concat (edits : List Edit) (e : Edit) :
    ofEdits (edits ++ [e]) = (ofEdits edits).edit e := by
  unfold ofEdits
  rw [List.foldl_append]
  rfl

/-- **The classes of an index** are those that were added, each under its name. -/
theorem classes_ofEdits (edits : List Edit) :
    (ofEdits edits).classes = .ofList ((addedClasses edits).map fun c => (c.name, c)) := by
  have hall : ∀ i : Index, (edits.foldl edit i).classes
      = i.classes.insertAll ((addedClasses edits).map fun c => (c.name, c)) := by
    induction edits with
    | nil => exact fun i => rfl
    | cons e edits ih =>
      intro i
      cases e with
      | addClass c => exact ih (i.addClass c)
      | addSite s => exact ih (i.addSite s)
      | withSites sites => exact ih (i.withSites sites)
  exact hall empty

/-- **The declarations of an index** are those that were given. -/
theorem declarations_ofEdits (edits : List Edit) :
    (ofEdits edits).declarations = .ofList (givenSites edits) := by
  have hall : ∀ (i : Index) (sites : List Site), i.declarations = .ofList sites →
      (edits.foldl edit i).declarations = .ofList (edits.foldl Edit.given sites) := by
    induction edits with
    | nil => exact fun i sites h => h
    | cons e edits ih =>
      intro i sites h
      cases e with
      | addClass c => exact ih (i.addClass c) sites h
      | addSite s =>
        refine ih (i.addSite s) (sites ++ [s]) ?_
        rw [OrderedSet.ofList, List.foldl_append]
        exact congrArg (OrderedSet.insert · s) h
      | withSites others => exact ih (i.withSites others) others rfl
  exact hall empty [] rfl

/-- **The record of a class** is the one that was added last under its name. -/
theorem classNamed_ofEdits_eq_some_iff (edits : List Edit) (name : String) (c : ClassRecord) :
    (ofEdits edits).classNamed name = some c
      ↔ ∃ front back, addedClasses edits = front ++ c :: back ∧ c.name = name
          ∧ ∀ d ∈ back, d.name ≠ name := by
  rw [classNamed, classes_ofEdits, OrderedMap.get?_ofList_eq_some_iff]
  constructor
  · rintro ⟨front, back, hsplit, hback⟩
    obtain ⟨fs, rest, hadded, rfl, hrest⟩ := List.map_eq_append_iff.mp hsplit
    obtain ⟨d, bs, rfl, hd, rfl⟩ := List.map_eq_cons_iff.mp hrest
    obtain ⟨hname, rfl⟩ := Prod.mk.inj hd
    refine ⟨fs, bs, hadded, hname, fun e he hne => hback ?_⟩
    rw [List.map_map]
    exact List.mem_map.mpr ⟨e, he, hne⟩
  · rintro ⟨front, back, hadded, rfl, hback⟩
    refine ⟨front.map fun c => (c.name, c), back.map fun c => (c.name, c), ?_, ?_⟩
    · rw [hadded, List.map_append, List.map_cons]
    · rw [List.map_map]
      rintro hmem
      obtain ⟨d, hd, hne⟩ := List.mem_map.mp hmem
      exact hback d hd hne

/-! ## Where markers stand -/

/-- **A marker of a name stands at a place**: the place of its declaration, and its own on that. -/
structure StandsAt (sites : List Site) (name : String) (place : ℕ × ℕ) (u : Usage) : Prop where
  site : sites[place.1]? = some u.site
  marker : u.site.markers[place.2]? = some u.marker
  name_eq : u.marker.name = name

/-- The uses of the markers of a name, each with its place. -/
def placedUsages (sites : List Site) (name : String) : List ((ℕ × ℕ) × Usage) :=
  sites.zipIdx.flatMap fun s =>
    (s.1.markers.zipIdx.filter (·.1.name == name)).map fun m => ((s.2, m.2), ⟨m.1, s.1⟩)

/-- Without their places, they are what an index answers. -/
theorem map_snd_placedUsages (sites : List Site) (name : String) :
    (placedUsages sites name).map Prod.snd = usagesIn sites name := by
  have hmarkers : ∀ s : Site,
      (s.markers.zipIdx.filter (·.1.name == name)).map (fun m => (⟨m.1, s⟩ : Usage))
        = (s.markers.filter (·.name == name)).map fun m => ⟨m, s⟩ := by
    intro s
    conv_rhs => rw [← List.zipIdx_map_fst 0 s.markers, List.filter_map, List.map_map]
    rfl
  unfold placedUsages usagesIn
  conv_rhs => rw [← List.zipIdx_map_fst 0 sites, List.flatMap_map]
  rw [List.map_flatMap]
  refine List.flatMap_congr fun e _ => ?_
  rw [List.map_map]
  exact hmarkers e.1

/-- A use is found at each place where a marker of the name stands, and nowhere else. -/
theorem mem_placedUsages {sites : List Site} {name : String} {place : ℕ × ℕ} {u : Usage} :
    (place, u) ∈ placedUsages sites name ↔ StandsAt sites name place u := by
  unfold placedUsages
  rw [List.mem_flatMap]
  constructor
  · rintro ⟨⟨s, j⟩, hs, hmem⟩
    obtain ⟨⟨m, k⟩, hm, heq⟩ := List.mem_map.mp hmem
    obtain ⟨rfl, rfl⟩ := Prod.mk.inj heq
    obtain ⟨hm, hname⟩ := List.mem_filter.mp hm
    exact ⟨List.mem_zipIdx_iff_getElem?.mp hs, List.mem_zipIdx_iff_getElem?.mp hm,
      beq_iff_eq.mp hname⟩
  · intro h
    refine ⟨(u.site, place.1), List.mem_zipIdx_iff_getElem?.mpr h.site,
      List.mem_map.mpr ⟨(u.marker, place.2), List.mem_filter.mpr ⟨?_, ?_⟩, rfl⟩⟩
    · exact List.mem_zipIdx_iff_getElem?.mpr h.marker
    · exact beq_iff_eq.mpr h.name_eq

theorem pairwise_zipIdx {α : Type} (as : List α) : as.zipIdx.Pairwise fun a b => a.2 < b.2 := by
  have hplaces : (as.zipIdx.map Prod.snd).Pairwise (· < ·) := by
    rw [List.zipIdx_map_snd]
    exact List.pairwise_lt_range'
  exact List.pairwise_map.mp hplaces

/-- **The uses are found in order**: by declaration, and on one declaration by marker. -/
theorem pairwise_placedUsages (sites : List Site) (name : String) :
    (placedUsages sites name).Pairwise fun a b => Prod.Lex (· < ·) (· < ·) a.1 b.1 := by
  unfold placedUsages
  refine List.pairwise_flatMap.mpr
    ⟨fun e _ => ?_, (pairwise_zipIdx sites).imp fun h a ha b hb => ?_⟩
  · refine List.pairwise_map.mpr (((pairwise_zipIdx e.1.markers).filter _).imp fun h => ?_)
    exact Prod.Lex.right e.2 h
  · obtain ⟨m, -, rfl⟩ := List.mem_map.mp ha
    obtain ⟨m', -, rfl⟩ := List.mem_map.mp hb
    exact Prod.Lex.left _ _ h

/-! ## What an index holds -/

/-- **An index holds what changes give.** -/
structure Holds (i : Index) (edits : List Edit) : Prop where
  /-- No declaration is listed twice. -/
  distinct : i.declarations.toList.Nodup
  /-- The declarations are those that were given, in the order in which they were given first. -/
  declared : i.declarations.IsOrderOf (givenSites edits)
  /-- The names are those of the classes that were added, in the order in which they were added
  first. -/
  named : i.classes.keySet.IsOrderOf ((addedClasses edits).map (·.name))
  /-- The classes are listed by their names. -/
  listed : i.classes.values.map (·.name) = i.classes.keys
  /-- The record of a class is the one that was added last under its name. -/
  last : ∀ name c, i.classNamed name = some c
    ↔ ∃ front back, addedClasses edits = front ++ c :: back ∧ c.name = name
        ∧ ∀ d ∈ back, d.name ≠ name
  /-- The markers of a name are found at each place where one stands, place by place. -/
  found : ∀ name, ∃ places : List ((ℕ × ℕ) × Usage), places.map Prod.snd = i.usages name
    ∧ (places.Pairwise fun a b => Prod.Lex (· < ·) (· < ·) a.1 b.1)
    ∧ ∀ place u, (place, u) ∈ places ↔ StandsAt i.declarations.toList name place u

theorem IsFiled.map_name_values {i : Index} (h : i.IsFiled) :
    i.classes.values.map (·.name) = i.classes.keys := by
  rw [OrderedMap.values, List.map_map]
  refine List.map_congr_left fun e he => ?_
  exact h e.1 e.2 ((OrderedMap.get?_eq_some_iff _ e.1 e.2).mpr he)

/-- **An index holds what was done to it.** -/
theorem holds_ofEdits (edits : List Edit) : (ofEdits edits).Holds edits where
  distinct := (ofEdits edits).declarations.nodup
  declared := by
    rw [declarations_ofEdits]
    exact OrderedSet.IsOrderOf.ofList _
  named := by
    have hnames : ((addedClasses edits).map fun c => (c.name, c)).map Prod.fst
        = (addedClasses edits).map (·.name) := by
      rw [List.map_map]
      rfl
    rw [classes_ofEdits, OrderedMap.keySet_ofList, hnames]
    exact OrderedSet.IsOrderOf.ofList _
  listed := (isFiled_ofEdits edits).map_name_values
  last := classNamed_ofEdits_eq_some_iff edits
  found name := ⟨placedUsages (ofEdits edits).declarations.toList name,
    map_snd_placedUsages _ name, pairwise_placedUsages _ name, fun _ _ => mem_placedUsages⟩

end Index

namespace Shelf

/-! ## Histories side by side -/

/-- **What was done to each index** of those side by side. -/
abbrev Histories := List (List Index.Edit)

/-- What was done after one act more. What is made of an index starts with the history of that. -/
def Histories.next (hs : Histories) : Act → Histories
  | .addClass n c => hs.modify n (· ++ [.addClass c])
  | .addSite n s => hs.modify n (· ++ [.addSite s])
  | .copy n sites => hs ++ (hs[n]?.map (· ++ [.withSites sites])).toList
  | .convert n rules => hs ++ (hs[n]?.map fun edits => edits
      ++ [.withSites ((Index.ofEdits edits).declarations.toList.map (·.convert rules))]).toList

/-- **What was done by some acts**, if there was one index at first, without symbols. -/
def Histories.ofActs (acts : List Act) : Histories := acts.foldl next [[]]

/-- The indexes that come about. -/
def Histories.shelf (hs : Histories) : Shelf := hs.map fun edits => .own (.ofEdits edits)

/-- A change of one index is one change more in its history. -/
theorem shelf_modify (hs : Histories) (n : Nat) (e : Index.Edit) {f : Index → Index}
    (hf : ∀ i, f i = i.edit e) :
    Histories.shelf (hs.modify n (· ++ [e])) = hs.shelf.modify n (.editHeld f) := by
  refine List.ext_getElem? fun k => ?_
  unfold Histories.shelf
  rw [List.getElem?_map, List.getElem?_modify, List.getElem?_modify, List.getElem?_map]
  cases hs[k]? with
  | none => rfl
  | some edits =>
    by_cases hk : n = k
    · simp [hk, Index.ofEdits_concat, AnyIndex.editHeld, hf]
    · simp [hk]

/-- **The indexes are those of their histories** after an act, if they are before it. -/
theorem shelf_next (hs : Histories) (act : Act) : hs.shelf.next act = (hs.next act).shelf := by
  have hmade : ∀ (n : Nat) (make : AnyIndex → Option AnyIndex) (e : List Index.Edit → Index.Edit),
      (∀ edits, make (.own (.ofEdits edits)) = some (.own (.ofEdits (edits ++ [e edits])))) →
      hs.shelf ++ (hs.shelf[n]?.bind make).toList
        = Histories.shelf (hs ++ (hs[n]?.map fun edits => edits ++ [e edits]).toList) := by
    intro n make e hmake
    unfold Histories.shelf
    rw [List.map_append, List.getElem?_map]
    cases hs[n]? with
    | none => rfl
    | some edits =>
      show _ ++ (make (.own (.ofEdits edits))).toList = _
      rw [hmake]
      rfl
  cases act with
  | addClass n c => exact (shelf_modify hs n (.addClass c) fun _ => rfl).symm
  | addSite n s => exact (shelf_modify hs n (.addSite s) fun _ => rfl).symm
  | copy n sites =>
    refine hmade n (·.copyWith? sites) (fun _ => .withSites sites) fun edits => ?_
    rw [Index.ofEdits_concat]
    rfl
  | convert n rules =>
    rw [next, Option.map_eq_bind]
    refine hmade n _ _ fun edits => ?_
    rw [Index.ofEdits_concat]
    rfl

/-- **The indexes side by side are those of their histories**, whatever is done. -/
theorem run_eq_shelf (acts : List Act) :
    run [.own .empty] acts = (Histories.ofActs acts).shelf := by
  have hall : ∀ hs : Histories, hs.shelf.run acts = (acts.foldl Histories.next hs).shelf := by
    induction acts with
    | nil => exact fun hs => rfl
    | cons act acts ih =>
      intro hs
      show (hs.shelf.next act).run acts = _
      rw [shelf_next, ih]
      rfl
  exact hall [[]]

theorem next_copy {shelf : Shelf} {n : Nat} {i : Index} (hi : shelf[n]? = some (.own i))
    (sites : List Site) : shelf.next (.copy n sites) = shelf ++ [.own (i.withSites sites)] := by
  rw [next, hi]
  rfl

/-- **Indexes hold what was done to them.** Whatever is done, with one index and with others that
are made of it, each of them has a history and holds what that gives: no declaration twice, those
that were given in the order in which they were given first; no class twice, the names in the order
in which they were added first, the record that was added last under a name; and for every name the
markers of that name, each as often as it stands somewhere, by declaration and then by marker.

A copy with other declarations has the classes of the index that it is copied from, in the same
order, as if they had been added to a new one, and the other declarations without repetitions. The
index that it is copied from is the same after that, and remains so until something is added to
it. -/
theorem holds_what_was_added (acts : List Act) :
    let shelf := run [.own .empty] acts
    let histories := Histories.ofActs acts
    shelf.length = histories.length
      ∧ ∀ n edits, histories[n]? = some edits →
        ∃ i, shelf[n]? = some (.own i) ∧ i.Holds edits
          ∧ ∀ sites,
            let copied := shelf.next (.copy n sites)
            (∃ copy, copied = shelf ++ [.own copy] ∧ copy = .ofLists i.classes.values sites
                ∧ copy.classes = i.classes ∧ copy.declarations.IsOrderOf sites)
              ∧ ∀ more : List Act, (∀ act ∈ more, act.changed? ≠ some n) →
                (copied.run more)[n]? = some (.own i) := by
  intro shelf histories
  have hshelf : shelf = histories.shelf := run_eq_shelf acts
  refine ⟨by rw [hshelf, Histories.shelf, List.length_map], fun n edits hn => ?_⟩
  have hi : shelf[n]? = some (.own (.ofEdits edits)) := by
    rw [hshelf, Histories.shelf, List.getElem?_map, hn]
    rfl
  refine ⟨_, hi, Index.holds_ofEdits edits, fun sites => ⟨⟨_, next_copy hi sites, ?_, rfl, ?_⟩,
    fun more hmore => ?_⟩⟩
  · exact ((Index.isFiled_ofEdits edits).ofLists_values sites).symm
  · exact OrderedSet.IsOrderOf.ofList sites
  · have hcopied : (shelf.next (.copy n sites))[n]? = some (.own (.ofEdits edits)) := by
      obtain ⟨hlt, -⟩ := List.getElem?_eq_some_iff.mp hi
      exact (getElem?_next hlt (by simp [Act.changed?])).trans hi
    exact getElem?_run hcopied hmore

/-- An index is copied, and then a class is added to it again, under another base. The copy keeps
the record that was there. -/
theorem holds_what_was_added_copied :
    let old : ClassRecord := ⟨"app.Order", some rootClass, [], .ofClass⟩
    let new : ClassRecord := ⟨"app.Order", some "app.Event", [], .ofClass⟩
    let s : Site :=
      { kind := .field, owner := "app.Shop", name := "orders", type := .void, parameters := []
        markers := [⟨Marker.channel, "orders"⟩], position := none }
    let acts : List Act :=
      [.addClass 0 old, .addSite 0 s, .copy 0 [s, s], .addClass 0 new, .addSite 0 s]
    ∃ i copy, (run [.own .empty] acts)[0]? = some (.own i)
      ∧ (run [.own .empty] acts)[1]? = some (.own copy)
      ∧ i.classNamed "app.Order" = some new ∧ copy.classNamed "app.Order" = some old
      ∧ (∀ t, t ∈ copy.declarations ↔ t ∈ [s, s]) := by
  intro old new s acts
  obtain ⟨i, hi, hheld, -⟩ := (holds_what_was_added acts).2 0
    [.addClass old, .addSite s, .addClass new, .addSite s] rfl
  obtain ⟨copy, hcopy, hcopied, -⟩ := (holds_what_was_added acts).2 1
    [.addClass old, .addSite s, .withSites [s, s]] rfl
  refine ⟨i, copy, hi, hcopy, (hheld.last _ _).mpr ⟨[old], [], rfl, rfl, ?_⟩,
    (hcopied.last _ _).mpr ⟨[], [], rfl, rfl, ?_⟩, hcopied.declared.mem_iff⟩
  · simp
  · simp

end Shelf

end ChannelSerde
