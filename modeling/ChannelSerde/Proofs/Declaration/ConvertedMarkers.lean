import ChannelSerde.Proofs.Declaration.Edits
import ChannelSerde.Proofs.Declaration.PlainMarkers
import ChannelSerde.Proofs.Declaration.Shelf

/-!
# What converting does to markers

Converting a declaration puts its markers in another order and a marker that a rule makes only where
it does not stand yet, and declarations that become the same are one declaration of the converted
index. No marker is lost in this and none is invented: what stands where in the converted index is
what stood there before, each marker renamed by the first rule for its name (`bears_convert_iff`).
Nothing is asked of the rules, so they may be chained, stand there twice or lead back to where they
come from.

The converted declarations are in order of first occurrence, the classes are those of the index, and
the index itself stays as it was. All of it is put together in `converted_markers`.
-/

namespace ChannelSerde

variable {rules : List MarkerRule}

/-! ## Markers after the rules -/

/-- **What the rules make of a marker**: the first rule for its name gives it another name, and if
there is none it stays as it is. -/
inductive Renames (rules : List MarkerRule) (m : Marker) : Marker → Prop
  | byRule {front r back} (hrules : rules = front ++ r :: back) (hsource : r.source = m.name)
    (hfirst : ∀ q ∈ front, q.source ≠ m.name) : Renames rules m ⟨r.target, m.value⟩
  | byNone (hnone : ∀ q ∈ rules, q.source ≠ m.name) : Renames rules m m

theorem rename_value (rules : List MarkerRule) (m : Marker) : (rename rules m).value = m.value := by
  unfold rename
  cases ruleFor? rules m <;> rfl

theorem ruleFor?_eq_some_iff {m : Marker} {r : MarkerRule} :
    ruleFor? rules m = some r
      ↔ r.source = m.name
        ∧ ∃ front back, rules = front ++ r :: back ∧ ∀ q ∈ front, q.source ≠ m.name := by
  unfold ruleFor?
  rw [List.find?_eq_some_iff_append, beq_iff_eq, eq_comm]
  refine and_congr_right fun _ => exists_congr fun front => exists_congr fun back =>
    and_congr_right fun _ => forall₂_congr fun q _ => ?_
  rw [Bool.not_eq_true', beq_eq_false_iff_ne, ne_comm]

theorem ruleFor?_eq_none_iff {m : Marker} :
    ruleFor? rules m = none ↔ ∀ q ∈ rules, q.source ≠ m.name := by
  unfold ruleFor?
  rw [List.find?_eq_none]
  refine forall₂_congr fun q _ => ?_
  rw [beq_iff_eq, ne_comm]

/-- **A marker is renamed by the first rule for its name.** -/
theorem renames_iff {m m' : Marker} : Renames rules m m' ↔ rename rules m = m' := by
  constructor
  · rintro (⟨hrules, hsource, hfirst⟩ | hnone)
    · rw [rename, ruleFor?_eq_some_iff.mpr ⟨hsource, _, _, hrules, hfirst⟩]
    · exact rename_of_ruleFor?_eq_none (ruleFor?_eq_none_iff.mpr hnone)
  · rintro rfl
    unfold rename
    split
    · next r hr =>
      obtain ⟨hsource, front, back, hrules, hfirst⟩ := ruleFor?_eq_some_iff.mp hr
      exact .byRule hrules hsource hfirst
    · next hnone => exact .byNone (ruleFor?_eq_none_iff.mp hnone)

namespace Site

/-- **A declaration without its markers.** -/
def bare (site : Site) : Site := { site with markers := [] }

theorem convert_bare (rules : List MarkerRule) (site : Site) :
    (site.convert rules).bare = site.bare := by
  unfold convert
  split <;> rfl

end Site

/-! ## What stands where -/

/-- **A marker stands on a declaration** of some, whatever other markers do. -/
def Bears (sites : List Site) (m : Marker) (bare : Site) : Prop :=
  ∃ site ∈ sites, m ∈ site.markers ∧ site.bare = bare

namespace AnyIndex

/-- **The declarations of a converted index**: each of them converted, and none twice. -/
theorem declarations_convert (rules : List MarkerRule) (i : AnyIndex) :
    (i.convert rules).symbols.declarations
      = (OrderedSet.ofList (i.symbols.declarations.map (·.convert rules))).toList := by
  cases i <;> rfl

theorem mem_declarations_convert (rules : List MarkerRule) (i : AnyIndex) (site : Site) :
    site ∈ (i.convert rules).symbols.declarations
      ↔ ∃ site' ∈ i.symbols.declarations, site'.convert rules = site := by
  rw [declarations_convert, ← List.mem_map]
  exact OrderedSet.mem_ofList _ site

/-- **What stands where in a converted index** is what stood there before, renamed. -/
theorem bears_convert_iff (rules : List MarkerRule) (i : AnyIndex) (m : Marker) (bare : Site) :
    Bears (i.convert rules).symbols.declarations m bare
      ↔ ∃ m', Renames rules m' m ∧ Bears i.symbols.declarations m' bare := by
  constructor
  · rintro ⟨_, hsite, hm, rfl⟩
    obtain ⟨site, hsite', rfl⟩ := (mem_declarations_convert rules i _).mp hsite
    obtain ⟨m', hm', hrename⟩ := Site.mem_markers_convert.mp hm
    exact ⟨m', renames_iff.mpr hrename, site, hsite', hm', (site.convert_bare rules).symm⟩
  · rintro ⟨m', hrename, site, hsite, hm', rfl⟩
    exact ⟨site.convert rules, (mem_declarations_convert rules i _).mpr ⟨site, hsite, rfl⟩,
      Site.mem_markers_convert.mpr ⟨m', hm', renames_iff.mp hrename⟩, site.convert_bare rules⟩

/-- What a converted index holds is what an index holds that is made of the same classes and the
converted declarations, if the classes are filed under their own names. -/
theorem held_convert (rules : List MarkerRule) {i : AnyIndex} (h : i.held.IsFiled) :
    (i.convert rules).held
      = .ofLists i.held.classes.values (i.symbols.declarations.map (·.convert rules)) := by
  rw [h.ofLists_values]
  cases i <;> rfl

/-- **What converting does to an index**, one of this library or a foreign one, by any rules. What
stands where is what stood there before, with every marker renamed by the first rule for its name.
The declarations are the converted ones, none twice, in order of first occurrence. The classes are
the same in the same order, and if they are filed under their own names the index is the one that is
made of them and of the converted declarations. The index that is converted stays as it is, with
whatever is added afterwards to the new one and to others. -/
theorem converted_markers (rules : List MarkerRule) (i : AnyIndex) :
    let after := i.convert rules
    let converted := i.symbols.declarations.map (·.convert rules)
    (∀ m bare, Bears after.symbols.declarations m bare
        ↔ ∃ m', Renames rules m' m ∧ Bears i.symbols.declarations m' bare)
      ∧ (∀ site, site ∈ after.symbols.declarations ↔ site ∈ converted)
      ∧ after.symbols.declarations.Nodup
      ∧ (after.symbols.declarations.Pairwise fun a b => converted.idxOf a < converted.idxOf b)
      ∧ after.held.classes = i.held.classes
      ∧ (i.held.IsFiled → after.held = .ofLists i.held.classes.values converted)
      ∧ ∀ (shelf : Shelf) n, shelf[n]? = some i →
          shelf.next (.convert n rules) = shelf ++ [after]
            ∧ ∀ later, (∀ act ∈ later, act.changed? ≠ some n) →
                ((shelf ++ [after]).run later)[n]? = some i := by
  intro after converted
  have hlist : after.symbols.declarations = (OrderedSet.ofList converted).toList :=
    declarations_convert rules i
  have hset : (OrderedSet.ofList converted).IsOrderOf converted := .ofList converted
  rw [hlist]
  refine ⟨fun m bare => ?_, hset.mem_iff, (OrderedSet.ofList converted).nodup, hset.order, ?_,
    held_convert rules, fun shelf n hi => ⟨Shelf.next_convert hi rules, fun later hlater => ?_⟩⟩
  · rw [← hlist]
    exact bears_convert_iff rules i m bare
  · cases i <;> rfl
  · obtain ⟨hn, -⟩ := List.getElem?_eq_some_iff.mp hi
    exact Shelf.getElem?_run ((List.getElem?_append_left hn).trans hi) hlater

/-- A method with markers. -/
def markedMethod (markers : List Marker) : Site :=
  { kind := .method, owner := "app.Consumer", name := "consume", type := .void, parameters := []
    markers, position := none }

/-- Rules in a chain, one for a name that has one already and one that leads back: two methods that
are told apart by a marker that stands there twice become one. -/
theorem converted_markers_chained :
    let rules : List MarkerRule := [⟨"A", "B"⟩, ⟨"B", "C"⟩, ⟨"A", "D"⟩, ⟨"C", "C"⟩]
    let order : ClassRecord := ⟨"app.Order", some rootClass, [], .ofClass⟩
    let i := own (.ofEdits [.addClass order, .addSite (markedMethod [⟨"A", "x"⟩, ⟨"B", "x"⟩]),
      .addSite (markedMethod [⟨"A", "x"⟩, ⟨"B", "x"⟩, ⟨"A", "x"⟩])])
    let after := i.convert rules
    after.symbols.declarations = [markedMethod [⟨"B", "x"⟩, ⟨"C", "x"⟩]]
      ∧ i.held.IsFiled
      ∧ after.held = .ofLists [order] (i.symbols.declarations.map (·.convert rules))
      ∧ (Shelf.run [i, after] [.addSite 1 (markedMethod [])])[0]? = some i := by
  intro rules order i after
  have hfiled : i.held.IsFiled := Index.isFiled_ofEdits _
  obtain ⟨-, -, -, -, -, hheld, hshelf⟩ := converted_markers rules i
  have hlater : ∀ act ∈ [Shelf.Act.addSite 1 (markedMethod [])], act.changed? ≠ some 0 := by
    intro act hact
    obtain rfl := List.mem_singleton.mp hact
    decide
  exact ⟨by decide, hfiled, hheld hfiled, (hshelf [i] 0 rfl).2 _ hlater⟩

end AnyIndex

end ChannelSerde
