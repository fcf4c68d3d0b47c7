import ChannelSerde.Declaration.Conversion

/-!
# Making markers plain once is enough

Where no rule makes what another applies to, a declaration that has been converted has no marker
that a rule applies to (`ruleFor?_of_mem_convert`), so converting it again changes nothing. An index
that has been converted therefore keeps its declarations, with the places where its markers are
used.

Its classes are another matter. An index of this library keeps them, and a foreign index is still
asked for them after the first conversion. The result of that holds none itself, and what it holds
is all that a second conversion keeps (`converted_again`).
-/

namespace ChannelSerde

/-- **No rule makes what a rule applies to.** -/
def IsSeparated (rules : List MarkerRule) : Prop :=
  ∀ r ∈ rules, ∀ q ∈ rules, r.target ≠ q.source

theorem isSeparated_plainRules : IsSeparated plainRules := by
  unfold IsSeparated
  decide

theorem mem_of_ruleFor?_eq_some {rules : List MarkerRule} {m : Marker} {r : MarkerRule}
    (h : ruleFor? rules m = some r) : r ∈ rules :=
  List.mem_of_find?_eq_some h

theorem rename_of_ruleFor?_eq_none {rules : List MarkerRule} {m : Marker}
    (h : ruleFor? rules m = none) : rename rules m = m := by
  unfold rename
  rw [h]

/-- **No rule applies to what a rule has made**, if the rules are separated. -/
theorem ruleFor?_rename {rules : List MarkerRule} (hrules : IsSeparated rules) (m : Marker) :
    ruleFor? rules (rename rules m) = none := by
  unfold rename
  cases hr : ruleFor? rules m with
  | none => exact hr
  | some r =>
    refine List.find?_eq_none.mpr fun q hq => ?_
    simpa using hrules r (mem_of_ruleFor?_eq_some hr) q hq

namespace Site

variable {rules : List MarkerRule}

/-- A list with more elements appended, each if it is new, has these and those of before. -/
theorem mem_foldl_appendNew (kept added : List Marker) (m : Marker) :
    m ∈ added.foldl appendNew kept ↔ m ∈ kept ∨ m ∈ added := by
  induction added generalizing kept with
  | nil => simp
  | cons a added ih =>
    have happend : m ∈ appendNew kept a ↔ m ∈ kept ∨ m = a := by
      unfold appendNew
      split
      · next ha => exact ⟨Or.inl, fun h => h.elim id fun hm => hm ▸ ha⟩
      · simp
    rw [List.foldl_cons, ih, happend, List.mem_cons, or_assoc]

theorem convert_of_not_matchesRule {s : Site} (h : s.matchesRule rules = false) :
    s.convert rules = s := by
  unfold convert
  rw [h]
  rfl

/-- **The markers of a converted declaration** are those of the declaration, after the rules. -/
theorem mem_markers_convert {site : Site} {m : Marker} :
    m ∈ (site.convert rules).markers ↔ ∃ m' ∈ site.markers, rename rules m' = m := by
  unfold convert
  split
  · show m ∈ (site.introduced rules).foldl appendNew (site.retained rules) ↔ _
    rw [mem_foldl_appendNew, introduced, retained, List.mem_filter, List.mem_map]
    constructor
    · rintro (⟨hm, hnone⟩ | ⟨m', hm', rfl⟩)
      · exact ⟨m, hm, rename_of_ruleFor?_eq_none (Option.isNone_iff_eq_none.mp hnone)⟩
      · exact ⟨m', (List.mem_filter.mp hm').1, rfl⟩
    · rintro ⟨m', hm', rfl⟩
      cases hr : ruleFor? rules m' with
      | none =>
        rw [rename_of_ruleFor?_eq_none hr]
        exact .inl ⟨hm', Option.isNone_iff_eq_none.mpr hr⟩
      | some r => exact .inr ⟨m', List.mem_filter.mpr ⟨hm', by rw [hr]; rfl⟩, rfl⟩
  · next hmatch =>
    -- no rule applies to any marker
    have hnone : ∀ m' ∈ site.markers, ruleFor? rules m' = none := by
      intro m' hm'
      rw [← Option.not_isSome_iff_eq_none]
      exact fun h => hmatch (List.any_eq_true.mpr ⟨m', hm', h⟩)
    constructor
    · exact fun hm => ⟨m, hm, rename_of_ruleFor?_eq_none (hnone m hm)⟩
    · rintro ⟨m', hm', rfl⟩
      rwa [rename_of_ruleFor?_eq_none (hnone m' hm')]

/-- **No rule applies to a marker of a converted declaration**, if the rules are separated. -/
theorem ruleFor?_of_mem_convert (hrules : IsSeparated rules) {s : Site} {m : Marker}
    (hm : m ∈ (s.convert rules).markers) : ruleFor? rules m = none := by
  obtain ⟨m', -, rfl⟩ := mem_markers_convert.mp hm
  exact ruleFor?_rename hrules m'

/-- **Converting a declaration twice is converting it once**, if the rules are separated. -/
theorem convert_convert (hrules : IsSeparated rules) (s : Site) :
    (s.convert rules).convert rules = s.convert rules := by
  refine convert_of_not_matchesRule (List.any_eq_false.mpr fun m hm => ?_)
  rw [ruleFor?_of_mem_convert hrules hm]
  exact Bool.false_ne_true

end Site

/-- **An index of converted declarations** stays as it is when it is converted, if the rules are
separated. -/
theorem Index.convert_withSites {rules : List MarkerRule} (hrules : IsSeparated rules) (i : Index)
    (sites : List Site) :
    (i.withSites (sites.map (Site.convert rules))).convert rules
      = i.withSites (sites.map (Site.convert rules)) := by
  have hsites : ∀ s ∈ (OrderedSet.ofList (sites.map (Site.convert rules))).toList,
      s.convert rules = s := by
    intro s hs
    obtain ⟨t, -, rfl⟩ := List.mem_map.mp ((OrderedSet.mem_ofList _ s).mp hs)
    exact t.convert_convert hrules
  show i.withSites ((OrderedSet.ofList _).toList.map (Site.convert rules)) = _
  rw [List.map_congr_left hsites, List.map_id', Index.withSites, OrderedSet.ofList_toList]
  rfl

namespace AnyIndex

/-- **What a second conversion gives** is what the result of the first holds itself, if the rules
are separated. -/
theorem convert_convert {rules : List MarkerRule} (hrules : IsSeparated rules) (i : AnyIndex) :
    (i.convert rules).convert rules = own (i.convert rules).held := by
  cases i with
  | own i | borrowing i _ => exact congrArg own (i.convert_withSites hrules _)
  | foreign s => exact congrArg own (Index.empty.convert_withSites hrules s.declarations)

/-- **An index keeps a class** when it is converted again and again: it is one of this library, or
there is no class to lose. What was converted before keeps the classes that it holds. -/
def Keeps (i : AnyIndex) (c : String) : Prop :=
  match i with
  | own _ => True
  | borrowing i lender => lender c = i.classNamed c
  | foreign s => s.classNamed c = none

/-- **An index that is converted again** has the same declarations, and its markers are used in the
same places, whether it is one of this library or a foreign one. What is known of a class is the
same before, between and after both conversions exactly if the index keeps it. -/
theorem converted_again (i : AnyIndex) :
    let once := i.convert plainRules
    let twice := once.convert plainRules
    twice.symbols.declarations = once.symbols.declarations
      ∧ (∀ name, twice.symbols.usages name = once.symbols.usages name)
      ∧ ∀ c, (twice.symbols.classNamed c = once.symbols.classNamed c
            ∧ once.symbols.classNamed c = i.symbols.classNamed c)
          ↔ i.Keeps c := by
  intro once twice
  have htwice : twice = own once.held := convert_convert isSeparated_plainRules i
  rw [htwice]
  refine ⟨?_, fun name => ?_, fun c => ?_⟩
  · cases i <;> rfl
  · cases i <;> rfl
  · cases i with
    | own i => exact iff_of_true ⟨rfl, rfl⟩ trivial
    | borrowing i lender => exact ⟨fun h => h.2.symm, fun h => ⟨rfl, h.symm⟩⟩
    | foreign s => exact ⟨fun h => h.1.symm, fun h => ⟨h.symm, rfl⟩⟩

/-- A foreign index that knows one class. -/
def knowsOne : Symbols where
  classNamed c := if c = "app.Order" then some ⟨c, some rootClass, [], .ofClass⟩ else none
  declarations := []
  usages _ := []

/-- **A foreign index that is converted twice has forgotten its classes**: after the first
conversion it still knew the class that it knew before. -/
theorem converted_foreign_forgets_class :
    let once := (foreign knowsOne).convert plainRules
    (once.convert plainRules).symbols.classNamed "app.Order" = none
      ∧ once.symbols.classNamed "app.Order"
        = some ⟨"app.Order", some rootClass, [], .ofClass⟩
      ∧ (foreign knowsOne).symbols.classNamed "app.Order"
        = some ⟨"app.Order", some rootClass, [], .ofClass⟩ :=
  ⟨rfl, rfl, rfl⟩

end AnyIndex

end ChannelSerde
