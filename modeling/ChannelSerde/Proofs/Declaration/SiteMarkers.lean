import ChannelSerde.Proofs.Declaration.ConvertedMarkers

/-!
# What the rules leave of a declaration

The markers of a converted declaration are in two parts (`markers_convert`). In front stand those
that no rule applies to, as they stood before, repetitions included. Behind them stands what the
rules make of the others, as far as it does not stand in front already: each of these once, in order
of first occurrence. So what is appended occurs nowhere else, while a marker that was there before
may occur as often as it did.

The rules enter into this only through the rule that each marker finds. Where no two rules have one
source there is at most one for a name, and the order of the rules does not count (`ruleFor?_perm`).
-/

namespace ChannelSerde

variable {rules : List MarkerRule}

/-! ## The order of the rules -/

/-- Where no two rules have one source, the rule for a marker is the one whose source is its
name. -/
theorem ruleFor?_eq_some_iff_mem (hsources : (rules.map MarkerRule.source).Nodup) {m : Marker}
    {r : MarkerRule} : ruleFor? rules m = some r ↔ r ∈ rules ∧ r.source = m.name := by
  rw [ruleFor?_eq_some_iff]
  constructor
  · rintro ⟨hsource, front, back, rfl, -⟩
    exact ⟨List.mem_append_right front List.mem_cons_self, hsource⟩
  · rintro ⟨hmem, hsource⟩
    obtain ⟨front, back, rfl⟩ := List.append_of_mem hmem
    refine ⟨hsource, front, back, rfl, fun q hq hqsource => ?_⟩
    rw [List.map_append, List.nodup_append] at hsources
    exact hsources.2.2 q.source (List.mem_map_of_mem hq) r.source List.mem_cons_self
      (hqsource.trans hsource.symm)

/-- **The order of rules does not count** for the rule that a marker finds, if no two of them have
one source. -/
theorem ruleFor?_perm {rules' : List MarkerRule} (h : rules.Perm rules')
    (hsources : (rules.map MarkerRule.source).Nodup) : ruleFor? rules' = ruleFor? rules := by
  have hsources' : (rules'.map MarkerRule.source).Nodup := (h.map _).nodup_iff.mp hsources
  funext m
  refine Option.ext fun r => ?_
  rw [ruleFor?_eq_some_iff_mem hsources, ruleFor?_eq_some_iff_mem hsources', h.mem_iff]

namespace Site

/-! ## The two parts -/

/-- **What is appended to a declaration**: what the rules make of its markers and does not stand
there yet, each of it once. -/
def appended (rules : List MarkerRule) (s : Site) : List Marker :=
  (OrderedSet.ofList ((s.introduced rules).filter (· ∉ s.retained rules))).toList

/-- Elements that are appended if they are new: the list stays in front, and behind it stand those
that it does not have, as they come into a set. -/
theorem foldl_appendNew_append (kept : List Marker) {set : OrderedSet Marker}
    (hset : ∀ m ∈ set, m ∉ kept) (added : List Marker) :
    added.foldl appendNew (kept ++ set.toList)
      = kept ++ ((added.filter (· ∉ kept)).foldl OrderedSet.insert set).toList := by
  induction added generalizing set with
  | nil => rfl
  | cons a added ih =>
    rw [List.foldl_cons]
    by_cases hkept : a ∈ kept
    · have happend : appendNew (kept ++ set.toList) a = kept ++ set.toList :=
        if_pos (List.mem_append_left _ hkept)
      rw [happend, ih hset, List.filter_cons_of_neg (by simpa using hkept)]
    · have happend : appendNew (kept ++ set.toList) a = kept ++ (set.insert a).toList := by
        unfold appendNew
        by_cases hmem : a ∈ set.toList
        · rw [if_pos (List.mem_append_right _ hmem), OrderedSet.insert_of_mem hmem]
        · rw [if_neg fun h => (List.mem_append.mp h).elim hkept hmem,
            OrderedSet.toList_insert_of_notMem hmem, List.append_assoc]
      have hset' : ∀ m ∈ set.insert a, m ∉ kept := fun m hm =>
        ((set.mem_insert a m).mp hm).elim (hset m) fun h => h ▸ hkept
      rw [happend, ih hset', List.filter_cons_of_pos (by simpa using hkept), List.foldl_cons]

/-- **The markers of a converted declaration**: those that no rule applies to, and behind them what
is appended. -/
theorem markers_convert (rules : List MarkerRule) (s : Site) :
    (s.convert rules).markers = s.retained rules ++ s.appended rules := by
  unfold convert
  split
  · have hempty : ∀ m ∈ (OrderedSet.empty : OrderedSet Marker), m ∉ s.retained rules :=
      fun _ h => absurd h List.not_mem_nil
    have hall := foldl_appendNew_append (s.retained rules) hempty (s.introduced rules)
    rwa [show (OrderedSet.empty : OrderedSet Marker).toList = [] from rfl, List.append_nil] at hall
  · next hmatch =>
    have hnone : ∀ m ∈ s.markers, ruleFor? rules m = none := by
      intro m hm
      rw [← Option.not_isSome_iff_eq_none]
      exact fun h => hmatch (List.any_eq_true.mpr ⟨m, hm, h⟩)
    have hretained : s.retained rules = s.markers :=
      List.filter_eq_self.mpr fun m hm => Option.isNone_iff_eq_none.mpr (hnone m hm)
    have hintroduced : s.introduced rules = [] := by
      unfold introduced
      rw [List.filter_eq_nil_iff.mpr fun m hm => by rw [hnone m hm]; exact Bool.false_ne_true]
      rfl
    rw [appended, hretained, hintroduced]
    exact (List.append_nil _).symm

/-- What is appended is made by the rules and did not stand there. -/
theorem mem_appended {s : Site} {m : Marker} :
    m ∈ s.appended rules
      ↔ m ∉ s.retained rules
        ∧ ∃ m' ∈ s.markers, ∃ r, ruleFor? rules m' = some r ∧ m = ⟨r.target, m'.value⟩ := by
  have hmade : m ∈ s.introduced rules
      ↔ ∃ m' ∈ s.markers, ∃ r, ruleFor? rules m' = some r ∧ m = ⟨r.target, m'.value⟩ := by
    unfold introduced
    simp only [List.mem_map, List.mem_filter, and_assoc, Option.isSome_iff_exists]
    refine exists_congr fun m' => and_congr_right fun _ => ?_
    constructor
    · rintro ⟨⟨r, hr⟩, rfl⟩
      exact ⟨r, hr, by rw [rename, hr]⟩
    · rintro ⟨r, hr, rfl⟩
      exact ⟨⟨r, hr⟩, by rw [rename, hr]⟩
  show m ∈ OrderedSet.ofList _ ↔ _
  rw [OrderedSet.mem_ofList, List.mem_filter, decide_eq_true_iff, hmade, and_comm]

/-- **What is appended occurs once** among the markers of the converted declaration. -/
theorem count_markers_convert {s : Site} {m : Marker} (hm : m ∈ s.appended rules) :
    (s.convert rules).markers.count m = 1 := by
  have hretained : m ∉ s.retained rules := (mem_appended.mp hm).1
  rw [markers_convert, List.count_append, List.count_eq_zero_of_not_mem hretained, Nat.zero_add]
  exact (OrderedSet.nodup _).count.trans (if_pos hm)

theorem retained_eq (rules : List MarkerRule) (s : Site) :
    s.retained rules = s.markers.filter fun m => rules.all (·.source != m.name) := by
  refine List.filter_congr fun m _ => Bool.eq_iff_iff.mpr ?_
  rw [Option.isNone_iff_eq_none, ruleFor?_eq_none_iff, List.all_eq_true]
  simp only [bne_iff_ne]

/-! ## The declaration itself -/

/-- A declaration is handed back itself exactly if no rule is for the name of one of its
markers. -/
theorem remade?_eq_none_iff {s : Site} :
    s.remade? rules = none ↔ ∀ m ∈ s.markers, ∀ r ∈ rules, r.source ≠ m.name := by
  have hmatch : s.matchesRule rules = false ↔ ∀ m ∈ s.markers, ∀ r ∈ rules, r.source ≠ m.name := by
    unfold matchesRule
    rw [List.any_eq_false]
    refine forall₂_congr fun m _ => ?_
    rw [Option.not_isSome_iff_eq_none, ruleFor?_eq_none_iff]
  rw [← hmatch, remade?]
  cases s.matchesRule rules <;> simp

/-- What takes the place of a declaration, or else the declaration, is the declaration after the
rules. -/
theorem getD_remade? (rules : List MarkerRule) (s : Site) :
    (s.remade? rules).getD s = s.convert rules := by
  unfold remade?
  cases h : s.matchesRule rules with
  | true => rfl
  | false => exact (convert_of_not_matchesRule h).symm

/-- **What the rules make of a declaration**, whichever rules these are and however often a marker
stands there. Nothing but markers changes: those that no rule is for stay in front, in order and as
often as before, and behind them stands what the rules make of the others and did not stand there,
each of it once. The declaration itself is handed back exactly if no rule is for one of its markers.
If no rule makes what another is for, no marker is left that a rule is for, and a second conversion
hands its declaration back. If no two rules are for one name, their order does not count. -/
theorem converted_site (rules : List MarkerRule) (s : Site) :
    let kept := s.markers.filter fun m => rules.all (·.source != m.name)
    (∃ behind : List Marker,
        s.convert rules = { s with markers := kept ++ behind }
          ∧ (∀ m, m ∈ behind ↔ m ∉ kept
              ∧ ∃ m' ∈ s.markers, ∃ r, ruleFor? rules m' = some r ∧ m = ⟨r.target, m'.value⟩)
          ∧ ∀ m ∈ behind, (s.convert rules).markers.count m = 1)
      ∧ (s.remade? rules).getD s = s.convert rules
      ∧ (s.remade? rules = none ↔ ∀ m ∈ s.markers, ∀ r ∈ rules, r.source ≠ m.name)
      ∧ (IsSeparated rules →
          (∀ m ∈ (s.convert rules).markers, ∀ r ∈ rules, r.source ≠ m.name)
            ∧ (s.convert rules).remade? rules = none)
      ∧ ∀ rules', rules.Perm rules' → (rules.map MarkerRule.source).Nodup →
          s.convert rules' = s.convert rules ∧ s.remade? rules' = s.remade? rules := by
  intro kept
  have hkept : s.retained rules = kept := retained_eq rules s
  refine ⟨⟨s.appended rules, ?_, fun m => ?_, fun m => count_markers_convert⟩, getD_remade? rules s,
    remade?_eq_none_iff, fun hrules => ?_, fun rules' hperm hsources => ?_⟩
  · have hmarkers : (s.convert rules).markers = kept ++ s.appended rules :=
      hkept ▸ markers_convert rules s
    rw [← hmarkers]
    unfold convert
    split <;> rfl
  · rw [mem_appended, hkept]
  · have hnone : ∀ m ∈ (s.convert rules).markers, ∀ r ∈ rules, r.source ≠ m.name := fun m hm =>
      ruleFor?_eq_none_iff.mp (ruleFor?_of_mem_convert hrules hm)
    exact ⟨hnone, remade?_eq_none_iff.mpr hnone⟩
  · have hrule : ruleFor? rules' = ruleFor? rules := ruleFor?_perm hperm hsources
    have hrename : rename rules' = rename rules := by
      unfold rename
      rw [hrule]
    unfold remade? convert matchesRule introduced retained
    rw [hrule, hrename]
    exact ⟨rfl, rfl⟩

/-- Two rules and a method on which one marker is made that stands there, one that is made twice and
one that is new, among markers that no rule is for. -/
theorem converted_site_mixed :
    let rules : List MarkerRule := [⟨"A", "N"⟩, ⟨"B", "M"⟩]
    let s := AnyIndex.markedMethod
      [⟨"K", "x"⟩, ⟨"A", "1"⟩, ⟨"N", "1"⟩, ⟨"B", "2"⟩, ⟨"K", "x"⟩, ⟨"B", "2"⟩, ⟨"A", "2"⟩]
    IsSeparated rules
      ∧ (s.convert rules).markers
        = [⟨"K", "x"⟩, ⟨"N", "1"⟩, ⟨"K", "x"⟩, ⟨"M", "2"⟩, ⟨"N", "2"⟩]
      ∧ (s.convert rules).remade? rules = none
      ∧ s.convert rules.reverse = s.convert rules := by
  intro rules s
  have hrules : IsSeparated rules := by
    unfold IsSeparated
    decide
  have hsources : (rules.map MarkerRule.source).Nodup := by decide
  obtain ⟨-, -, -, hsettled, hperm⟩ := converted_site rules s
  exact ⟨hrules, by decide, (hsettled hrules).2, (hperm _ rules.reverse_perm.symm hsources).1⟩

end Site

end ChannelSerde
