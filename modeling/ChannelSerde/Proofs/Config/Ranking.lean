import ChannelSerde.Config.Basic

/-!
# Ranking sources is stable

Which answer a configuration gives depends on the order of its sources, and that order is the
outcome of a sort. What the sort does is settled by two facts: the sources of one ordinal stand as
they were given (`filter_ordinal_ofSources`), and ranked lists that agree on every ordinal are equal
(`eq_of_filter_ordinal`). With these two no further proof looks into the sort: a part of the sources
is ranked as the whole is (`ofSources_filter`), and a source that is added comes between those that
are not below it and those that are (`sources_adding`).
-/

namespace ChannelSerde

namespace Config

/-! ## The order of ranked sources -/

theorem ranked_iff {ss : List Source} :
    (ss.Pairwise fun a b => a.before b = true) ↔ ss.Pairwise fun a b => b.ordinal ≤ a.ordinal := by
  simp only [Source.before, decide_eq_true_eq]

theorem sources_perm (ss : List Source) : (ofSources ss).sources.Perm ss :=
  List.mergeSort_perm ss _

/-- **Sources of one ordinal stand as they were given.** -/
theorem filter_ordinal_ofSources (ss : List Source) (o : Int) :
    (ofSources ss).sources.filter (·.ordinal = o) = ss.filter (·.ordinal = o) := by
  have hle : (ss.filter (·.ordinal = o)).Pairwise fun a b => a.before b = true := by
    rw [ranked_iff]
    refine List.pairwise_of_forall_mem_list fun a ha b hb => ?_
    simp only [List.mem_filter, decide_eq_true_eq] at ha hb
    omega
  have hsub : (ss.filter (·.ordinal = o)).Sublist (ofSources ss).sources := by
    refine List.sublist_mergeSort (fun a b c hab hbc => ?_) (fun a b => ?_) hle List.filter_sublist
    · simp only [Source.before, decide_eq_true_eq] at *
      omega
    · simp only [Source.before, Bool.or_eq_true, decide_eq_true_eq]
      omega
  have hsub' := hsub.filter (·.ordinal = o)
  rw [List.filter_filter] at hsub'
  simp only [Bool.and_self] at hsub'
  exact (hsub'.eq_of_length ((sources_perm ss).filter _).length_eq.symm).symm

theorem ordinal_le_head {a s : Source} {ss : List Source}
    (h : (a :: ss).Pairwise fun a b => b.ordinal ≤ a.ordinal) (hs : s ∈ a :: ss) :
    s.ordinal ≤ a.ordinal := by
  obtain rfl | hmem := List.mem_cons.mp hs
  · exact Int.le_refl _
  · exact (List.pairwise_cons.mp h).1 s hmem

/-- **Ranked lists that agree on every ordinal are equal.** -/
theorem eq_of_filter_ordinal {as bs : List Source}
    (ha : as.Pairwise fun a b => b.ordinal ≤ a.ordinal)
    (hb : bs.Pairwise fun a b => b.ordinal ≤ a.ordinal)
    (h : ∀ o, as.filter (·.ordinal = o) = bs.filter (·.ordinal = o)) : as = bs := by
  -- a source of one list is found in the other among those of its ordinal
  have hmem : ∀ s, s ∈ as ↔ s ∈ bs := by
    intro s
    have hs := congrArg (s ∈ ·) (h s.ordinal)
    simpa using hs
  induction as generalizing bs with
  | nil =>
    cases bs with
    | nil => rfl
    | cons b bs => exact absurd ((hmem b).mpr List.mem_cons_self) List.not_mem_nil
  | cons a as ih =>
    cases bs with
    | nil => exact absurd ((hmem a).mp List.mem_cons_self) List.not_mem_nil
    | cons b bs =>
      -- neither list goes higher than the other
      have hab : a.ordinal = b.ordinal :=
        Int.le_antisymm (ordinal_le_head hb ((hmem a).mp List.mem_cons_self))
          (ordinal_le_head ha ((hmem b).mpr List.mem_cons_self))
      have hhead := h a.ordinal
      rw [List.filter_cons_of_pos (by simp), List.filter_cons_of_pos (by simp [hab])] at hhead
      obtain ⟨rfl, -⟩ := List.cons.inj hhead
      -- the first sources are one, so without it the lists agree still
      have htail : ∀ o, as.filter (·.ordinal = o) = bs.filter (·.ordinal = o) := by
        intro o
        have ho := h o
        by_cases hao : a.ordinal = o
        · rw [List.filter_cons_of_pos (by simp [hao]), List.filter_cons_of_pos (by simp [hao])] at ho
          exact (List.cons.inj ho).2
        · rwa [List.filter_cons_of_neg (by simp [hao]), List.filter_cons_of_neg (by simp [hao])] at ho
      rw [ih (List.pairwise_cons.mp ha).2 (List.pairwise_cons.mp hb).2 htail fun s => ?_]
      have hs := congrArg (s ∈ ·) (htail s.ordinal)
      simpa using hs

/-- **A ranked list that agrees with the sources given on every ordinal is their ranking.** -/
theorem sources_ofSources_eq {ss rs : List Source}
    (hr : rs.Pairwise fun a b => b.ordinal ≤ a.ordinal)
    (h : ∀ o, rs.filter (·.ordinal = o) = ss.filter (·.ordinal = o)) :
    (ofSources ss).sources = rs :=
  eq_of_filter_ordinal (ranked_iff.mp (ofSources ss).ranked) hr fun o =>
    (filter_ordinal_ofSources ss o).trans (h o).symm

theorem ext {c d : Config} (h : c.sources = d.sources) : c = d := by
  cases c; cases d; cases h; rfl

theorem ofSources_sources (c : Config) : ofSources c.sources = c :=
  ext (List.mergeSort_of_pairwise c.ranked)

/-! ## Parts of the sources -/

/-- **Ranking a part of the sources** is taking that part of the ranking. -/
theorem ofSources_filter (ss : List Source) (p : Source → Bool) :
    (ofSources (ss.filter p)).sources = (ofSources ss).sources.filter p := by
  refine sources_ofSources_eq ((ranked_iff.mp (ofSources ss).ranked).filter p) fun o => ?_
  rw [List.filter_filter, List.filter_filter]
  simp only [Bool.and_comm _ (p _)]
  rw [← List.filter_filter, ← List.filter_filter, filter_ordinal_ofSources]

/-- Of the sources with certain ordinals, those of one ordinal are all of it or none. -/
theorem filter_ordinal_filter (ss : List Source) (q : Int → Bool) (o : Int) :
    (ss.filter fun s => q s.ordinal).filter (·.ordinal = o)
      = if q o then ss.filter (·.ordinal = o) else [] := by
  rw [List.filter_filter]
  split
  · next hq =>
    refine List.filter_congr fun s _ => ?_
    by_cases hs : s.ordinal = o
    · simp [hs, hq]
    · simp [hs]
  · next hq =>
    refine List.filter_eq_nil_iff.mpr fun s _ => ?_
    by_cases hs : s.ordinal = o
    · simp [hs, hq]
    · simp [hs]

/-- The sources of an ordinal and above. -/
def notBelow (c : Config) (o : Int) : Config :=
  ⟨c.sources.filter (o ≤ ·.ordinal), c.ranked.filter _⟩

/-- The sources below an ordinal. -/
def below (c : Config) (o : Int) : Config :=
  ⟨c.sources.filter (·.ordinal < o), c.ranked.filter _⟩

/-- The sources of an ordinal and above are ranked as they were given. -/
theorem notBelow_ofSources (ss : List Source) (o : Int) :
    (ofSources ss).notBelow o = ofSources (ss.filter (o ≤ ·.ordinal)) :=
  ext (ofSources_filter ss _).symm

/-- **A source that is added** comes after those that are not below it, before those that are. -/
theorem sources_adding (c : Config) (s : Source) :
    (c.adding s).sources = (c.notBelow s.ordinal).sources ++ s :: (c.below s.ordinal).sources := by
  have hc := ranked_iff.mp c.ranked
  refine sources_ofSources_eq ?_ fun o => ?_
  · refine List.pairwise_append.mpr ⟨hc.filter _, List.pairwise_cons.mpr ⟨fun b hb => ?_,
      hc.filter _⟩, fun a ha b hb => ?_⟩
    · simp only [below, List.mem_filter, decide_eq_true_eq] at hb
      omega
    · simp only [notBelow, below, List.mem_filter, List.mem_cons, decide_eq_true_eq] at ha hb
      obtain rfl | hb := hb <;> omega
  · rw [List.filter_append, List.filter_append, List.filter_cons, notBelow, below,
      filter_ordinal_filter _ (s.ordinal ≤ ·), filter_ordinal_filter _ (· < s.ordinal)]
    -- the sources of an ordinal are all of them above the new one, all beside it or all below
    obtain hlt | rfl | hgt := Int.lt_trichotomy o s.ordinal
    · simp [hlt, Int.not_le.mpr hlt, Int.ne_of_gt hlt]
    · simp
    · simp [Int.le_of_lt hgt, Int.not_lt.mpr (Int.le_of_lt hgt), Int.ne_of_lt hgt]

theorem sources_eq_append (c : Config) (o : Int) :
    c.sources = (c.notBelow o).sources ++ (c.below o).sources := by
  have hc := ranked_iff.mp c.ranked
  refine eq_of_filter_ordinal hc ?_ fun o' => ?_
  · refine List.pairwise_append.mpr ⟨hc.filter _, hc.filter _, fun a ha b hb => ?_⟩
    simp only [notBelow, below, List.mem_filter, decide_eq_true_eq] at ha hb
    omega
  · rw [List.filter_append, notBelow, below, filter_ordinal_filter _ (o ≤ ·),
      filter_ordinal_filter _ (· < o)]
    by_cases ho : o ≤ o'
    · simp [ho, Int.not_lt.mpr ho]
    · simp [ho, Int.not_le.mp ho]

/-! ## Where sources stand that are added -/

/-- A source may be added before the ranking or after it. -/
theorem adding_ofSources (ss : List Source) (s : Source) :
    (ofSources ss).adding s = ofSources (ss ++ [s]) := by
  refine ext (sources_ofSources_eq (ranked_iff.mp (ofSources _).ranked) fun o => ?_)
  rw [filter_ordinal_ofSources, List.filter_append, List.filter_append, filter_ordinal_ofSources]

/-- The sources from one ordinal up to another. -/
def between (c : Config) (lo hi : Int) : Config := (c.notBelow lo).below hi

section Parts

variable (c : Config) {s : Source} {o o' lo hi : Int}

theorem notBelow_notBelow_of_le (h : o ≤ o') : (c.notBelow o).notBelow o' = c.notBelow o' := by
  refine ext ?_
  show (c.sources.filter (o ≤ ·.ordinal)).filter (o' ≤ ·.ordinal) = c.sources.filter (o' ≤ ·.ordinal)
  rw [List.filter_filter]
  refine List.filter_congr fun s _ => ?_
  rw [← Bool.decide_and, decide_eq_decide]
  omega

theorem below_below_of_le (h : o' ≤ o) : (c.below o).below o' = c.below o' := by
  refine ext ?_
  show (c.sources.filter (·.ordinal < o)).filter (·.ordinal < o') = c.sources.filter (·.ordinal < o')
  rw [List.filter_filter]
  refine List.filter_congr fun s _ => ?_
  rw [← Bool.decide_and, decide_eq_decide]
  omega

theorem notBelow_below : (c.below hi).notBelow lo = c.between lo hi := by
  refine ext ?_
  show (c.sources.filter (·.ordinal < hi)).filter (lo ≤ ·.ordinal)
    = (c.sources.filter (lo ≤ ·.ordinal)).filter (·.ordinal < hi)
  rw [List.filter_filter, List.filter_filter]
  exact List.filter_congr fun s _ => Bool.and_comm _ _

theorem filter_adding_of_pos {p : Source → Bool} (h : p s = true) :
    (c.adding s).sources.filter p = (ofSources (c.sources.filter p ++ [s])).sources := by
  rw [adding, ← ofSources_filter, List.filter_append, List.filter_cons_of_pos h, List.filter_nil]

theorem filter_adding_of_neg {p : Source → Bool} (h : ¬ p s = true) :
    (c.adding s).sources.filter p = c.sources.filter p := by
  rw [adding, ← ofSources_filter, List.filter_append, List.filter_cons_of_neg h, List.filter_nil,
    List.append_nil, ofSources_filter, ofSources_sources]

theorem notBelow_adding_of_le (h : o ≤ s.ordinal) :
    (c.adding s).notBelow o = (c.notBelow o).adding s :=
  ext (filter_adding_of_pos c (by simpa using h))

theorem notBelow_adding_of_lt (h : s.ordinal < o) : (c.adding s).notBelow o = c.notBelow o :=
  ext (filter_adding_of_neg c (by simpa using h))

theorem below_adding_of_lt (h : s.ordinal < o) : (c.adding s).below o = (c.below o).adding s :=
  ext (filter_adding_of_pos c (by simpa using h))

theorem below_adding_of_le (h : o ≤ s.ordinal) : (c.adding s).below o = c.below o :=
  ext (filter_adding_of_neg c (by simpa using h))

end Parts

/-! ## Answers -/

/-- **A key is answered** by a source of an ordinal and above, or else by one below. -/
theorem get?_eq_or (c : Config) (o : Int) (k : String) :
    c.get? k = ((c.notBelow o).get? k).or ((c.below o).get? k) := by
  rw [get?, sources_eq_append c o, List.findSome?_append]
  rfl

/-- **A source that is added answers** where none that is not below it does. -/
theorem get?_adding (c : Config) (s : Source) (k : String) :
    (c.adding s).get? k
      = ((c.notBelow s.ordinal).get? k).or ((s.answer k).or ((c.below s.ordinal).get? k)) := by
  rw [get?, sources_adding, List.findSome?_append, List.findSome?_cons]
  cases s.answer k <;> rfl

theorem get?_adding_of_silent {s : Source} {k : String} (h : s.answer k = none) (c : Config) :
    (c.adding s).get? k = c.get? k := by
  rw [get?_adding, h, Option.none_or, ← get?_eq_or]

/-- Only the sources that answer a key count. -/
theorem get?_eq_findSome?_filter (c : Config) (k : String) :
    c.get? k
      = (c.sources.filter fun s => (s.answer k).isSome).findSome? fun s => s.answer k := by
  rw [get?]
  induction c.sources with
  | nil => rfl
  | cons s ss ih => cases h : s.answer k <;> simp [h, ih]

/-- **Sources that do not answer a key** can be left out. -/
theorem get?_ofSources_append_of_silent {ts : List Source} {k : String}
    (h : ∀ s ∈ ts, s.answer k = none) (ss : List Source) :
    (ofSources (ss ++ ts)).get? k = (ofSources ss).get? k := by
  have hts : (ts.filter fun s => (s.answer k).isSome) = [] :=
    List.filter_eq_nil_iff.mpr fun s hs => by simp [h s hs]
  rw [get?_eq_findSome?_filter, get?_eq_findSome?_filter, ← ofSources_filter, ← ofSources_filter,
    List.filter_append, hts, List.append_nil]

end Config

end ChannelSerde
