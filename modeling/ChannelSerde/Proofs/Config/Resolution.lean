import ChannelSerde.Proofs.Config.Ranking

/-!
# Which source decides a key

A configuration takes the first answer of its ranked sources. This module says what that comes to in
terms of the list of sources that was given, without the ranking: the source that decides a key is
the earliest of those that answer it and have the greatest ordinal among them (`Decides`).

Two facts carry this. Sources that do not answer a key can be left out before the ranking as well as
after it (`ofSources_filter`), so the source that decides is the first of a ranking, and the first of
a ranking is read off the list by `head?_ofSources_eq_some_iff`. What else of the list can be changed
without any answer changing is settled there too: exactly the order of sources of different ordinals
(`ofSources_eq_iff`).
-/

namespace ChannelSerde

namespace Config

/-- **A source decides a key** among some: it answers the key, it is above all before it that do, and
none after it that does is above it. -/
def Decides (ss : List Source) (key : String) (s : Source) : Prop :=
  ∃ before after, ss = before ++ s :: after ∧ (s.answer key).isSome = true
    ∧ (∀ t ∈ before, (t.answer key).isSome = true → t.ordinal < s.ordinal)
    ∧ ∀ t ∈ after, (t.answer key).isSome = true → t.ordinal ≤ s.ordinal

/-! ## The first of a ranking -/

/-- A source that is above all before it and not below any after it comes first. -/
theorem sources_ofSources_of_above {before after : List Source} {s : Source}
    (hbefore : ∀ t ∈ before, t.ordinal < s.ordinal) (hafter : ∀ t ∈ after, t.ordinal ≤ s.ordinal) :
    (ofSources (before ++ s :: after)).sources = s :: (ofSources (before ++ after)).sources := by
  refine sources_ofSources_eq (List.pairwise_cons.mpr ⟨fun t ht => ?_,
    ranked_iff.mp (ofSources _).ranked⟩) fun o => ?_
  · have hmem : t ∈ before ++ after := (List.mergeSort_perm _ _).mem_iff.mp ht
    obtain h | h := List.mem_append.mp hmem
    · exact Int.le_of_lt (hbefore t h)
    · exact hafter t h
  · rw [List.filter_cons, filter_ordinal_ofSources, List.filter_append, List.filter_append,
      List.filter_cons]
    by_cases ho : s.ordinal = o
    · -- no source before it has its ordinal
      have hnone : before.filter (·.ordinal = o) = [] :=
        List.filter_eq_nil_iff.mpr fun t ht => by
          have hlt := hbefore t ht
          simp only [decide_eq_true_eq]
          omega
      simp [ho, hnone]
    · simp [ho]

/-- **The first of a ranking** is the earliest of the sources of the greatest ordinal. -/
theorem head?_ofSources_eq_some_iff (ss : List Source) (s : Source) :
    (ofSources ss).sources.head? = some s
      ↔ ∃ before after, ss = before ++ s :: after ∧ (∀ t ∈ before, t.ordinal < s.ordinal)
          ∧ ∀ t ∈ after, t.ordinal ≤ s.ordinal := by
  constructor
  · intro h
    obtain ⟨rest, hrest⟩ := List.head?_eq_some_iff.mp h
    have hle : ∀ t ∈ ss, t.ordinal ≤ s.ordinal := fun t ht =>
      ordinal_le_head (hrest ▸ ranked_iff.mp (ofSources ss).ranked)
        (hrest ▸ (sources_perm ss).mem_iff.mpr ht)
    -- it is the first of its ordinal in the ranking, so it is in the list
    have hfirst := filter_ordinal_ofSources ss s.ordinal
    rw [hrest, List.filter_cons_of_pos (by simp)] at hfirst
    obtain ⟨before, after, rfl, hbefore, -, -⟩ := List.filter_eq_cons_iff.mp hfirst.symm
    refine ⟨before, after, rfl, fun t ht => ?_, fun t ht => ?_⟩
    · have hne := hbefore t ht
      have hmem := hle t (List.mem_append_left _ ht)
      simp only [decide_eq_true_eq] at hne
      omega
    · exact hle t (List.mem_append_right _ (List.mem_cons_of_mem _ ht))
  · rintro ⟨before, after, rfl, hbefore, hafter⟩
    rw [sources_ofSources_of_above hbefore hafter]
    rfl

/-! ## The source that decides -/

theorem answering?_eq_head? (ss : List Source) (key : String) :
    (ofSources ss).answering? key
      = (ofSources (ss.filter fun s => (s.answer key).isSome)).sources.head? := by
  rw [ofSources_filter, List.head?_filter]
  rfl

/-- **The source that answers for a configuration** is the one that decides among those given. -/
theorem answering?_eq_some_iff (ss : List Source) (key : String) (s : Source) :
    (ofSources ss).answering? key = some s ↔ Decides ss key s := by
  rw [answering?_eq_head?, head?_ofSources_eq_some_iff]
  constructor
  · rintro ⟨answering, rest, hsplit, hbefore, hafter⟩
    obtain ⟨before, tail, rfl, rfl, htail⟩ := List.filter_eq_append_iff.mp hsplit
    obtain ⟨skipped, after, rfl, hskipped, hs, rfl⟩ := List.filter_eq_cons_iff.mp htail
    refine ⟨before ++ skipped, after, by rw [List.append_assoc], hs, fun t ht hanswer => ?_,
      fun t ht hanswer => hafter t (List.mem_filter.mpr ⟨ht, hanswer⟩)⟩
    obtain h | h := List.mem_append.mp ht
    · exact hbefore t (List.mem_filter.mpr ⟨h, hanswer⟩)
    · exact absurd hanswer (hskipped t h)
  · rintro ⟨before, after, rfl, hs, hbefore, hafter⟩
    refine ⟨before.filter fun t => (t.answer key).isSome, after.filter fun t => (t.answer key).isSome,
      ?_, fun t ht => ?_, fun t ht => ?_⟩
    · rw [List.filter_append, List.filter_cons, if_pos hs]
    · exact hbefore t (List.mem_filter.mp ht).1 (List.mem_filter.mp ht).2
    · exact hafter t (List.mem_filter.mp ht).1 (List.mem_filter.mp ht).2

/-- A key has the value that the source answers which decides it. -/
theorem get?_eq_bind_answering? (c : Config) (key : String) :
    c.get? key = (c.answering? key).bind (·.answer key) := by
  unfold get? answering?
  induction c.sources with
  | nil => rfl
  | cons s ss ih =>
    rw [List.findSome?_cons, List.find?_cons]
    cases h : s.answer key with
    | none => exact ih
    | some v => exact h.symm

theorem answering?_eq_none_iff (ss : List Source) (key : String) :
    (ofSources ss).answering? key = none ↔ ∀ s ∈ ss, s.answer key = none := by
  rw [answering?_eq_head?, List.head?_eq_none_iff, ofSources_filter, List.filter_eq_nil_iff]
  refine forall_congr' fun s => ?_
  rw [Option.not_isSome_iff_eq_none, (sources_perm ss).mem_iff]

/-! ## Lists that rank alike -/

theorem foldl_adding (ss ts : List Source) :
    ts.foldl adding (ofSources ss) = ofSources (ss ++ ts) := by
  induction ts generalizing ss with
  | nil => rw [List.append_nil]; rfl
  | cons t ts ih => rw [List.foldl_cons, adding_ofSources, ih, List.append_assoc]; rfl

/-- **Two lists make the same configuration** exactly if one is the other with sources moved past
others of different ordinals: those of one ordinal stand in the same order. -/
theorem ofSources_eq_iff (ss ts : List Source) :
    ofSources ts = ofSources ss
      ↔ ts.Perm ss ∧ ∀ o, ts.filter (·.ordinal = o) = ss.filter (·.ordinal = o) := by
  constructor
  · intro h
    refine ⟨?_, fun o => ?_⟩
    · exact (h ▸ (sources_perm ts).symm).trans (sources_perm ss)
    · rw [← filter_ordinal_ofSources ts, ← filter_ordinal_ofSources ss, h]
  · rintro ⟨-, h⟩
    refine ext (sources_ofSources_eq (ranked_iff.mp (ofSources ss).ranked) fun o => ?_)
    rw [filter_ordinal_ofSources, h]

/-- **How keys are resolved.** Whatever the sources and their ordinals, the source that answers for a
configuration is the earliest in the list given of those with the greatest ordinal that answer the
key, and the value of the key is its answer; there is none of either exactly if no source answers.
Sources that are added one after the other make the configuration of the longer list. And a list of
the same sources makes the same configuration, with the same sources in the same order and so with
the same answers, exactly if it lists those of each ordinal in the same order. -/
theorem resolution (ss : List Source) :
    let c := ofSources ss
    (∀ key s, c.answering? key = some s ↔ Decides ss key s)
      ∧ (∀ key, c.get? key = (c.answering? key).bind (·.answer key))
      ∧ (∀ key, (c.answering? key = none ↔ ∀ s ∈ ss, s.answer key = none)
          ∧ (c.get? key = none ↔ ∀ s ∈ ss, s.answer key = none))
      ∧ (∀ ts, ts.foldl adding c = ofSources (ss ++ ts))
      ∧ ∀ ts, ofSources ts = c
          ↔ ts.Perm ss ∧ ∀ o, ts.filter (·.ordinal = o) = ss.filter (·.ordinal = o) := by
  intro c
  refine ⟨answering?_eq_some_iff ss, get?_eq_bind_answering? c, fun key =>
    ⟨answering?_eq_none_iff ss key, ?_⟩, foldl_adding ss, ofSources_eq_iff ss⟩
  rw [← answering?_eq_none_iff ss key, get?_eq_bind_answering?]
  cases h : (ofSources ss).answering? key with
  | none => simp
  | some s =>
    obtain ⟨-, -, -, hs, -⟩ := (answering?_eq_some_iff ss key s).mp h
    obtain ⟨v, hv⟩ := Option.isSome_iff_exists.mp hs
    simp [hv]

end Config

end ChannelSerde
