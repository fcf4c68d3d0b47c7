import Mathlib.Data.List.Basic
import ChannelSerde.Proofs.Config.Ranking

/-!
# Names with a given start

The variables of a container come from all names that some source lists under a start. Listing and
answering are separate, so what is found under a start depends on both: `get?_under` says how. A
source matters to it only by the names it lists under that start and by what it answers to them, so
sources without either can be left out, and the order in which the others were first listed stays as
it was (`under_ofSources_append_of_silent`).
-/

namespace ChannelSerde

open Text

namespace Config

/-- **A name is listed** where one of the sources lists it. -/
theorem mem_names_ofSources (ss : List Source) (name : String) :
    name ∈ (ofSources ss).names ↔ ∃ s ∈ ss, name ∈ s.names := by
  rw [names, OrderedSet.mem_ofList, List.mem_flatMap]
  exact exists_congr fun s => and_congr_left' (sources_perm ss).mem_iff

/-- What is collected from the sources in order is not changed by sources that give nothing. -/
theorem flatMap_ofSources_append_of_silent {α : Type} {f : Source → List α} {ts : List Source}
    (h : ∀ s ∈ ts, f s = []) (ss : List Source) :
    (ofSources (ss ++ ts)).sources.flatMap f = (ofSources ss).sources.flatMap f := by
  have hfilter : ∀ rs : List Source,
      rs.flatMap f = (rs.filter fun s => !(f s).isEmpty).flatMap f := by
    intro rs
    induction rs with
    | nil => rfl
    | cons r rs ih => cases hr : f r <;> simp [hr, ih]
  have hts : (ts.filter fun s => !(f s).isEmpty) = [] :=
    List.filter_eq_nil_iff.mpr fun s hs => by simp [h s hs]
  rw [hfilter, hfilter (ofSources ss).sources, ← ofSources_filter, ← ofSources_filter,
    List.filter_append, hts, List.append_nil]

/-- **What is found under a start** is settled by the names with that start, in order, and by their
values. -/
theorem under_congr {c d : Config} {start : String}
    (hnames : c.names.toList.filter (startsWith · start)
      = d.names.toList.filter (startsWith · start))
    (hget : ∀ k, startsWith k start = true → c.get? k = d.get? k) :
    c.under start = d.under start := by
  have hsplit : ∀ c : Config, c.under start
      = OrderedMap.ofList ((c.names.toList.filter (startsWith · start)).filterMap fun name =>
          (c.get? name).map fun v => (dropChars name start.length, v)) := by
    intro c
    rw [under, List.filterMap_filter]
  rw [hsplit, hsplit, hnames]
  refine congrArg OrderedMap.ofList (List.filterMap_congr fun name hname => ?_)
  rw [hget name (List.mem_filter.mp hname).2]

/-- **Sources that have nothing to do with a start** can be left out of what is found under it. -/
theorem under_ofSources_append_of_silent {ts : List Source} {start : String}
    (hnames : ∀ s ∈ ts, ∀ name ∈ s.names, startsWith name start = false)
    (hanswer : ∀ s ∈ ts, ∀ k, startsWith k start = true → s.answer k = none) (ss : List Source) :
    (ofSources (ss ++ ts)).under start = (ofSources ss).under start := by
  refine under_congr ?_ fun k hk =>
    get?_ofSources_append_of_silent (fun s hs => hanswer s hs k hk) ss
  have hsilent : ∀ s ∈ ts, s.names.filter (startsWith · start) = [] := fun s hs =>
    List.filter_eq_nil_iff.mpr fun name hname => by simp [hnames s hs name hname]
  rw [names, names, OrderedSet.filter_toList_ofList, OrderedSet.filter_toList_ofList,
    List.filter_flatMap, List.filter_flatMap, flatMap_ofSources_append_of_silent hsilent]

/-- **What is found under a start**: the value of the whole name, if that is listed. -/
theorem get?_under (c : Config) (start k : String) :
    (c.under start).get? k = if start ++ k ∈ c.names then c.get? (start ++ k) else none := by
  -- an entry under `k` comes from the whole name
  have hentry : ∀ {name : String} {e : String × String},
      (if startsWith name start then (c.get? name).map fun v => (dropChars name start.length, v)
        else none) = some e →
      e.1 = k → name = start ++ k ∧ c.get? (start ++ k) = some e.2 := by
    intro name e he hk
    split at he
    · next hstart =>
      obtain ⟨v, hv, rfl⟩ := Option.map_eq_some_iff.mp he
      obtain rfl : start ++ k = name := by rw [← hk]; exact append_dropChars hstart
      exact ⟨rfl, hv⟩
    · exact absurd he (by simp)
  by_cases hlisted : start ++ k ∈ c.names
  · rw [if_pos hlisted]
    cases hv : c.get? (start ++ k) with
    | some v =>
      refine OrderedMap.get?_ofList_of_forall ?_ fun e he hk => ?_
      · refine List.mem_filterMap.mpr ⟨_, hlisted, ?_⟩
        rw [if_pos (startsWith_append start k), hv, dropChars_append]
        rfl
      · obtain ⟨name, -, he⟩ := List.mem_filterMap.mp he
        exact Option.some.inj ((hentry he hk).2.symm.trans hv)
    | none =>
      rw [OrderedMap.get?_eq_none_iff, under, OrderedMap.mem_keys_ofList, List.mem_map]
      rintro ⟨e, he, hk⟩
      obtain ⟨name, -, he⟩ := List.mem_filterMap.mp he
      exact absurd ((hentry he hk).2.symm.trans hv) (by simp)
  · rw [if_neg hlisted, OrderedMap.get?_eq_none_iff, under, OrderedMap.mem_keys_ofList,
      List.mem_map]
    rintro ⟨e, he, hk⟩
    obtain ⟨name, hname, he⟩ := List.mem_filterMap.mp he
    exact hlisted ((hentry he hk).1 ▸ hname)

end Config

end ChannelSerde
