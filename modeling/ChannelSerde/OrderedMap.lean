/-!
# Maps and sets in order of insertion

Properties, class tables and settings are kept in the order in which their keys were first given: a
later value for a known key takes the place of the earlier one and does not move it. The type keeps
the entries as a list and carries the proof that no key occurs twice, so an entry may be looked up,
listed and counted without asking whether the map is well formed.

`OrderedSet` is the same for names alone.
-/

namespace ChannelSerde

/-- The first value filed under a key in a list of entries. -/
def lookupEntry {κ ν : Type} [DecidableEq κ] (k : κ) : List (κ × ν) → Option ν
  | [] => none
  | e :: rest => if e.1 = k then some e.2 else lookupEntry k rest

/-- **Entries with one more**: the value of a key that is there is replaced where it stands, a new
key goes to the end. -/
def putEntry {κ ν : Type} [DecidableEq κ] (k : κ) (v : ν) : List (κ × ν) → List (κ × ν)
  | [] => [(k, v)]
  | e :: rest => if e.1 = k then (k, v) :: rest else e :: putEntry k v rest

section Entries

variable {κ ν : Type} [DecidableEq κ]

/-- The keys after a put: unchanged when the key was there, one longer at the end otherwise. -/
theorem map_fst_putEntry (k : κ) (v : ν) (es : List (κ × ν)) :
    (putEntry k v es).map Prod.fst
      = if k ∈ es.map Prod.fst then es.map Prod.fst else es.map Prod.fst ++ [k] := by
  induction es with
  | nil => simp [putEntry]
  | cons e rest ih =>
    by_cases h : e.1 = k
    · simp [putEntry, h]
    · have h' : k ≠ e.1 := fun hk => h hk.symm
      by_cases hm : k ∈ rest.map Prod.fst
      · simp only [putEntry, h, if_false, List.map_cons, ih, if_pos hm]
        simp [hm]
      · simp only [putEntry, h, if_false, List.map_cons, ih, if_neg hm]
        simp [h', hm]

theorem nodup_putEntry {k : κ} {v : ν} {es : List (κ × ν)} (h : (es.map Prod.fst).Nodup) :
    ((putEntry k v es).map Prod.fst).Nodup := by
  rw [map_fst_putEntry]
  split
  · exact h
  · next hk =>
    exact List.nodup_append.2 ⟨h, by simp, fun b hb c hc heq =>
      hk (List.mem_singleton.1 hc ▸ heq ▸ hb)⟩

theorem lookupEntry_putEntry_self (k : κ) (v : ν) (es : List (κ × ν)) :
    lookupEntry k (putEntry k v es) = some v := by
  induction es with
  | nil => simp [putEntry, lookupEntry]
  | cons e rest ih => by_cases h : e.1 = k <;> simp [putEntry, lookupEntry, h, ih]

theorem lookupEntry_putEntry_of_ne {k k' : κ} (hk : k' ≠ k) (v : ν) (es : List (κ × ν)) :
    lookupEntry k' (putEntry k v es) = lookupEntry k' es := by
  induction es with
  | nil => simp [putEntry, lookupEntry, hk.symm]
  | cons e rest ih =>
    by_cases h : e.1 = k
    · subst h
      simp [putEntry, lookupEntry, hk.symm]
    · simp [putEntry, lookupEntry, h, ih]

theorem putEntry_putEntry_self (k : κ) (v w : ν) (es : List (κ × ν)) :
    putEntry k v (putEntry k w es) = putEntry k v es := by
  induction es with
  | nil => simp [putEntry]
  | cons e rest ih => by_cases h : e.1 = k <;> simp [putEntry, h, ih]

/-- The value of a key that is listed may be put in before that of another key. -/
theorem putEntry_comm {k k' : κ} (hk : k' ≠ k) {es : List (κ × ν)} (h : k ∈ es.map Prod.fst)
    (v v' : ν) : putEntry k v (putEntry k' v' es) = putEntry k' v' (putEntry k v es) := by
  induction es with
  | nil => exact absurd h List.not_mem_nil
  | cons e rest ih =>
    by_cases he : e.1 = k
    · have he' : e.1 ≠ k' := fun h' => hk (h'.symm.trans he)
      simp [putEntry, he, hk.symm]
    · by_cases he' : e.1 = k'
      · simp [putEntry, he', hk]
      · have hrest : k ∈ rest.map Prod.fst := (List.mem_cons.mp h).resolve_left fun h' => he h'.symm
        simp [putEntry, he, he', ih hrest]

theorem lookupEntry_isSome (k : κ) (es : List (κ × ν)) :
    (lookupEntry k es).isSome = true ↔ k ∈ es.map Prod.fst := by
  induction es with
  | nil => simp [lookupEntry]
  | cons e rest ih =>
    by_cases h : e.1 = k
    · simp [lookupEntry, h]
    · have h' : ¬ k = e.1 := fun hk => h hk.symm
      simp only [lookupEntry, h, if_false, ih, List.map_cons, List.mem_cons, h', false_or]

theorem lookupEntry_eq_some_iff {k : κ} {v : ν} {es : List (κ × ν)}
    (h : (es.map Prod.fst).Nodup) : lookupEntry k es = some v ↔ (k, v) ∈ es := by
  induction es with
  | nil => simp [lookupEntry]
  | cons e rest ih =>
    rw [List.map_cons, List.nodup_cons] at h
    by_cases hk : e.1 = k
    · have hrest : (k, v) ∉ rest := fun hm => h.1 (hk ▸ List.mem_map_of_mem hm)
      simp [lookupEntry, hk, hrest, Prod.ext_iff, eq_comm]
    · have hk' : ¬ k = e.1 := fun hke => hk hke.symm
      simp [lookupEntry, hk, hk', ih h.2, Prod.ext_iff]

end Entries

/-- **A map in order of insertion**, no key twice. -/
structure OrderedMap (κ ν : Type) where
  entries : List (κ × ν)
  nodup : (entries.map Prod.fst).Nodup

namespace OrderedMap

variable {κ ν : Type}

theorem ext {a b : OrderedMap κ ν} (h : a.entries = b.entries) : a = b := by
  cases a; cases b; cases h; rfl

instance [DecidableEq κ] [DecidableEq ν] : DecidableEq (OrderedMap κ ν) := fun a b =>
  if h : a.entries = b.entries then isTrue (ext h) else isFalse fun hab => h (hab ▸ rfl)

instance [Repr κ] [Repr ν] : Repr (OrderedMap κ ν) := ⟨fun m n => reprPrec m.entries n⟩

/-- The map without entries. -/
def empty : OrderedMap κ ν := ⟨[], List.nodup_nil⟩

instance : Inhabited (OrderedMap κ ν) := ⟨empty⟩

/-- The keys in order of first insertion. -/
def keys (m : OrderedMap κ ν) : List κ := m.entries.map Prod.fst

/-- The number of entries. -/
def size (m : OrderedMap κ ν) : Nat := m.entries.length

/-- The values in order of their keys. -/
def values (m : OrderedMap κ ν) : List ν := m.entries.map Prod.snd

variable [DecidableEq κ]

/-- What a key answers. -/
def get? (m : OrderedMap κ ν) (k : κ) : Option ν := lookupEntry k m.entries

/-- The key is listed. -/
def contains (m : OrderedMap κ ν) (k : κ) : Bool := (m.get? k).isSome

/-- The map with a value filed under a key. -/
def insert (m : OrderedMap κ ν) (k : κ) (v : ν) : OrderedMap κ ν :=
  ⟨putEntry k v m.entries, nodup_putEntry m.nodup⟩

/-- The map with every entry of a list put in, one after the other. -/
def insertAll (m : OrderedMap κ ν) (es : List (κ × ν)) : OrderedMap κ ν :=
  es.foldl (fun acc e => acc.insert e.1 e.2) m

/-- The map of a list of entries: of entries with one key the last value counts, at the place of the
first. -/
def ofList (es : List (κ × ν)) : OrderedMap κ ν := empty.insertAll es

/-- **The same entries in any order**: every key answers alike. -/
def sameEntries [DecidableEq ν] (a b : OrderedMap κ ν) : Bool :=
  a.size == b.size && a.entries.all fun e => b.get? e.1 == some e.2

@[simp] theorem get?_insert_self (m : OrderedMap κ ν) (k : κ) (v : ν) :
    (m.insert k v).get? k = some v :=
  lookupEntry_putEntry_self k v m.entries

theorem get?_insert_of_ne (m : OrderedMap κ ν) {k k' : κ} (h : k' ≠ k) (v : ν) :
    (m.insert k v).get? k' = m.get? k' :=
  lookupEntry_putEntry_of_ne h v m.entries

@[simp] theorem keys_insert (m : OrderedMap κ ν) (k : κ) (v : ν) :
    (m.insert k v).keys = if k ∈ m.keys then m.keys else m.keys ++ [k] :=
  map_fst_putEntry k v m.entries

theorem get?_isSome (m : OrderedMap κ ν) (k : κ) : (m.get? k).isSome = true ↔ k ∈ m.keys :=
  lookupEntry_isSome k m.entries

theorem get?_eq_some_iff (m : OrderedMap κ ν) (k : κ) (v : ν) :
    m.get? k = some v ↔ (k, v) ∈ m.entries :=
  lookupEntry_eq_some_iff m.nodup

theorem get?_eq_none_iff (m : OrderedMap κ ν) (k : κ) : m.get? k = none ↔ k ∉ m.keys := by
  rw [← m.get?_isSome, Option.not_isSome_iff_eq_none]

theorem mem_keys_insertAll (m : OrderedMap κ ν) (es : List (κ × ν)) (k : κ) :
    k ∈ (m.insertAll es).keys ↔ k ∈ m.keys ∨ k ∈ es.map Prod.fst := by
  induction es generalizing m with
  | nil => simp [insertAll]
  | cons e es ih =>
    show k ∈ ((m.insert e.1 e.2).insertAll es).keys ↔ _
    have hput : k ∈ (m.insert e.1 e.2).keys ↔ k ∈ m.keys ∨ k = e.1 := by
      rw [keys_insert]
      by_cases he : e.1 ∈ m.keys
      · rw [if_pos he]
        exact ⟨Or.inl, fun h => h.elim id fun hk => hk ▸ he⟩
      · rw [if_neg he, List.mem_append, List.mem_singleton]
    rw [ih, hput, List.map_cons, List.mem_cons, or_assoc]

theorem mem_keys_ofList (es : List (κ × ν)) (k : κ) :
    k ∈ (ofList es).keys ↔ k ∈ es.map Prod.fst := by
  rw [ofList, mem_keys_insertAll]
  exact or_iff_right List.not_mem_nil

/-- Many puts, of which those under a key agree: the key answers their value, or what it answered
before if there is none. -/
theorem get?_insertAll_of_forall {es : List (κ × ν)} {k : κ} {v : ν}
    (h : ∀ e ∈ es, e.1 = k → e.2 = v) (m : OrderedMap κ ν) :
    (m.insertAll es).get? k = if k ∈ es.map Prod.fst then some v else m.get? k := by
  induction es generalizing m with
  | nil => simp [insertAll]
  | cons e es ih =>
    show ((m.insert e.1 e.2).insertAll es).get? k = _
    rw [ih (fun e' he' => h e' (List.mem_cons_of_mem e he'))]
    by_cases he : e.1 = k
    · subst he
      rw [get?_insert_self, h e List.mem_cons_self rfl, ite_self, if_pos (by simp)]
    · have hiff : k ∈ e.1 :: es.map Prod.fst ↔ k ∈ es.map Prod.fst :=
        List.mem_cons.trans (or_iff_right fun hk => he hk.symm)
      rw [get?_insert_of_ne m (fun hk => he hk.symm), List.map_cons]
      simp only [hiff]

/-- **A key of a list's map answers the value that is filed under it**, if the list files no other
under it. -/
theorem get?_ofList_of_forall {es : List (κ × ν)} {k : κ} {v : ν} (hmem : (k, v) ∈ es)
    (h : ∀ e ∈ es, e.1 = k → e.2 = v) : (ofList es).get? k = some v := by
  rw [ofList, get?_insertAll_of_forall h, if_pos (List.mem_map_of_mem hmem)]

theorem insert_insert_self (m : OrderedMap κ ν) (k : κ) (v w : ν) :
    (m.insert k w).insert k v = m.insert k v :=
  ext (putEntry_putEntry_self k v w m.entries)

/-- The value of a key that is listed may be put in before that of another key. -/
theorem insert_comm {m : OrderedMap κ ν} {k k' : κ} (hk : k' ≠ k) (h : k ∈ m.keys) (v v' : ν) :
    (m.insert k' v').insert k v = (m.insert k v).insert k' v' :=
  ext (putEntry_comm hk h v v')

theorem insertAll_append (m : OrderedMap κ ν) (es fs : List (κ × ν)) :
    m.insertAll (es ++ fs) = (m.insertAll es).insertAll fs :=
  List.foldl_append

theorem get?_insertAll_of_notMem (m : OrderedMap κ ν) {es : List (κ × ν)} {k : κ}
    (h : k ∉ es.map Prod.fst) : (m.insertAll es).get? k = m.get? k := by
  cases hk : m.get? k with
  | none =>
    rw [get?_eq_none_iff, mem_keys_insertAll, not_or]
    exact ⟨(m.get?_eq_none_iff k).mp hk, h⟩
  | some v =>
    have hall : ∀ e ∈ es, e.1 = k → e.2 = v := fun e he hek =>
      absurd (hek ▸ List.mem_map_of_mem he) h
    rw [get?_insertAll_of_forall hall, if_neg h, hk]

/-- A map with the entries of another put in answers from that one first. -/
theorem get?_insertAll_entries (m t : OrderedMap κ ν) (k : κ) :
    (m.insertAll t.entries).get? k = (t.get? k).or (m.get? k) := by
  cases ht : t.get? k with
  | none => exact get?_insertAll_of_notMem m ((t.get?_eq_none_iff k).mp ht)
  | some v =>
    have hmem : (k, v) ∈ t.entries := (t.get?_eq_some_iff k v).mp ht
    have hall : ∀ e ∈ t.entries, e.1 = k → e.2 = v := fun e he hek =>
      Option.some.inj (((t.get?_eq_some_iff k e.2).mpr (hek ▸ he)).symm.trans ht)
    rw [get?_insertAll_of_forall hall, if_pos (List.mem_map_of_mem hmem)]
    rfl

/-- A key that a list files something under has a last value in it. -/
theorem exists_last_entry {es : List (κ × ν)} {k : κ} (h : k ∈ es.map Prod.fst) :
    ∃ front v back, es = front ++ (k, v) :: back ∧ k ∉ back.map Prod.fst := by
  induction es with
  | nil => exact absurd h List.not_mem_nil
  | cons e es ih =>
    by_cases hes : k ∈ es.map Prod.fst
    · obtain ⟨front, v, back, rfl, hback⟩ := ih hes
      exact ⟨e :: front, v, back, rfl, hback⟩
    · obtain rfl : k = e.1 := (List.mem_cons.mp h).resolve_right hes
      exact ⟨[], e.2, es, rfl, hes⟩

/-- **A key of a list's map answers the last value** that the list files under it. -/
theorem get?_ofList_eq_some_iff {es : List (κ × ν)} {k : κ} {v : ν} :
    (ofList es).get? k = some v
      ↔ ∃ front back, es = front ++ (k, v) :: back ∧ k ∉ back.map Prod.fst := by
  have hlast : ∀ (front : List (κ × ν)) w back, k ∉ back.map Prod.fst →
      (ofList (front ++ (k, w) :: back)).get? k = some w := by
    intro front w back hback
    rw [ofList, insertAll_append]
    show (((empty.insertAll front).insert k w).insertAll back).get? k = _
    rw [get?_insertAll_of_notMem _ hback, get?_insert_self]
  constructor
  · intro h
    have hk : k ∈ es.map Prod.fst := by
      rw [← mem_keys_ofList, ← get?_isSome, h]
      rfl
    obtain ⟨front, w, back, rfl, hback⟩ := exists_last_entry hk
    obtain rfl : w = v := Option.some.inj ((hlast front w back hback).symm.trans h)
    exact ⟨front, back, rfl, hback⟩
  · rintro ⟨front, back, rfl, hback⟩
    exact hlast front v back hback

theorem mem_of_mem_entries_ofList {es : List (κ × ν)} {e : κ × ν} (h : e ∈ (ofList es).entries) :
    e ∈ es := by
  obtain ⟨front, back, rfl, -⟩ :=
    get?_ofList_eq_some_iff.mp ((get?_eq_some_iff (ofList es) e.1 e.2).mpr h)
  exact List.mem_append_right front List.mem_cons_self

/-- The value of a key that is listed may be put in before many puts under other keys. -/
theorem insert_insertAll {m : OrderedMap κ ν} {es : List (κ × ν)} {k : κ} (hm : k ∈ m.keys)
    (hes : k ∉ es.map Prod.fst) (v : ν) :
    (m.insertAll es).insert k v = (m.insert k v).insertAll es := by
  induction es generalizing m with
  | nil => rfl
  | cons e es ih =>
    rw [List.map_cons, List.mem_cons, not_or] at hes
    have hm' : k ∈ (m.insert e.1 e.2).keys := (mem_keys_insertAll m [e] k).mpr (.inl hm)
    show ((m.insert e.1 e.2).insertAll es).insert k v = ((m.insert k v).insert e.1 e.2).insertAll es
    rw [ih hm' hes.2, insert_comm (fun he => hes.1 he.symm) hm]

/-- Putting in a map with one more entry is putting in the map and then the entry. -/
theorem insertAll_entries_insert (m t : OrderedMap κ ν) (k : κ) (v : ν) :
    m.insertAll (t.insert k v).entries = (m.insertAll t.entries).insert k v := by
  have hput : ∀ es : List (κ × ν), (es.map Prod.fst).Nodup → ∀ m : OrderedMap κ ν,
      m.insertAll (putEntry k v es) = (m.insertAll es).insert k v := by
    intro es hes m
    induction es generalizing m with
    | nil => rfl
    | cons e es ih =>
      rw [List.map_cons, List.nodup_cons] at hes
      unfold putEntry
      split
      · next he =>
        subst he
        have hm : e.1 ∈ (m.insert e.1 e.2).keys := (mem_keys_insertAll m [e] e.1).mpr (.inr (by simp))
        show (m.insert e.1 v).insertAll es = ((m.insert e.1 e.2).insertAll es).insert e.1 v
        rw [insert_insertAll hm hes.1, insert_insert_self]
      · exact ih hes.2 (m.insert e.1 e.2)
  exact hput t.entries t.nodup m

/-- **Putting in the map of a list** is putting in the list. -/
theorem insertAll_ofList (m : OrderedMap κ ν) (es : List (κ × ν)) :
    m.insertAll (ofList es).entries = m.insertAll es := by
  have hput : ∀ t : OrderedMap κ ν,
      m.insertAll (t.insertAll es).entries = (m.insertAll t.entries).insertAll es := by
    induction es with
    | nil => exact fun t => rfl
    | cons e es ih =>
      intro t
      show m.insertAll ((t.insert e.1 e.2).insertAll es).entries = _
      rw [ih, insertAll_entries_insert]
      rfl
  exact hput empty

/-- Keys that are renamed apart: the map of a list, renamed, is the map of the renamed list. -/
theorem entries_ofList_map {κ' : Type} [DecidableEq κ'] {f : κ → κ'}
    (hf : ∀ a b, f a = f b → a = b) (es : List (κ × ν)) :
    (ofList (es.map fun e => (f e.1, e.2))).entries
      = (ofList es).entries.map fun e => (f e.1, e.2) := by
  have hput : ∀ (k : κ) (v : ν) (es : List (κ × ν)),
      putEntry (f k) v (es.map fun e => (f e.1, e.2))
        = (putEntry k v es).map fun e => (f e.1, e.2) := by
    intro k v es
    induction es with
    | nil => rfl
    | cons e es ih =>
      by_cases he : e.1 = k
      · simp [putEntry, he]
      · have hfe : f e.1 ≠ f k := fun h => he (hf _ _ h)
        simp [putEntry, he, hfe, ih]
  have hall : ∀ (m : OrderedMap κ ν) (m' : OrderedMap κ' ν),
      m'.entries = m.entries.map (fun e => (f e.1, e.2)) →
      (m'.insertAll (es.map fun e => (f e.1, e.2))).entries
        = (m.insertAll es).entries.map fun e => (f e.1, e.2) := by
    induction es with
    | nil => exact fun _ _ h => h
    | cons e es ih =>
      intro m m' h
      refine ih (m.insert e.1 e.2) (m'.insert (f e.1) e.2) ?_
      show putEntry (f e.1) e.2 m'.entries = _
      rw [h, hput]
      rfl
  exact hall empty empty rfl

theorem entries_insert_of_notMem {m : OrderedMap κ ν} {k : κ} (h : k ∉ m.keys) (v : ν) :
    (m.insert k v).entries = m.entries ++ [(k, v)] := by
  have hput : ∀ es : List (κ × ν), k ∉ es.map Prod.fst → putEntry k v es = es ++ [(k, v)] := by
    intro es hes
    induction es with
    | nil => rfl
    | cons e es ih =>
      rw [List.map_cons, List.mem_cons, not_or] at hes
      rw [putEntry, if_neg fun he => hes.1 he.symm, ih hes.2]
      rfl
  exact hput m.entries h

/-- Entries whose keys are new and distinct all go to the end. -/
theorem entries_insertAll {m : OrderedMap κ ν} {es : List (κ × ν)}
    (h : (m.keys ++ es.map Prod.fst).Nodup) : (m.insertAll es).entries = m.entries ++ es := by
  induction es generalizing m with
  | nil => simp [insertAll]
  | cons e es ih =>
    have hnew : e.1 ∉ m.keys := fun ha =>
      (List.nodup_append.mp h).2.2 e.1 ha e.1 List.mem_cons_self rfl
    have hkeys : (m.insert e.1 e.2).keys ++ es.map Prod.fst = m.keys ++ (e :: es).map Prod.fst := by
      rw [keys_insert, if_neg hnew, List.append_assoc]
      rfl
    show ((m.insert e.1 e.2).insertAll es).entries = _
    rw [ih (hkeys ▸ h), entries_insert_of_notMem hnew, List.append_assoc]
    rfl

/-- A list's map has the entries of the list, if no key occurs twice in it. -/
theorem entries_ofList {es : List (κ × ν)} (h : (es.map Prod.fst).Nodup) :
    (ofList es).entries = es :=
  entries_insertAll (m := empty) h

theorem ofList_entries (m : OrderedMap κ ν) : ofList m.entries = m := ext (entries_ofList m.nodup)

@[simp] theorem sameEntries_self [DecidableEq ν] (m : OrderedMap κ ν) :
    m.sameEntries m = true := by
  simp only [sameEntries, beq_self_eq_true, Bool.true_and, List.all_eq_true, beq_iff_eq]
  exact fun e he => (m.get?_eq_some_iff e.1 e.2).mpr he

end OrderedMap

/-- **A set in order of insertion.** -/
structure OrderedSet (α : Type) where
  toList : List α
  nodup : toList.Nodup

namespace OrderedSet

variable {α : Type}

theorem ext {a b : OrderedSet α} (h : a.toList = b.toList) : a = b := by
  cases a; cases b; cases h; rfl

instance [DecidableEq α] : DecidableEq (OrderedSet α) := fun a b =>
  if h : a.toList = b.toList then isTrue (ext h) else isFalse fun hab => h (hab ▸ rfl)

instance [Repr α] : Repr (OrderedSet α) := ⟨fun s n => reprPrec s.toList n⟩

/-- The set without elements. -/
def empty : OrderedSet α := ⟨[], List.nodup_nil⟩

instance : Inhabited (OrderedSet α) := ⟨empty⟩

instance : Membership α (OrderedSet α) := ⟨fun s a => a ∈ s.toList⟩

instance [DecidableEq α] (s : OrderedSet α) (a : α) : Decidable (a ∈ s) :=
  inferInstanceAs (Decidable (a ∈ s.toList))

/-- The number of elements. -/
def size (s : OrderedSet α) : Nat := s.toList.length

/-- The set has no elements. -/
def isEmpty (s : OrderedSet α) : Bool := s.toList.isEmpty

variable [DecidableEq α]

/-- The set with an element, at the end when it is new. -/
def insert (s : OrderedSet α) (a : α) : OrderedSet α :=
  if h : a ∈ s.toList then s
  else ⟨s.toList ++ [a], List.nodup_append.2 ⟨s.nodup, by simp, fun b hb c hc heq =>
    h (List.mem_singleton.1 hc ▸ heq ▸ hb)⟩⟩

/-- The set of a list's elements in order of first occurrence. -/
def ofList (as : List α) : OrderedSet α := as.foldl insert empty

theorem mem_insert (s : OrderedSet α) (a b : α) : b ∈ s.insert a ↔ b ∈ s ∨ b = a := by
  show b ∈ (s.insert a).toList ↔ b ∈ s.toList ∨ b = a
  unfold insert
  split
  · next h => exact ⟨Or.inl, fun hb => hb.elim id fun hba => hba ▸ h⟩
  · simp

theorem insert_of_mem {s : OrderedSet α} {a : α} (h : a ∈ s) : s.insert a = s := by
  unfold insert
  exact dif_pos h

theorem toList_insert_of_notMem {s : OrderedSet α} {a : α} (h : a ∉ s.toList) :
    (s.insert a).toList = s.toList ++ [a] := by
  unfold insert
  rw [dif_neg h]

theorem mem_foldl_insert (s : OrderedSet α) (as : List α) (b : α) :
    b ∈ as.foldl insert s ↔ b ∈ s ∨ b ∈ as := by
  induction as generalizing s with
  | nil => simp
  | cons a as ih => rw [List.foldl_cons, ih, mem_insert, List.mem_cons, or_assoc]

theorem mem_ofList (as : List α) (b : α) : b ∈ ofList as ↔ b ∈ as := by
  rw [ofList, mem_foldl_insert]
  exact or_iff_right List.not_mem_nil

theorem toList_foldl_insert {s : OrderedSet α} {as : List α} (h : (s.toList ++ as).Nodup) :
    (as.foldl insert s).toList = s.toList ++ as := by
  induction as generalizing s with
  | nil => simp
  | cons a as ih =>
    have hnew : a ∉ s.toList := fun ha =>
      (List.nodup_append.mp h).2.2 a ha a List.mem_cons_self rfl
    have hs : (s.insert a).toList ++ as = s.toList ++ a :: as := by
      rw [toList_insert_of_notMem hnew, List.append_assoc]
      rfl
    rw [List.foldl_cons, ih (hs ▸ h), hs]

/-- A part of the elements after many insertions is what the insertions of that part give. -/
theorem filter_toList_foldl_insert (p : α → Bool) (as : List α) {s t : OrderedSet α}
    (h : s.toList.filter p = t.toList) :
    (as.foldl insert s).toList.filter p = ((as.filter p).foldl insert t).toList := by
  induction as generalizing s t with
  | nil => exact h
  | cons a as ih =>
    rw [List.foldl_cons]
    by_cases hp : p a = true
    · rw [List.filter_cons_of_pos hp, List.foldl_cons]
      refine ih ?_
      by_cases ha : a ∈ s.toList
      · have ht : a ∈ t.toList := by
          rw [← h]
          exact List.mem_filter.mpr ⟨ha, hp⟩
        rw [insert_of_mem ha, insert_of_mem ht, h]
      · have ht : a ∉ t.toList := by
          rw [← h]
          exact fun hm => ha (List.mem_filter.mp hm).1
        rw [toList_insert_of_notMem ha, toList_insert_of_notMem ht, List.filter_append, h,
          List.filter_cons_of_pos hp]
        rfl
    · rw [List.filter_cons_of_neg hp]
      refine ih ?_
      by_cases ha : a ∈ s.toList
      · rw [insert_of_mem ha, h]
      · rw [toList_insert_of_notMem ha, List.filter_append, h, List.filter_cons_of_neg hp]
        exact List.append_nil _

/-- **A part of a list's set** is the set of that part of the list. -/
theorem filter_toList_ofList (p : α → Bool) (as : List α) :
    (ofList as).toList.filter p = (ofList (as.filter p)).toList :=
  filter_toList_foldl_insert p as rfl

/-- **A set lists the elements of a list in order of first occurrence.** -/
structure IsOrderOf (s : OrderedSet α) (as : List α) : Prop where
  mem_iff : ∀ a, a ∈ s ↔ a ∈ as
  order : s.toList.Pairwise fun a b => as.idxOf a < as.idxOf b

/-- One more element goes to the end if it has not occurred, and what has occurred keeps its
place. -/
theorem IsOrderOf.insert {s : OrderedSet α} {as : List α} (h : s.IsOrderOf as) (a : α) :
    (s.insert a).IsOrderOf (as ++ [a]) := by
  have hmem : ∀ b, b ∈ s.insert a ↔ b ∈ as ++ [a] := fun b => by
    rw [mem_insert, h.mem_iff, List.mem_append, List.mem_singleton]
  have hbefore : s.toList.Pairwise fun b c => (as ++ [a]).idxOf b < (as ++ [a]).idxOf c := by
    refine h.order.imp_of_mem fun {b c} hb hc hbc => ?_
    rwa [List.idxOf_append, if_pos ((h.mem_iff b).mp hb), List.idxOf_append,
      if_pos ((h.mem_iff c).mp hc)]
  by_cases ha : a ∈ s.toList
  · exact ⟨hmem, by rwa [insert_of_mem ha]⟩
  · refine ⟨hmem, ?_⟩
    rw [toList_insert_of_notMem ha, List.pairwise_append]
    refine ⟨hbefore, List.pairwise_singleton _ _, fun b hb c hc => ?_⟩
    obtain rfl := List.mem_singleton.mp hc
    have hb' : b ∈ as := (h.mem_iff b).mp hb
    have hc' : c ∉ as := fun hc => ha ((h.mem_iff c).mpr hc)
    rw [List.idxOf_append, if_pos hb', List.idxOf_append, if_neg hc']
    exact Nat.lt_of_lt_of_le (List.idxOf_lt_length_of_mem hb') (Nat.le_add_left _ _)

theorem IsOrderOf.foldl_insert {s : OrderedSet α} {done : List α} (h : s.IsOrderOf done)
    (as : List α) : (as.foldl OrderedSet.insert s).IsOrderOf (done ++ as) := by
  induction as generalizing s done with
  | nil => rwa [List.append_nil]
  | cons a as ih =>
    rw [List.foldl_cons, List.append_cons]
    exact ih (h.insert a)

/-- **A list's set** is in order of first occurrence. -/
theorem IsOrderOf.ofList (as : List α) : (OrderedSet.ofList as).IsOrderOf as := by
  have hempty : (empty : OrderedSet α).IsOrderOf [] := ⟨fun _ => Iff.rfl, List.Pairwise.nil⟩
  exact hempty.foldl_insert as

theorem ofList_toList (s : OrderedSet α) : ofList s.toList = s :=
  ext (toList_foldl_insert (s := empty) s.nodup)

end OrderedSet

namespace OrderedMap

variable {κ ν : Type} [DecidableEq κ]

/-- The keys as a set, in order of first insertion. -/
def keySet (m : OrderedMap κ ν) : OrderedSet κ := ⟨m.keys, m.nodup⟩

theorem keySet_insert (m : OrderedMap κ ν) (k : κ) (v : ν) :
    (m.insert k v).keySet = m.keySet.insert k := by
  refine OrderedSet.ext ?_
  show (m.insert k v).keys = (m.keySet.insert k).toList
  rw [keys_insert]
  split
  · next h => exact congrArg OrderedSet.toList (OrderedSet.insert_of_mem (s := m.keySet) h).symm
  · next h => exact (OrderedSet.toList_insert_of_notMem (s := m.keySet) h).symm

/-- **A list's map has the keys of the list** in order of first occurrence. -/
theorem keySet_ofList (es : List (κ × ν)) : (ofList es).keySet = .ofList (es.map Prod.fst) := by
  have hall : ∀ m : OrderedMap κ ν,
      (m.insertAll es).keySet = (es.map Prod.fst).foldl OrderedSet.insert m.keySet := by
    induction es with
    | nil => exact fun m => rfl
    | cons e es ih =>
      intro m
      show ((m.insert e.1 e.2).insertAll es).keySet = _
      rw [ih, keySet_insert]
      rfl
  exact hall empty

end OrderedMap

end ChannelSerde
