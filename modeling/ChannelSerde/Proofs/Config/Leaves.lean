import ChannelSerde.Config.DottedKeys

/-!
# The leaves of a mapping

A mapping is made dotted by going through it and merging what its parts give, part by part. What
comes out can be said without the merging. A mapping has leaves: values that are neither null nor
mappings, each of them at a position and under a path of keys. The path, joined by full stops, is
the key of the leaf, and of leaves with one key the last in document order is the one that counts.
Two paths may well have one key, `1` and `"1"` or `a.b` and `a` with `b` below.

Merging the map of a list is merging the list (`OrderedMap.insertAll_ofList`). So all that is merged
is one list, the `filings` of the mapping (`fileEntries_eq`), and the laws of dotted keys are read
off this list: which leaf wins, what a start does to the keys, and that a part may be written dotted
or nested.
-/

namespace ChannelSerde

/-- **A value that is filed under its key**: neither null nor a mapping. -/
def Value.IsLeaf (v : Value) : Prop := v ≠ .null ∧ ∀ entries, v ≠ .map entries

namespace Config

/-- **Induction on the entries of a mapping**, those of the mappings in it included. -/
theorem entries_induction {motive : List (Scalar × Value) → Prop} (nil : motive [])
    (null : ∀ k rest, motive rest → motive ((k, .null) :: rest))
    (leaf : ∀ k v rest, v.IsLeaf → motive rest → motive ((k, v) :: rest))
    (map : ∀ k inner rest, motive inner → motive rest → motive ((k, .map inner) :: rest)) :
    ∀ entries, motive entries
  | [] => nil
  | (k, .map inner) :: rest =>
    map k inner rest (entries_induction nil null leaf map inner)
      (entries_induction nil null leaf map rest)
  | (k, .list items) :: rest =>
    leaf k _ rest ⟨Value.noConfusion, fun _ => Value.noConfusion⟩
      (entries_induction nil null leaf map rest)
  | (k, .scalar s) :: rest => by
    have hrest := entries_induction nil null leaf map rest
    by_cases hs : s = .null
    · subst hs
      exact null k rest hrest
    · exact leaf k _ rest ⟨fun h => hs (Value.scalar.inj h), fun _ => Value.noConfusion⟩ hrest

/-! ## What is filed -/

mutual

/-- What a value that stands under a key files. -/
def filingsOf (key : String) : Value → List (String × String)
  | .scalar .null => []
  | .scalar s => [(key, (Value.scalar s).propertyText)]
  | .list items => [(key, (Value.list items).propertyText)]
  | .map entries => filings (key ++ ".") entries

/-- **What a mapping files**, one after the other, under keys after the given start. -/
def filings (start : String) : List (Scalar × Value) → List (String × String)
  | [] => []
  | (k, v) :: rest => filingsOf (start ++ k.plain) v ++ filings start rest

end

theorem filingsOf_leaf {v : Value} (h : v.IsLeaf) (key : String) :
    filingsOf key v = [(key, v.propertyText)] := by
  cases v with
  | scalar s =>
    cases s with
    | null => exact absurd rfl h.1
    | _ => rfl
  | list items => rfl
  | map entries => exact absurd rfl (h.2 entries)

theorem fileValue_leaf {v : Value} (h : v.IsLeaf) (flat : Properties) (key : String) :
    fileValue flat key v = flat.insert key v.propertyText := by
  cases v with
  | scalar s =>
    cases s with
    | null => exact absurd rfl h.1
    | _ => rfl
  | list items => rfl
  | map entries => exact absurd rfl (h.2 entries)

/-- **Putting in a mapping is putting in what it files**, whatever was merged on the way. -/
theorem fileEntries_eq (entries : List (Scalar × Value)) (flat : Properties) (start : String) :
    fileEntries flat start entries = flat.insertAll (filings start entries) := by
  induction entries using entries_induction generalizing flat start with
  | nil => rfl
  | null k rest ih => exact ih flat start
  | leaf k v rest hv ih =>
    show fileEntries (fileValue flat (start ++ k.plain) v) start rest = flat.insertAll (_ ++ _)
    rw [fileValue_leaf hv, filingsOf_leaf hv, ih]
    rfl
  | map k inner rest ihinner ih =>
    show fileEntries (flat.insertAll (fileEntries .empty _ inner).entries) start rest
      = flat.insertAll (filings _ inner ++ _)
    rw [ihinner, ih, OrderedMap.insertAll_append]
    exact congrArg (OrderedMap.insertAll · _) (OrderedMap.insertAll_ofList flat _)

theorem dotted_eq (entries : List (Scalar × Value)) (start : String) :
    dotted entries start = .ofList (filings start entries) :=
  fileEntries_eq entries .empty start

/-! ## Leaves -/

/-- **A leaf**: where it stands, under which keys, and its value. -/
structure Leaf where
  /-- The position of each entry on the way, from the outermost mapping down. -/
  positions : List Nat
  /-- The key of each entry on the way. -/
  path : List Scalar
  value : Value

namespace Leaf

/-- The leaf as one of the mapping around, where this mapping is an entry. -/
def under (n : Nat) (k : Scalar) (l : Leaf) : Leaf := ⟨n :: l.positions, k :: l.path, l.value⟩

/-- **The key of a leaf**: its path, joined by full stops. -/
def key (l : Leaf) : String := ".".intercalate (l.path.map Scalar.plain)

/-- **One leaf stands before another** in the document: at the first place where the ways to them
part, its way takes the earlier entry. -/
def Before (l l' : Leaf) : Prop := List.Lex (· < ·) l.positions l'.positions

/-- Of two leaves at most one stands before the other. -/
theorem Before.asymm {l l' : Leaf} (h : l.Before l') : ¬ l'.Before l := by
  unfold Before at *
  generalize l.positions = ns at *
  generalize l'.positions = ms at *
  intro h'
  induction h with
  | nil => cases h'
  | rel hn =>
    obtain hm | ⟨rfl, -⟩ := List.cons_lex_cons_iff.mp h'
    · exact Nat.lt_asymm hn hm
    · exact Nat.lt_irrefl _ hn
  | cons _ ih =>
    obtain hm | ⟨-, h'⟩ := List.cons_lex_cons_iff.mp h'
    · exact Nat.lt_irrefl _ hm
    · exact ih h'

end Leaf

/-- **The leaves of a mapping.** -/
inductive HasLeaf : List (Scalar × Value) → Leaf → Prop
  /-- A value of the mapping that is a leaf. -/
  | here {entries n k v} (stands : entries[n]? = some (k, v)) (leaf : v.IsLeaf) :
    HasLeaf entries ⟨[n], [k], v⟩
  /-- A leaf of a mapping in it. -/
  | inside {entries n k inner l} (stands : entries[n]? = some (k, .map inner))
    (leaf : HasLeaf inner l) : HasLeaf entries (l.under n k)

theorem HasLeaf.path_ne_nil {entries : List (Scalar × Value)} {l : Leaf} (h : HasLeaf entries l) :
    l.path ≠ [] := by
  cases h <;> exact List.cons_ne_nil _ _

theorem HasLeaf.key_under {entries : List (Scalar × Value)} {l : Leaf} (h : HasLeaf entries l)
    (n : Nat) (k : Scalar) : (l.under n k).key = k.plain ++ "." ++ l.key := by
  have hpath : l.path.map Scalar.plain ≠ [] := fun hnil => h.path_ne_nil (List.map_eq_nil_iff.mp hnil)
  exact String.intercalate_cons_of_ne_nil hpath

mutual

/-- The leaves of a value that is the entry at a position. -/
def leavesOf (n : Nat) (k : Scalar) : Value → List Leaf
  | .scalar .null => []
  | .scalar s => [⟨[n], [k], .scalar s⟩]
  | .list items => [⟨[n], [k], .list items⟩]
  | .map entries => (leaves 0 entries).map (·.under n k)

/-- **The leaves of entries** in document order, the first entry at the given position. -/
def leaves (n : Nat) : List (Scalar × Value) → List Leaf
  | [] => []
  | (k, v) :: rest => leavesOf n k v ++ leaves (n + 1) rest

end

theorem leavesOf_leaf {v : Value} (h : v.IsLeaf) (n : Nat) (k : Scalar) :
    leavesOf n k v = [⟨[n], [k], v⟩] := by
  cases v with
  | scalar s =>
    cases s with
    | null => exact absurd rfl h.1
    | _ => rfl
  | list items => rfl
  | map entries => exact absurd rfl (h.2 entries)

/-- What is listed is a leaf of the mapping, if the entries before these are counted in. -/
theorem hasLeaf_of_mem_leaves {entries : List (Scalar × Value)} {l : Leaf}
    (front : List (Scalar × Value)) (h : l ∈ leaves front.length entries) :
    HasLeaf (front ++ entries) l := by
  induction entries using entries_induction generalizing front l with
  | nil => exact absurd h List.not_mem_nil
  | null k rest ih =>
    have hrest := ih (front ++ [(k, .null)]) (by rwa [List.length_append])
    rwa [List.append_assoc] at hrest
  | leaf k v rest hv ih =>
    rw [leaves, leavesOf_leaf hv] at h
    obtain rfl | h := List.mem_cons.mp h
    · exact .here (by simp) hv
    · have hrest := ih (front ++ [(k, v)]) (by rwa [List.length_append])
      rwa [List.append_assoc] at hrest
  | map k inner rest ihinner ih =>
    obtain h | h := List.mem_append.mp h
    · obtain ⟨l, hl, rfl⟩ := List.mem_map.mp h
      exact .inside (by simp) (ihinner [] hl)
    · have hrest := ih (front ++ [(k, .map inner)]) (by rwa [List.length_append])
      rwa [List.append_assoc] at hrest

theorem mem_leaves_of_getElem? {entries : List (Scalar × Value)} {m n : Nat} {k : Scalar} {v : Value}
    {l : Leaf} (hstands : entries[m]? = some (k, v)) (hl : l ∈ leavesOf (n + m) k v) :
    l ∈ leaves n entries := by
  induction entries generalizing m n with
  | nil => exact absurd hstands (by simp)
  | cons e rest ih =>
    cases m with
    | zero =>
      obtain rfl : e = (k, v) := by simpa using hstands
      exact List.mem_append_left _ hl
    | succ m =>
      rw [List.getElem?_cons_succ] at hstands
      exact List.mem_append_right _ (ih hstands (by rwa [Nat.add_right_comm]))

/-- **Exactly the leaves are listed.** -/
theorem mem_leaves {entries : List (Scalar × Value)} {l : Leaf} :
    l ∈ leaves 0 entries ↔ HasLeaf entries l := by
  constructor
  · exact hasLeaf_of_mem_leaves []
  · intro h
    induction h with
    | here stands leaf =>
      refine mem_leaves_of_getElem? stands ?_
      rw [leavesOf_leaf leaf, Nat.zero_add]
      exact List.mem_singleton_self _
    | inside stands _ ih =>
      refine mem_leaves_of_getElem? stands (List.mem_map.mpr ⟨_, ih, ?_⟩)
      rw [Nat.zero_add]

/-- The way to a leaf that is listed takes one of the entries. -/
theorem exists_positions_of_mem_leaves {entries : List (Scalar × Value)} {n : Nat} {l : Leaf}
    (h : l ∈ leaves n entries) : ∃ m ns, n ≤ m ∧ l.positions = m :: ns := by
  induction entries using entries_induction generalizing n with
  | nil => exact absurd h List.not_mem_nil
  | null k rest ih =>
    obtain ⟨m, ns, hm, hl⟩ := ih (n := n + 1) h
    exact ⟨m, ns, Nat.le_of_succ_le hm, hl⟩
  | leaf k v rest hv ih =>
    rw [leaves, leavesOf_leaf hv] at h
    obtain rfl | h := List.mem_cons.mp h
    · exact ⟨n, [], Nat.le_refl n, rfl⟩
    · obtain ⟨m, ns, hm, hl⟩ := ih h
      exact ⟨m, ns, Nat.le_of_succ_le hm, hl⟩
  | map k inner rest _ ih =>
    obtain h | h := List.mem_append.mp h
    · obtain ⟨l, -, rfl⟩ := List.mem_map.mp h
      exact ⟨n, l.positions, Nat.le_refl n, rfl⟩
    · obtain ⟨m, ns, hm, hl⟩ := ih h
      exact ⟨m, ns, Nat.le_of_succ_le hm, hl⟩

/-- What stands in one entry stands before what stands in a later one. -/
theorem Leaf.before_of_mem_leaves {rest : List (Scalar × Value)} {n : Nat} {ns : List Nat}
    {l l' : Leaf} (hl : l.positions = n :: ns) (hl' : l' ∈ leaves (n + 1) rest) : l.Before l' := by
  obtain ⟨m, ms, hm, hl'⟩ := exists_positions_of_mem_leaves hl'
  unfold Leaf.Before
  rw [hl, hl']
  exact .rel hm

/-- **The leaves are listed in document order.** -/
theorem pairwise_leaves (entries : List (Scalar × Value)) (n : Nat) :
    (leaves n entries).Pairwise Leaf.Before := by
  induction entries using entries_induction generalizing n with
  | nil => exact .nil
  | null k rest ih => exact ih (n + 1)
  | leaf k v rest hv ih =>
    rw [leaves, leavesOf_leaf hv]
    exact .cons (fun l' hl' => Leaf.before_of_mem_leaves rfl hl') (ih (n + 1))
  | map k inner rest ihinner ih =>
    refine List.pairwise_append.mpr ⟨?_, ih (n + 1), ?_⟩
    · exact List.pairwise_map.mpr ((ihinner 0).imp fun h => .cons h)
    · intro l hl l' hl'
      obtain ⟨l, -, rfl⟩ := List.mem_map.mp hl
      exact Leaf.before_of_mem_leaves rfl hl'

/-- **What a mapping files is what its leaves file.** -/
theorem filings_eq (entries : List (Scalar × Value)) (n : Nat) (start : String) :
    filings start entries = (leaves n entries).map fun l => (start ++ l.key, l.value.propertyText) := by
  induction entries using entries_induction generalizing n start with
  | nil => rfl
  | null k rest ih => exact ih (n + 1) start
  | leaf k v rest hv ih =>
    rw [filings, leaves, filingsOf_leaf hv, leavesOf_leaf hv, List.map_append, ← ih (n + 1)]
    simp [Leaf.key]
  | map k inner rest ihinner ih =>
    rw [filings, leaves, List.map_append, ← ih (n + 1)]
    refine congrArg (· ++ filings start rest) ?_
    show filings _ inner = ((leaves 0 inner).map _).map _
    rw [ihinner 0, List.map_map]
    refine List.map_congr_left fun l hl => Prod.ext ?_ rfl
    show start ++ k.plain ++ "." ++ l.key = start ++ (l.under n k).key
    rw [(mem_leaves.mp hl).key_under, String.append_assoc, String.append_assoc, String.append_assoc]

theorem filings_append_start (entries : List (Scalar × Value)) (front start : String) :
    filings (front ++ start) entries = (filings start entries).map fun e => (front ++ e.1, e.2) := by
  rw [filings_eq entries 0, filings_eq entries 0, List.map_map]
  refine List.map_congr_left fun l _ => Prod.ext ?_ rfl
  exact String.append_assoc

/-- **A longer start goes before every key.** -/
theorem entries_dotted_append (entries : List (Scalar × Value)) (front start : String) :
    (dotted entries (front ++ start)).entries
      = (dotted entries start).entries.map fun e => (front ++ e.1, e.2) := by
  rw [dotted_eq, dotted_eq, filings_append_start]
  exact OrderedMap.entries_ofList_map (fun _ _ h => (String.append_right_inj front).mp h) _

/-! ## Parts that are written dotted -/

/-- Entries that are texts under texts file what they are. -/
theorem filings_texts (es : List (String × String)) (start : String) :
    filings start (es.map fun e => (.text e.1, .text e.2)) = es.map fun e => (start ++ e.1, e.2) := by
  induction es with
  | nil => rfl
  | cons e es ih =>
    show _ :: filings start (es.map _) = _
    rw [ih]
    rfl

/-- **Dotted entries** of a mapping: entries of the mapping around it that say the same. Each entry
comes under the key of the mapping, a full stop, and its own key. A mapping in it may be written
out or left nested, a leaf may be written as its text, null may be left out, and the mapping may be
written as the properties that it gives by itself. -/
inductive Dotted : String → List (Scalar × Value) → List (Scalar × Value) → Prop
  | nil {start} : Dotted start [] []
  | keep {start k v rest es} (later : Dotted start rest es) :
    Dotted start ((k, v) :: rest) ((.text (start ++ k.plain), v) :: es)
  | skip {start k rest es} (later : Dotted start rest es) : Dotted start ((k, .null) :: rest) es
  | write {start k v rest es} (leaf : v.IsLeaf) (later : Dotted start rest es) :
    Dotted start ((k, v) :: rest) ((.text (start ++ k.plain), .text v.propertyText) :: es)
  | spread {start k inner rest es fs} (within : Dotted (start ++ k.plain ++ ".") inner es)
    (later : Dotted start rest fs) : Dotted start ((k, .map inner) :: rest) (es ++ fs)
  | whole {start inner} :
    Dotted start inner ((dotted inner start).entries.map fun e => (.text e.1, .text e.2))

/-- **A mapping with one part written dotted**: an entry that is a mapping, at whatever depth, is
replaced where it stands by dotted entries. -/
inductive Respelled : List (Scalar × Value) → List (Scalar × Value) → Prop
  | here {before k inner es after} (part : Dotted (k.plain ++ ".") inner es) :
    Respelled (before ++ (k, .map inner) :: after) (before ++ es ++ after)
  | inside {before k inner inner' after} (part : Respelled inner inner') :
    Respelled (before ++ (k, .map inner) :: after) (before ++ (k, .map inner') :: after)

theorem filings_append (start : String) (es fs : List (Scalar × Value)) :
    filings start (es ++ fs) = filings start es ++ filings start fs := by
  induction es with
  | nil => rfl
  | cons e es ih =>
    obtain ⟨k, v⟩ := e
    rw [List.cons_append, filings, filings, ih, List.append_assoc]

/-- **Dotted entries put in what the mapping would** under its key. -/
theorem Dotted.insertAll_eq {start : String} {inner es : List (Scalar × Value)}
    (h : Dotted start inner es) (flat : Properties) (front : String) :
    flat.insertAll (filings front es) = flat.insertAll (filings (front ++ start) inner) := by
  induction h generalizing flat with
  | nil => rfl
  | keep _ ih =>
    rw [filings, filings, OrderedMap.insertAll_append, OrderedMap.insertAll_append, ih,
      String.append_assoc]
    rfl
  | skip _ ih => exact ih flat
  | write leaf _ ih =>
    rw [filings, filings, OrderedMap.insertAll_append, OrderedMap.insertAll_append, ih,
      filingsOf_leaf leaf, String.append_assoc]
    rfl
  | @spread start k _ _ _ _ _ _ ihwithin ih =>
    have hstart : front ++ (start ++ k.plain ++ ".") = front ++ start ++ k.plain ++ "." := by
      simp only [String.append_assoc]
    rw [filings_append, filings, OrderedMap.insertAll_append, OrderedMap.insertAll_append, ihwithin,
      ih, hstart]
    rfl
  | whole =>
    rw [filings_texts, ← entries_dotted_append, dotted_eq, OrderedMap.insertAll_ofList]

/-- **A part may be written dotted or nested.** -/
theorem Respelled.insertAll_eq {entries entries' : List (Scalar × Value)}
    (h : Respelled entries entries') (flat : Properties) (start : String) :
    flat.insertAll (filings start entries') = flat.insertAll (filings start entries) := by
  induction h generalizing flat start with
  | @here _ k _ _ _ part =>
    have hstart : start ++ (k.plain ++ ".") = start ++ k.plain ++ "." := String.append_assoc.symm
    rw [filings_append, filings_append, filings_append, filings, OrderedMap.insertAll_append,
      OrderedMap.insertAll_append, OrderedMap.insertAll_append, OrderedMap.insertAll_append,
      part.insertAll_eq, hstart]
    rfl
  | inside _ ih =>
    rw [filings_append, filings_append, filings, filings, OrderedMap.insertAll_append,
      OrderedMap.insertAll_append, OrderedMap.insertAll_append, OrderedMap.insertAll_append]
    exact congrArg (OrderedMap.insertAll · _) (ih _ _)

/-! ## Which leaf counts -/

/-- A leaf under its key. -/
def Leaf.filing (l : Leaf) : String × String := (l.key, l.value.propertyText)

theorem filings_empty (entries : List (Scalar × Value)) :
    filings "" entries = (leaves 0 entries).map Leaf.filing := by
  rw [filings_eq entries 0]
  simp only [String.empty_append]
  rfl

/-- **The leaf that counts** among those with one key is the last one. -/
theorem get?_dotted_eq_some_iff {entries : List (Scalar × Value)} {key text : String} :
    (dotted entries "").get? key = some text
      ↔ ∃ l, HasLeaf entries l ∧ l.key = key ∧ l.value.propertyText = text
        ∧ ∀ l', HasLeaf entries l' → l'.key = key → l' = l ∨ l'.Before l := by
  rw [dotted_eq, filings_empty, OrderedMap.get?_ofList_eq_some_iff]
  have hsorted := pairwise_leaves entries 0
  constructor
  · rintro ⟨front, back, hsplit, hback⟩
    obtain ⟨earlier, rest, hleaves, -, hrest⟩ := List.map_eq_append_iff.mp hsplit
    obtain ⟨l, later, rfl, hl, rfl⟩ := List.map_eq_cons_iff.mp hrest
    obtain ⟨hkey, htext⟩ := Prod.mk.inj hl
    refine ⟨l, mem_leaves.mp (by simp [hleaves]), hkey, htext, fun l' hl' hkey' => ?_⟩
    rw [hleaves] at hsorted
    rw [← mem_leaves, hleaves] at hl'
    obtain hearlier | hl' := List.mem_append.mp hl'
    · exact .inr ((List.pairwise_append.mp hsorted).2.2 l' hearlier l List.mem_cons_self)
    · obtain rfl | hlater := List.mem_cons.mp hl'
      · exact .inl rfl
      · -- nothing later has the key
        exact absurd (List.mem_map.mpr ⟨_, List.mem_map_of_mem hlater, hkey'⟩) hback
  · rintro ⟨l, hl, rfl, rfl, hlast⟩
    obtain ⟨earlier, later, hleaves⟩ := List.append_of_mem (mem_leaves.mpr hl)
    rw [hleaves] at hsorted
    refine ⟨earlier.map Leaf.filing, later.map Leaf.filing, ?_, fun hback => ?_⟩
    · rw [hleaves, List.map_append]
      rfl
    · obtain ⟨_, hfiling, hkey⟩ := List.mem_map.mp hback
      obtain ⟨l', hlater, rfl⟩ := List.mem_map.mp hfiling
      have hbefore : l.Before l' :=
        (List.pairwise_cons.mp (List.pairwise_append.mp hsorted).2.1).1 l' hlater
      have hl' : HasLeaf entries l' := mem_leaves.mp (by simp [hleaves, hlater])
      obtain rfl | hbefore' := hlast l' hl' hkey
      · exact hbefore.asymm hbefore
      · exact hbefore.asymm hbefore'

/-- Two paths may have one key: the later one counts, at the place of the first. -/
example : (dotted [(.text "a", .map [(.int 1, .text "x"), (.text "b", .text "y")]),
    (.text "a.1", .text "z")] "").entries = [("a.1", "z"), ("a.b", "y")] := by
  decide +kernel

/-- **A mapping made dotted says what its leaves say.** Its keys are the keys of its leaves. A key
answers the text of the last leaf, in document order, that has it; null and empty mappings have no
leaves. A start goes before every key and does nothing else. A mapping within, at whatever depth,
may be written dotted where it stands. And what has been made dotted stays as it is when it is made
dotted again. -/
theorem dotted_says_leaves (entries : List (Scalar × Value)) :
    (∀ key, key ∈ (dotted entries "").keys ↔ ∃ l, HasLeaf entries l ∧ l.key = key)
      ∧ (∀ key text, (dotted entries "").get? key = some text
          ↔ ∃ l, HasLeaf entries l ∧ l.key = key ∧ l.value.propertyText = text
            ∧ ∀ l', HasLeaf entries l' → l'.key = key → l' = l ∨ l'.Before l)
      ∧ (∀ start, (dotted entries start).entries
          = (dotted entries "").entries.map fun e => (start ++ e.1, e.2))
      ∧ (∀ start entries', Respelled entries entries' → dotted entries' start = dotted entries start)
      ∧ ∀ start, dotted ((dotted entries start).entries.map fun e => (.text e.1, .text e.2)) ""
          = dotted entries start := by
  refine ⟨fun key => ?_, fun key text => get?_dotted_eq_some_iff, fun start => ?_,
    fun start entries' h => ?_, fun start => ?_⟩
  · rw [dotted_eq, OrderedMap.mem_keys_ofList, filings_empty, List.map_map, List.mem_map]
    exact exists_congr fun l => and_congr_left' mem_leaves
  · rw [← entries_dotted_append, String.append_empty]
  · rw [dotted_eq, dotted_eq]
    exact h.insertAll_eq .empty start
  · rw [dotted_eq, filings_texts]
    simp only [String.empty_append]
    exact (congrArg OrderedMap.ofList (List.map_id' _)).trans (OrderedMap.ofList_entries _)

end Config

end ChannelSerde
