import ChannelSerde.Declaration.Conversion

/-!
# Indexes side by side

A program has several indexes at a time. It adds classes and declarations to one of them, and it
makes further ones: a copy with other declarations, or what an index is after the rules. What is
made has no part in common with what it was made of that could change later, so an act changes at
most the index to which it adds. All others are as they were, however much is done
(`Shelf.getElem?_run`).
-/

namespace ChannelSerde

namespace AnyIndex

/-- The index with what it holds itself changed. Nothing is added to a foreign one. -/
def editHeld (f : Index → Index) : AnyIndex → AnyIndex
  | own i => own (f i)
  | borrowing i lender => borrowing (f i) lender
  | foreign s => foreign s

/-- A copy with other declarations. A foreign index has none. -/
def copyWith? (sites : List Site) : AnyIndex → Option AnyIndex
  | own i | borrowing i _ => some (own (i.withSites sites))
  | foreign _ => none

end AnyIndex

/-- **Indexes side by side**, in the order in which they came about. -/
abbrev Shelf := List AnyIndex

namespace Shelf

/-- **What is done with indexes**, each given by its place. -/
inductive Act where
  | addClass (n : Nat) (c : ClassRecord)
  | addSite (n : Nat) (s : Site)
  | copy (n : Nat) (sites : List Site)
  | convert (n : Nat) (rules : List MarkerRule)

/-- The index to which something is added. -/
def Act.changed? : Act → Option Nat
  | .addClass n _ | .addSite n _ => some n
  | .copy _ _ | .convert _ _ => none

/-- **The indexes after an act.** What is made goes to the end. -/
def next (shelf : Shelf) : Act → Shelf
  | .addClass n c => shelf.modify n (.editHeld (·.addClass c))
  | .addSite n s => shelf.modify n (.editHeld (·.addSite s))
  | .copy n sites => shelf ++ (shelf[n]?.bind (·.copyWith? sites)).toList
  | .convert n rules => shelf ++ (shelf[n]?.map (·.convert rules)).toList

/-- **The indexes after many acts.** -/
def run (shelf : Shelf) (acts : List Act) : Shelf := acts.foldl next shelf

variable {shelf : Shelf} {n : Nat}

/-- **An act changes at most the index to which it adds.** -/
theorem getElem?_next (hn : n < shelf.length) {act : Act} (hact : act.changed? ≠ some n) :
    (shelf.next act)[n]? = shelf[n]? := by
  cases act with
  | addClass k c | addSite k s =>
    have hk : k ≠ n := fun h => hact (congrArg some h)
    exact List.getElem?_modify_ne _ _ hk
  | copy k sites | convert k rules => exact List.getElem?_append_left hn

/-- **An index to which nothing is added stays as it is**, whatever is done with it and with
others. -/
theorem getElem?_run {i : AnyIndex} (hi : shelf[n]? = some i) {acts : List Act}
    (hacts : ∀ act ∈ acts, act.changed? ≠ some n) : (shelf.run acts)[n]? = some i := by
  induction acts generalizing shelf with
  | nil => exact hi
  | cons act acts ih =>
    obtain ⟨hn, -⟩ := List.getElem?_eq_some_iff.mp hi
    have hnext : (shelf.next act)[n]? = some i :=
      (getElem?_next hn (hacts act List.mem_cons_self)).trans hi
    exact ih hnext fun a ha => hacts a (List.mem_cons_of_mem act ha)

theorem next_convert {i : AnyIndex} (hi : shelf[n]? = some i) (rules : List MarkerRule) :
    shelf.next (.convert n rules) = shelf ++ [i.convert rules] := by
  rw [next, hi]
  rfl

end Shelf

end ChannelSerde
