import ChannelSerde.Config.Source
import ChannelSerde.Text.Order

/-!
# A configuration over ranked sources

A configuration asks its sources from the greatest ordinal down, sources of one ordinal in the order
in which they were given, and takes the first answer. The type carries the proof that the sources
stand in that order; adding a source sorts again, and since the sort is stable the order of equals
is never lost.
-/

namespace ChannelSerde

open Config Text

/-- One source is asked before another: its ordinal is not smaller. -/
def Config.Source.before (a b : Source) : Bool :=
  decide (b.ordinal ≤ a.ordinal)

/-- **A configuration**: sources from the greatest ordinal down. -/
structure Config where
  sources : List Source
  ranked : sources.Pairwise fun a b => a.before b = true

namespace Config

/-- **The configuration over a list of sources.** -/
def ofSources (sources : List Source) : Config where
  sources := sources.mergeSort Source.before
  ranked := List.pairwise_mergeSort
    (fun a b c hab hbc => by
      simp only [Source.before, decide_eq_true_eq] at *
      omega)
    (fun a b => by
      simp only [Source.before, Bool.or_eq_true, decide_eq_true_eq]
      omega)
    sources

/-- The configuration with a further source, after those of the same ordinal. -/
def adding (c : Config) (s : Source) : Config :=
  ofSources (c.sources ++ [s])

/-- **The value of a key**: the first answer. -/
def get? (c : Config) (key : String) : Option String :=
  c.sources.findSome? fun s => s.answer key

/-- The value of a key, or the given one where no source answers. -/
def getD (c : Config) (key : String) (default : Option String) : Option String :=
  (c.get? key).or default

/-- **A switch**: on when the value is the word true in any case, blanks around it apart; a value
that is missing or blank is no answer. The letters of that word have no capitals outside ASCII. -/
def switch? (c : Config) (key : String) : Option Bool :=
  match c.get? key with
  | none => none
  | some v => if isBlankText v then none else some (asciiLower (trim v) == "true")

/-- **A key is set** when its value is not blank. -/
def isSet (c : Config) (key : String) : Bool :=
  match c.get? key with
  | none => false
  | some v => !isBlankText v

theorem isSet_iff (c : Config) (key : String) :
    c.isSet key = true ↔ ∃ v, c.get? key = some v ∧ isBlankText v = false := by
  unfold isSet
  cases c.get? key <;> simp

theorem isSet_eq_of_get?_eq {c d : Config} {key : String} (h : c.get? key = d.get? key) :
    c.isSet key = d.isSet key := by
  unfold isSet
  rw [h]

/-- **The names that some source lists**, none twice. -/
def names (c : Config) : OrderedSet String :=
  OrderedSet.ofList (c.sources.flatMap (·.names))

/-- The source whose answer is the value of a key. -/
def answering? (c : Config) (key : String) : Option Source :=
  c.sources.find? fun s => (s.answer key).isSome

/-- **The listed names with a given start**, without that start, and their values. A name that no
source answers is left out. -/
def under (c : Config) (start : String) : Properties :=
  OrderedMap.ofList (c.names.toList.filterMap fun name =>
    if startsWith name start then (c.get? name).map fun v => (dropChars name start.length, v)
    else none)

end Config

end ChannelSerde
