import ChannelSerde.Log.Record
import ChannelSerde.Declaration.Index
import ChannelSerde.Text.Blank

/-!
# Making markers plain

A rule turns the markers of one name into markers of another with the same value; the first rule
whose source is a marker's name applies. What no rule applies to stays in front, in order; the new
markers follow, each of them only if it is not there yet.

An index of this library keeps its classes when its declarations are converted. A foreign index
cannot be copied: the result holds no classes of its own and asks the foreign index for them.
Converting that result gives an index that holds what the result held, and so no classes.
-/

namespace ChannelSerde

open Log Text

/-- **A rule**: markers named `source` become markers named `target`. -/
structure MarkerRule where
  source : String
  target : String
  deriving DecidableEq, Repr

/-- **The rules that make every marker a plain one.** -/
def plainRules : List MarkerRule := [
  ⟨Marker.protobufIncoming, Marker.incoming⟩, ⟨Marker.protobufOutgoing, Marker.outgoing⟩,
  ⟨Marker.protobufChannel, Marker.channel⟩]

/-- The rule for a marker: the first whose source is its name. -/
def ruleFor? (rules : List MarkerRule) (m : Marker) : Option MarkerRule :=
  rules.find? fun r => m.name == r.source

/-- A marker after the rules. -/
def rename (rules : List MarkerRule) (m : Marker) : Marker :=
  match ruleFor? rules m with
  | some r => { m with name := r.target }
  | none => m

namespace Site

/-- The markers that a rule applies to, after it. -/
def introduced (rules : List MarkerRule) (s : Site) : List Marker :=
  (s.markers.filter fun m => (ruleFor? rules m).isSome).map (rename rules)

/-- The markers that no rule applies to. -/
def retained (rules : List MarkerRule) (s : Site) : List Marker :=
  s.markers.filter fun m => (ruleFor? rules m).isNone

/-- Some rule applies to some marker. -/
def matchesRule (rules : List MarkerRule) (s : Site) : Bool :=
  s.markers.any fun m => (ruleFor? rules m).isSome

/-- A list with an element that is not in it yet. -/
def appendNew (ms : List Marker) (m : Marker) : List Marker :=
  if m ∈ ms then ms else ms ++ [m]

/-- **A declaration after the rules.** -/
def convert (rules : List MarkerRule) (s : Site) : Site :=
  if s.matchesRule rules then
    { s with markers := (s.introduced rules).foldl appendNew (s.retained rules) }
  else s

/-- **The declaration that takes the place of one** under the rules. If no rule applies to any
marker there is none: the declaration itself is handed back, and not one that is equal to it. -/
def remade? (rules : List MarkerRule) (s : Site) : Option Site :=
  if s.matchesRule rules then some (s.convert rules) else none

/-- What is logged when a declaration is converted. -/
def conversionRecords (rules : List MarkerRule) (s : Site) : List Record :=
  (s.markers.filter fun m => (ruleFor? rules m).isSome).map fun m =>
    record .markers .debug ("Transformed " ++ lastComponent m.name ++ " to "
      ++ lastComponent (rename rules m).name ++ " for channel: " ++ m.value)

end Site

/-- What is logged when declarations are converted. -/
def conversionRecords (rules : List MarkerRule) (sites : List Site) : List Record :=
  sites.flatMap (·.conversionRecords rules)

/-- **An index of this library after the rules.** -/
def Index.convert (rules : List MarkerRule) (i : Index) : Index :=
  i.withSites (i.declarations.toList.map (·.convert rules))

/-- **An index whose markers can be made plain.** -/
inductive AnyIndex where
  /-- One of this library. -/
  | own (index : Index)
  /-- A converted foreign one: it asks another for classes. -/
  | borrowing (index : Index) (lender : String → Option ClassRecord)
  /-- A foreign one. -/
  | foreign (symbols : Symbols)

namespace AnyIndex

/-- What an index answers. -/
def symbols : AnyIndex → Symbols
  | own i => i.symbols
  | borrowing i lender => { i.symbols.symbols with classNamed := lender }
  | foreign s => s

/-- **The classes and declarations that an index holds itself.** A foreign one holds its classes in
a way that is not known here. -/
def held : AnyIndex → Index
  | own i => i
  | borrowing i _ => i
  | foreign s => Index.empty.withSites s.declarations

/-- **An index after the rules.** -/
def convert (rules : List MarkerRule) : AnyIndex → AnyIndex
  | own i => own (i.convert rules)
  | borrowing i _ => own (i.convert rules)
  | foreign s =>
    borrowing (Index.empty.withSites (s.declarations.map (·.convert rules))) s.classNamed

end AnyIndex

end ChannelSerde
