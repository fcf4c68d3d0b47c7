import ChannelSerde.OrderedMap
import ChannelSerde.Declaration.Site

/-!
# The index of symbols

An index holds what is known of classes, one record a name, and of declarations, each of them once.
It is asked three things: what is known of a class, which declarations there are, and where a marker
is used. An index that this library did not make answers the same three; `Symbols` is what both have
in common, and nothing is assumed between the answers. Where the classes have to be a table, so that
a chain of bases comes to an end, it is a `SymbolTable`.
-/

namespace ChannelSerde

/-- **A marker and the declaration on which it stands.** -/
structure Usage where
  marker : Marker
  site : Site
  deriving DecidableEq, Repr

/-- The uses of the markers of a name on declarations, in order. -/
def usagesIn (sites : List Site) (name : String) : List Usage :=
  sites.flatMap fun s => (s.markers.filter (·.name == name)).map fun m => ⟨m, s⟩

/-- **What an index answers.** -/
structure Symbols where
  /-- What is known of a class. -/
  classNamed : String → Option ClassRecord
  declarations : List Site
  /-- Where the markers of a name are used. -/
  usages : String → List Usage

/-- **What an index answers whose classes are a table.** -/
structure SymbolTable where
  classes : OrderedMap String ClassRecord
  declarations : List Site
  usages : String → List Usage

/-- The answers, with the table looked up. -/
def SymbolTable.symbols (t : SymbolTable) : Symbols :=
  { classNamed := t.classes.get?, declarations := t.declarations, usages := t.usages }

instance : Coe SymbolTable Symbols := ⟨SymbolTable.symbols⟩

/-- **An index of symbols.** -/
structure Index where
  classes : OrderedMap String ClassRecord
  declarations : OrderedSet Site
  deriving DecidableEq

namespace Index

/-- The index without symbols. -/
def empty : Index := ⟨OrderedMap.empty, OrderedSet.empty⟩

/-- The index with a class; a record of the same name is replaced where it stands. -/
def addClass (i : Index) (c : ClassRecord) : Index :=
  { i with classes := i.classes.insert c.name c }

/-- The index with a declaration, if it is a new one. -/
def addSite (i : Index) (s : Site) : Index :=
  { i with declarations := i.declarations.insert s }

/-- The index of classes and declarations, in order. -/
def ofLists (classes : List ClassRecord) (sites : List Site) : Index :=
  sites.foldl addSite (classes.foldl addClass empty)

/-- What is known of a class. -/
def classNamed (i : Index) (name : String) : Option ClassRecord := i.classes.get? name

/-- **Where the markers of a name are used.** -/
def usages (i : Index) (name : String) : List Usage := usagesIn i.declarations.toList name

/-- **The same classes with other declarations.** -/
def withSites (i : Index) (sites : List Site) : Index :=
  { i with declarations := .ofList sites }

/-- What an index answers. -/
def symbols (i : Index) : SymbolTable :=
  { classes := i.classes, declarations := i.declarations.toList, usages := i.usages }

end Index

end ChannelSerde
