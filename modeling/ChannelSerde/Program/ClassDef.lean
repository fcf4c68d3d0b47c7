import ChannelSerde.Declaration.Index

/-!
# Classes of a program

A class that a program defines is its full name and the classes it derives from, each of which is
such a class in turn. So a class carries the whole of what it derives from, nothing can derive from
itself, and what is recorded of a class is read off by recursion on it.

Where a name is looked for in a class and in all that it derives from, these are asked in one order,
its `linearization`. It comes of the orders of the bases and of the order of the bases themselves,
which it goes on with as long as they agree.

Two classes may bear one name, when a module defines it twice. A number tells them apart: the
classes that every program has bear the number zero, the defined ones are numbered as they come.

`Enrolment` is the table of classes as it is filled: it knows which classes are in already, and a
class that comes again adds nothing.
-/

namespace ChannelSerde

/-- **A class and the classes it derives from.** One without bases derives from the root class. -/
inductive ClassDef where
  | mk (number : Nat) (name : String) (bases : List ClassDef)
  deriving Repr

namespace ClassDef

/-- The full name. -/
def name : ClassDef → String
  | mk _ name _ => name

/-- The classes it derives from, in order. -/
def bases : ClassDef → List ClassDef
  | mk _ _ bases => bases

/-- What tells a class from every other. -/
def key : ClassDef → Nat × String
  | mk number name _ => (number, name)

/-- A class that every program has. -/
def standard (name : String) (bases : List ClassDef) : ClassDef := mk 0 name bases

instance : Inhabited ClassDef := ⟨standard rootClass []⟩

/-- The root of all classes. -/
def isRoot (c : ClassDef) : Bool := c.name == rootClass

mutual

/-- **What a class derives from, directly or not**, beginning with itself. A class that is reached
in several ways is met as often. -/
def lineage : ClassDef → List ClassDef
  | mk number name bases => mk number name bases :: lineages bases

/-- The lineages of classes, one after the other. -/
def lineages : List ClassDef → List ClassDef
  | [] => []
  | c :: rest => c.lineage ++ lineages rest

end

/-- **Orders joined into one**: what comes next is the first of the heads that stands in no tail. The
fuel bounds the number of classes. -/
def joined : Nat → List (List ClassDef) → List ClassDef
  | 0, _ => []
  | fuel + 1, orders =>
    let isFree (c : ClassDef) : Bool := orders.all fun cs => !cs.tail.any (·.key == c.key)
    match (orders.filterMap List.head?).find? isFree with
    | none => []
    | some c =>
      c :: joined fuel (orders.map fun cs => if cs.head?.any (·.key == c.key) then cs.tail else cs)

mutual

/-- **A class and what it derives from, each of them once**, every class before its bases. -/
def linearization : ClassDef → List ClassDef
  | mk number name bases =>
    let orders := linearizations bases ++ [bases]
    mk number name bases :: joined orders.flatten.length orders

/-- The linearization of each of some classes. -/
def linearizations : List ClassDef → List (List ClassDef)
  | [] => []
  | c :: rest => c.linearization :: linearizations rest

end

/-- The class from which generic classes derive. -/
def ofGenerics : ClassDef := standard "typing.Generic" []

/-- The class from which interfaces derive. -/
def ofProtocols : ClassDef := standard "typing.Protocol" [ofGenerics]

/-- A class takes type arguments of its own. -/
def isGeneric (c : ClassDef) : Bool := c.lineage.any (·.key == ofGenerics.key)

/-- **A class is an interface** if it says so itself; what derives from an interface is none. -/
def isInterface (c : ClassDef) : Bool :=
  c.key == ofProtocols.key || c.bases.any (·.key == ofProtocols.key)

/-- **What is recorded of a class**: its first base, and by name its further ones. -/
def info (c : ClassDef) : ClassRecord :=
  { name := c.name
    parent := some (c.bases.head?.map name |>.getD rootClass)
    interfaces := c.bases.tail.map name
    kind := if c.isInterface then .ofInterface else .ofClass }

end ClassDef

/-- **An index as classes are entered in it.** -/
structure Enrolment where
  index : Index
  /-- The classes that are in. -/
  known : List (Nat × String)

namespace Enrolment

/-- Nothing has been entered in an index yet. -/
def start (i : Index) : Enrolment := ⟨i, []⟩

/-- The record of a class is entered, and the class is known from now on. -/
def record (e : Enrolment) (c : ClassDef) : Enrolment :=
  { index := e.index.addClass c.info, known := c.key :: e.known }

/-- A class need not be entered: it is the root, or it is in already. -/
def passes (e : Enrolment) (c : ClassDef) : Bool := c.isRoot || e.known.contains c.key

mutual

/-- **A class is entered**, and after it what it derives from. -/
def enter (e : Enrolment) : ClassDef → Enrolment
  | .mk number name bases =>
    if e.passes (.mk number name bases) then e
    else (e.record (.mk number name bases)).enterAll bases

/-- Classes are entered one after the other. -/
def enterAll (e : Enrolment) : List ClassDef → Enrolment
  | [] => e
  | c :: rest => (e.enter c).enterAll rest

end

/-- A declaration is entered. -/
def declare (e : Enrolment) (s : Site) : Enrolment := { e with index := e.index.addSite s }

end Enrolment

end ChannelSerde
