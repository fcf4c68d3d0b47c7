import ChannelSerde.Program.ClassDef
import ChannelSerde.Value

/-!
# Type hints

A program says with a hint of which type a parameter, a field or a result is. Hints are built by the
operations below, which keep them in normal form as the program itself would: a choice between
types has no choice among its members and no member twice, a choice of one is that one, and a hint
that was annotated twice has its annotations in one list, the inner ones first.

A class that is not there yet may be named by a text. Where a text stands alone, or in brackets
after a container, it stays a text. A generic class, a choice or an annotation takes it for a
`forward` reference, which shows when it is never followed.

A hint is an object, and hints that are written alike may be one object wherever they stand: it is
made once and kept. A forward reference belongs to the object that took it, and is numbered with it.
What a reference has led to is kept by the object too, so the number says who shares it.

`Hint.reference` is the type that a hint refers to, and `Hint.classes` are the classes that it
names, in the order in which they are met.
-/

namespace ChannelSerde

/-- **How a choice between types is written**: in brackets after a name, or with bars. -/
inductive ChoiceStyle where
  | named
  | barred
  deriving DecidableEq, Repr

/-- A name that stands for a choice once it is given arguments. -/
inductive ChoiceForm where
  | union
  | optional
  deriving DecidableEq, Repr

/-- The full name of a form. -/
def ChoiceForm.name : ChoiceForm → String
  | union => "typing.Union"
  | optional => "typing.Optional"

/-- **A type hint.** -/
inductive Hint where
  | nothing
  | text (s : String)
  /-- A text that is a reference of the hint with a number. -/
  | forward (object : Nat) (s : String)
  | ofClass (c : ClassDef)
  | typeVariable (name : String)
  | ellipsis
  | form (f : ChoiceForm)
  /-- A value that is no type. -/
  | constant (v : Value)
  /-- A type with arguments; it follows forward references or keeps texts. -/
  | generic (follows : Bool) (origin : ClassDef) (arguments : List Hint)
  | choice (style : ChoiceStyle) (members : List Hint)
  | callable (parameters : List Hint) (result : Hint)
  | literal (values : List Scalar)
  | annotated (inner : Hint) (markers : List Marker)
  deriving Repr

instance : Inhabited Hint := ⟨.nothing⟩

namespace Hint

/-- The class of choices written with bars. -/
def ofChoices : ClassDef := .standard "types.UnionType" []

/-- The class of what can be called. -/
def ofCallables : ClassDef := .standard "collections.abc.Callable" []

/-! ## Sameness -/

mutual

/-- **Two hints are one**: they are built alike of the same classes. -/
def same : Hint → Hint → Bool
  | nothing, nothing => true
  | text s, text t => s == t
  | forward _ s, forward _ t => s == t
  | ofClass c, ofClass d => c.key == d.key
  | typeVariable m, typeVariable n => m == n
  | ellipsis, ellipsis => true
  | form f, form g => f == g
  | constant v, constant w => v.literal == w.literal
  | generic k c as, generic l d bs => k == l && c.key == d.key && sameAll as bs
  | choice k as, choice l bs => k == l && sameAll as bs
  | callable as a, callable bs b => sameAll as bs && same a b
  | literal vs, literal ws => vs == ws
  | annotated a ms, annotated b ns => same a b && ms == ns
  | _, _ => false

/-- Two lists of hints are one. -/
def sameAll : List Hint → List Hint → Bool
  | [], [] => true
  | a :: as, b :: bs => same a b && sameAll as bs
  | _, _ => false

end

/-- Each hint once, where it first occurs. -/
def distinct (hs : List Hint) : List Hint :=
  hs.foldl (fun out h => if out.any (·.same h) then out else out ++ [h]) []

/-! ## Building hints

What takes texts for references is given the number of the hint that is built. -/

/-- A text as an argument of what follows references. -/
def lift (object : Nat) : Hint → Hint
  | text s => forward object s
  | h => h

/-- The members of a choice; any other hint is its own only member. -/
def members : Hint → List Hint
  | choice _ hs => hs
  | h => [h]

/-- A choice in normal form. -/
def choose (style : ChoiceStyle) (hs : List Hint) : Hint :=
  match distinct (hs.flatMap members) with
  | [h] => h
  | hs => choice style hs

/-- **A choice between types.** -/
def union (object : Nat) (hs : List Hint) : Hint := choose .named (hs.map (lift object))

/-- The hint may stand in a choice with bars: it is a class, a container with arguments, or such a
choice itself. -/
def takesBar : Hint → Bool
  | nothing | ofClass _ | generic false _ _ | choice .barred _ => true
  | _ => false

/-- **A choice with a bar.** Where one side takes no bar it becomes a named choice. -/
def either (object : Nat) (a b : Hint) : Hint :=
  if a.takesBar && b.takesBar then choose .barred [a, b] else union object [a, b]

/-- A choice with a bar between each two of its members. -/
def eitherOf (object : Nat) : List Hint → Hint
  | [] => nothing
  | h :: rest => rest.foldl (either object) h

/-- **A hint with arguments in brackets.** -/
def subscript (object : Nat) (h : Hint) (arguments : List Hint) : Hint :=
  match h with
  | form .optional => union object (arguments ++ [nothing])
  | form .union => union object arguments
  | generic true c _ => generic true c (arguments.map (lift object))
  | ofClass c =>
    if c.isGeneric then generic true c (arguments.map (lift object)) else generic false c arguments
  | h => h

/-- What is called with some types and gives one. -/
def function (object : Nat) (parameters : List Hint) (result : Hint) : Hint :=
  callable (parameters.map (lift object)) (result.lift object)

/-- One of some values, each of them once. -/
def oneOf (values : List Scalar) : Hint :=
  literal (values.foldl (fun out v => if out.contains v then out else out ++ [v]) [])

/-- **A hint with an annotation.** -/
def annotate (object : Nat) (h : Hint) (markers : List Marker) : Hint :=
  match h with
  | annotated inner earlier => annotated inner (earlier ++ markers)
  | h => annotated (h.lift object) markers

/-! ## Reading hints -/

/-- A hint without its annotation. -/
def inner : Hint → Hint
  | annotated h _ => h
  | h => h

/-- The markers in a hint's annotation. -/
def markers : Hint → List Marker
  | annotated _ ms => ms
  | _ => []

/-- The names of the primitive types. -/
def primitiveNames : List String :=
  ["builtins.int", "builtins.float", "builtins.complex", "builtins.bool", "builtins.str",
    "builtins.bytes", "builtins.bytearray"]

/-- A class is a primitive type. -/
def isPrimitive (c : ClassDef) : Bool := c.key.1 == 0 && primitiveNames.contains c.name

/-- The type that a value in a choice of values refers to. -/
def valueReference : Scalar → TypeRef
  | .null => .void
  | .text s => .ofClass s
  | v => .ofClass v.literal

mutual

/-- **The type that a hint refers to.** -/
def reference : Hint → TypeRef
  | nothing => .void
  | text s => .ofClass s
  | forward _ s => .ofClass ("ForwardRef(" ++ Text.quote s ++ ")")
  | ofClass c => .type c.name (if isPrimitive c then .primitive else .ofClass) []
  | typeVariable n => .ofClass ("~" ++ n)
  | ellipsis => .ofClass "Ellipsis"
  | form f => .ofClass f.name
  | constant v => .ofClass v.literal
  | generic _ c hs => .type c.name .parameterized (references hs)
  | choice .named hs => .type ChoiceForm.union.name .parameterized (references hs)
  | choice .barred hs => .type ofChoices.name .parameterized (references hs)
  | callable _ h => .type ofCallables.name .parameterized [h.reference]
  | literal vs => .type "typing.Literal" .parameterized (vs.map valueReference)
  | annotated h _ => h.reference

/-- The types that arguments refer to. An ellipsis among them says nothing of types. -/
def references : List Hint → List TypeRef
  | [] => []
  | .ellipsis :: rest => references rest
  | h :: rest => h.reference :: references rest

end

mutual

/-- **The classes that a hint names**, primitive types left out. -/
def classes : Hint → List ClassDef
  | ofClass c => if isPrimitive c then [] else [c]
  | generic _ c hs => c :: classesOf hs
  | choice .named hs => classesOf hs
  | choice .barred hs => ofChoices :: classesOf hs
  | callable _ h => ofCallables :: h.classes
  | annotated h _ => h.classes
  | _ => []

/-- The classes that hints name. -/
def classesOf : List Hint → List ClassDef
  | [] => []
  | h :: rest => h.classes ++ classesOf rest

end

/-! ## Following names

Where a name leads may depend on what was followed before, and may be kept for later: a hint is
followed with the effects that following a text and following a reference have. -/

section Following

variable {m : Type → Type} [Monad m] (named : String → m Hint) (referred : Nat → String → m Hint)

mutual

/-- **A hint with its texts and its forward references followed.** No text is left in what is built
anew, so it takes none for a reference. -/
def follow : Hint → m Hint
  | text s => named s
  | forward object s => referred object s
  | generic k c hs => return generic k c (← followAll hs)
  | choice .named hs => return union 0 (← followAll hs)
  | choice .barred hs => return eitherOf 0 (← followAll hs)
  | callable hs h => do
    let hs ← followAll hs
    return callable hs (← follow h)
  | annotated h ms => return (← follow h).annotate 0 ms
  | h => return h

/-- Hints with their names followed, one after the other. -/
def followAll : List Hint → m (List Hint)
  | [] => return []
  | h :: rest => do
    let h ← follow h
    return h :: (← followAll rest)

end

end Following

/-! ## Bases -/

/-- A base makes the class that derives from it generic. -/
def bringsGenerics : Hint → Bool
  | generic follows c _ => follows || c.isGeneric
  | ofClass c => c.isGeneric
  | _ => false

/-- A base is written with arguments that may be references. -/
def followsReferences : Hint → Bool
  | generic follows _ _ => follows
  | _ => false

/-- **The classes that a base stands for**, given all bases and those after it. Arguments are left
out. The class of generics stands once, and only if no other base brings it; a container written
with arguments brings it too. -/
def baseClasses (all later : List Hint) : Hint → List ClassDef
  | ofClass c => [c]
  | generic true c _ =>
    if c.key == ClassDef.ofGenerics.key then
      if all.any (·.same (ofClass .ofProtocols)) || later.any followsReferences then [] else [c]
    else if c.isGeneric then [c]
    else (if all.any (·.same (ofClass c)) then [] else [c])
      ++ if later.any bringsGenerics then [] else [.ofGenerics]
  | generic false c _ => [c]
  | _ => []

/-- The classes of a list of bases, those after it given. -/
def basesFrom (all : List Hint) : List Hint → List ClassDef
  | [] => []
  | h :: later => baseClasses all later h ++ basesFrom all later

/-- **The classes that the bases of a class stand for.** -/
def bases (hs : List Hint) : List ClassDef := basesFrom hs hs

end Hint

end ChannelSerde
