import ChannelSerde.Program.Standard
import ChannelSerde.Text.Blank

/-!
# Programs

A program is modules, each of which gives names to classes, functions and constants. A class has
fields and members, and functions have parameters; both say types with hints, and functions bear
markers. Classes are defined one after the other, and what a name stands for later takes the place
of what it stood for before.

Hints that name a class by a text are followed only once the whole program is there: first to the
names of the module, then to the classes kept as members of the class that is read, then to what
every program has. A name that stands for a text is followed in turn.

Where a forward reference has led is kept in a `Memo`, and a program has one for as long as it lives.
A class does not look there: each of its references is followed anew and takes the place of what was
kept. A function goes by what is kept. So a reference that belongs to a hint of several modules can
lead a function to what its name stands for in another module, whatever was read before.
-/

namespace ChannelSerde

/-- **A parameter.** -/
structure Parameter where
  name : String
  hint : Option Hint
  deriving Repr

/-- **A function.** -/
structure FunctionDef where
  /-- The module that defines it. -/
  home : String
  name : String
  parameters : List Parameter
  result : Option Hint
  markers : List Marker
  deriving Repr

/-- **A member of a class.** -/
inductive Member where
  /-- A function whose first parameter is the object or the class it is called on. -/
  | bound (f : FunctionDef)
  /-- A function that is called on nothing. -/
  | free (f : FunctionDef)
  /-- A class kept under a name. -/
  | kept (c : ClassDef)
  /-- What shows no function and no class. -/
  | hidden
  deriving Repr

/-- **What a class holds.** -/
structure ClassBody where
  /-- The module that defines it. -/
  home : String
  fields : OrderedMap String Hint
  members : OrderedMap String Member

/-- **What a name in a module stands for.** -/
inductive Binding where
  | ofClass (c : ClassDef)
  | function (f : FunctionDef)
  | constant (v : Value)

/-- **A program.** -/
structure Program where
  modules : OrderedMap String (OrderedMap String Binding)
  /-- The classes by their full names. -/
  classes : OrderedMap String ClassDef
  /-- The functions by their full names. -/
  functions : OrderedMap String FunctionDef
  bodies : OrderedMap (Nat × String) ClassBody

namespace Program

/-! ## Defining -/

/-- The program without modules. -/
def empty : Program := ⟨OrderedMap.empty, OrderedMap.empty, OrderedMap.empty, OrderedMap.empty⟩

/-- The names of a module. -/
def namesOf (p : Program) (module : String) : OrderedMap String Binding :=
  (p.modules.get? module).getD OrderedMap.empty

/-- The program with a name in a module. -/
def bind (p : Program) (module name : String) (b : Binding) : Program :=
  { p with modules := p.modules.insert module ((p.namesOf module).insert name b) }

/-- The program with a module, which has no names yet if it is a new one. -/
def addModule (p : Program) (module : String) : Program :=
  { p with modules := p.modules.insert module (p.namesOf module) }

/-- **The program with a class.** One whose name has a dot stands in another class, and is no name
of the module. -/
def addClass (p : Program) (module name : String) (bases : List Hint)
    (fields : List (String × Hint)) (members : List (String × Member)) : Program :=
  let c := ClassDef.mk (p.bodies.size + 1) (module ++ "." ++ name) (Hint.bases bases)
  let p := { p with
    classes := p.classes.insert c.name c
    bodies := p.bodies.insert c.key ⟨module, .ofList fields, .ofList members⟩ }
  if name.contains '.' then p else p.bind module name (.ofClass c)

/-- **The program with a function** of a module. -/
def addFunction (p : Program) (f : FunctionDef) : Program :=
  { p with functions := p.functions.insert (f.home ++ "." ++ f.name) f }.bind f.home f.name
    (.function f)

/-- The class of a full name: one that the program defines, or a built-in one. -/
def classNamed (p : Program) (name : String) : Option ClassDef :=
  match p.classes.get? name with
  | some c => some c
  | none => (name.dropPrefix? "builtins.").bind fun rest => Standard.classNamed rest.toString

/-- **The program with an import**: a module has a further name for a class or function. -/
def addImport (p : Program) (module name : String) (as : Option String) : Program :=
  let short := as.getD (Text.lastComponent name)
  match p.classNamed name, p.functions.get? name with
  | some c, _ => p.bind module short (.ofClass c)
  | none, some f => p.bind module short (.function f)
  | none, none => p

/-! ## Following names -/

/-- What a class holds. One that the program does not define holds nothing. -/
def body (p : Program) (c : ClassDef) : ClassBody :=
  (p.bodies.get? c.key).getD ⟨"", OrderedMap.empty, OrderedMap.empty⟩

/-- **What a text leads to.** A name that stands for a text leads on; one that was met before is not
followed any more. The fuel bounds the number of names. -/
def followText (lookup : String → Option Binding) : Nat → List String → String → Option Hint
  | 0, _, name => some (.forward 0 name)
  | fuel + 1, met, name =>
    if met.contains name then some (.forward 0 name)
    else match lookup name with
      | none => Standard.meaning name
      | some (.ofClass c) => some (.ofClass c)
      | some (.function f) => some (.constant (.text (f.home ++ "." ++ f.name)))
      | some (.constant (.scalar .null)) => some .nothing
      | some (.constant (.scalar (.text s))) => followText lookup fuel (name :: met) s
      | some (.constant v) => some (.constant v)

/-- What a name stands for in a module. -/
def named (p : Program) (module : String) (name : String) : Option Hint :=
  let names := p.namesOf module
  followText names.get? (names.size + 1) [] name

/-- What a name stands for in a class: the module comes first, then the classes among its
members. -/
def namedIn (p : Program) (c : ClassDef) (name : String) : Option Hint :=
  let names := p.namesOf (p.body c).home
  let lookup (n : String) : Option Binding :=
    match names.get? n, (p.body c).members.get? n with
    | some b, _ => some b
    | none, some (.kept d) => some (.ofClass d)
    | none, _ => none
  followText lookup (names.size + 1) [] name

end Program

/-! ## Reading hints -/

/-- **What forward references have led to** so far, by the hints they belong to and their texts. -/
abbrev Memo := OrderedMap (Nat × String) Hint

/-- **A reading of hints.** It may fail, and what references have led to by then is kept. -/
abbrev Reading := OptionT (StateM Memo)

namespace Reading

variable (lookup : String → Option Hint)

/-- A text is followed where it leads, if anywhere. -/
def text (s : String) : Reading Hint := OptionT.mk (pure (lookup s))

/-- **A reference is followed anew**, and where it leads is kept. -/
def anew (object : Nat) (s : String) : Reading Hint := do
  let h ← text lookup s
  modify (·.insert (object, s) h)
  return h

/-- **A reference is followed once**: it leads where it has led before. -/
def once (object : Nat) (s : String) : Reading Hint := do
  match (← get).get? (object, s) with
  | some h => return h
  | none => anew lookup object s

end Reading

namespace Program

/-- The fields that a class has itself, each followed where the class is. -/
def readFields (p : Program) (c : ClassDef) : Reading (List (String × Hint)) :=
  (p.body c).fields.entries.mapM fun e =>
    return (e.1, ← e.2.follow (Reading.text (p.namedIn c)) (Reading.anew (p.namedIn c)))

/-- The fields of a class, followed after those of all that it derives from. -/
def followFields (p : Program) (c : ClassDef) : Reading (List (String × Hint)) :=
  return (← c.linearization.reverse.mapM p.readFields).getLastD []

/-- **The fields of a class.** If a hint in the class or in one that it derives from leads nowhere,
its own hints are left as they are written. -/
def fields (p : Program) (c : ClassDef) : StateM Memo (List (String × Hint)) :=
  return (← (p.followFields c).run).getD (p.body c).fields.entries

/-- The function with its hints followed, its result last. -/
def followFunction (p : Program) (f : FunctionDef) : Reading FunctionDef := do
  let follow := Hint.follow (Reading.text (p.named f.home)) (Reading.once (p.named f.home))
  let parameters ← f.parameters.mapM fun q => return { q with hint := ← q.hint.mapM follow }
  return { f with parameters, result := ← f.result.mapM follow }

/-- **A function with its hints followed.** If one leads nowhere, all are left as they are
written. -/
def followed (p : Program) (f : FunctionDef) : StateM Memo FunctionDef :=
  return (← (p.followFunction f).run).getD f

end Program

end ChannelSerde
