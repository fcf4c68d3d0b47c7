import ChannelSerde.Program.Basic

/-!
# The index of a program

What a program says about channels stands in its declarations: in the annotations of fields and
parameters, and in the markers of functions. A target is taken apart into the classes and functions
that are scanned for it (`Program.scans`), each of these contributes classes and declarations in the
order in which they are met (`Program.scan`), and `Enrolment.run` enters what all of them contribute.

A contribution does not depend on the index, but what is scanned reads and changes the memo of the
program. So what a function contributes depends on what was scanned before it, where its hints have
forward references that are kept.

A class brings all that it derives from. The type of a result is looked at only if the function
bears a marker, and the type of a field only if it has one; the type of a parameter always is.
-/

namespace ChannelSerde

/-- **What is entered in an index.** -/
inductive Entry where
  | ofClass (c : ClassDef)
  | site (s : Site)

/-- **What can be asked to be indexed.** -/
inductive Target where
  | module (name : String)
  | ofClass (c : ClassDef)
  | function (f : FunctionDef)
  | value (v : Value)

/-- **Why something cannot be indexed.** -/
inductive TargetError where
  /-- A value has no declarations. -/
  | notIndexable (v : Value)
  /-- A list or mapping cannot be kept apart from others. -/
  | noIdentity (word : String)

/-- The message of an error. -/
def TargetError.message : TargetError → String
  | notIndexable v => "Cannot index " ++ v.literal ++ "; expected a module, class or function"
  | noIdentity word => "unhashable type: '" ++ word ++ "'"

/-- The classes that a hint names, as entries. -/
def Hint.entries (h : Hint) : List Entry := h.classes.map .ofClass

/-! ## Functions -/

namespace FunctionDef

/-- The type of a parameter: without a hint it may be anything. -/
def parameterType (q : Parameter) : TypeRef :=
  match q.hint with
  | some h => h.inner.reference
  | none => .ofClass "typing.Any"

/-- What a parameter contributes: the classes of its hint, and itself if it has markers. -/
def parameterEntries (owner : String) (q : Parameter) (position : Nat) : List Entry :=
  match q.hint with
  | none => []
  | some h =>
    h.inner.entries ++ if h.markers.isEmpty then [] else
      [.site ⟨.parameter, owner, q.name, h.inner.reference, [], h.markers, some position⟩]

/-- What parameters from a position on contribute. -/
def parametersFrom (owner : String) : Nat → List Parameter → List Entry
  | _, [] => []
  | n, q :: rest => parameterEntries owner q n ++ parametersFrom owner (n + 1) rest

/-- The parameters that callers give: the first of a bound function is given by what it is called
on. -/
def given (f : FunctionDef) (isBound : Bool) : List Parameter :=
  if isBound then f.parameters.tail else f.parameters

/-- **What a function contributes** whose hints are followed. -/
def entries (f : FunctionDef) (owner : String) (isBound : Bool) : List Entry :=
  let ps := f.given isBound
  parametersFrom (owner ++ "." ++ f.name) 0 ps ++
    if f.markers.isEmpty then []
    else (f.result.map Hint.entries).getD [] ++
      [.site ⟨.method, owner, f.name, (f.result.map Hint.reference).getD .missing,
        ps.map parameterType, f.markers, none⟩]

end FunctionDef

/-! ## Targets -/

/-- **What is scanned at a time.** -/
inductive Scan where
  /-- A class and its fields. -/
  | ofClass (c : ClassDef)
  /-- A function, under the name of what it belongs to. -/
  | function (f : FunctionDef) (owner : String) (isBound : Bool)

namespace Program

/-- What a field contributes: nothing without markers. -/
def fieldEntries (owner : String) (field : String × Hint) : List Entry :=
  if field.2.markers.isEmpty then []
  else field.2.inner.entries ++
    [.site ⟨.field, owner, field.1, field.2.inner.reference, [], field.2.markers, none⟩]

/-- **What a class or a function contributes.** -/
def scan (p : Program) : Scan → StateM Memo (List Entry)
  | .ofClass c => return .ofClass c :: (← p.fields c).flatMap (fieldEntries c.name)
  | .function f owner isBound => return (← p.followed f).entries owner isBound

/-- What is scanned contributes one after the other. -/
def scanAll (p : Program) : List Scan → StateM Memo (List Entry)
  | [] => return []
  | s :: rest => do
    let es ← p.scan s
    return es ++ (← p.scanAll rest)

/-- The member of a class that is scanned with it, if it is a function. -/
def memberScan? (owner : String) : Member → Option Scan
  | .bound f => some (.function f owner true)
  | .free f => some (.function f owner false)
  | _ => none

/-- **What is scanned for a class**: itself, and then its members. -/
def classScans (p : Program) (c : ClassDef) : List Scan :=
  .ofClass c :: (p.body c).members.values.filterMap (memberScan? c.name)

/-- What is scanned for a name in a module: nothing if it stands for something of another module. -/
def bindingScans (p : Program) (module : String) : Binding → List Scan
  | .ofClass c => if (p.body c).home = module then p.classScans c else []
  | .function f => if f.home = module then [.function f f.home false] else []
  | .constant _ => []

/-- **What is scanned for a target.** -/
def scans (p : Program) : Target → List Scan
  | .module name => (p.namesOf name).values.flatMap (p.bindingScans name)
  | .ofClass c => p.classScans c
  | .function f => [.function f f.home false]
  | .value _ => []

/-- **What targets contribute**, one after the other. The first that is a value ends it. -/
def gather (p : Program) : List Target → StateM Memo (Except TargetError (List Entry))
  | [] => return .ok []
  | .value v :: _ => return .error (.notIndexable v)
  | t :: rest => do
    let es ← p.scanAll (p.scans t)
    return (← p.gather rest).map (es ++ ·)

end Program

/-! ## Building -/

/-- An entry is made. -/
def Enrolment.apply (e : Enrolment) : Entry → Enrolment
  | .ofClass c => e.enter c
  | .site s => e.declare s

/-- **Entries are made one after the other.** -/
def Enrolment.run (e : Enrolment) (es : List Entry) : Enrolment := es.foldl apply e

/-- **An index with what targets contribute**, and the memo as it is afterwards. -/
def Program.extend (p : Program) (m : Memo) (i : Index) (targets : List Target) :
    Except TargetError Index × Memo :=
  let (es, m) := (p.gather targets).run m
  (es.map fun es => ((Enrolment.start i).run es).index, m)

/-- **The index of some targets.** -/
def Program.indexOf (p : Program) (m : Memo) (targets : List Target) :
    Except TargetError Index × Memo :=
  p.extend m .empty targets

/-- What is entered for a target when its declarations are not looked at. What is no class stands as
a class without bases that bears its name. -/
def Target.asClass : Target → Except TargetError ClassDef
  | .ofClass c => .ok c
  | .function f => .ok (.standard (f.home ++ "." ++ f.name) [])
  | .module name => .ok (.standard ("builtins." ++ name) [])
  | .value (.scalar s) => .ok (.standard ("builtins." ++ s.literal) [])
  | .value (.list _) => .error (.noIdentity "list")
  | .value (.map _) => .error (.noIdentity "dict")

/-- **The index of classes alone**, with all that they derive from. -/
def indexClasses (targets : List Target) : Except TargetError Index :=
  (targets.mapM Target.asClass).map fun cs => ((Enrolment.start .empty).enterAll cs).index

/-- **The index with the classes that a hint names**, as the hint is written. -/
def Index.addHint (i : Index) (h : Hint) : Index := ((Enrolment.start i).run h.entries).index

end ChannelSerde
