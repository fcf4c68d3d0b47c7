import ChannelSerde.Log.Record
import ChannelSerde.Declaration.Index

/-!
# Structured payloads

A payload has a schema if its type comes down to a class that is a message. A class is a message if
it bears the marker's name, if the marker or its base implementation is among the classes it derives
from through first bases, or if the marker is one of its own further bases. The chain of first bases
may be broken or run in a circle: it is followed until a name is not known or was met before. Each
link that is followed leaves fewer known classes that were not met, so the chain ends.

What detection needs of all this is a `Classifier`, which may as well be another than that of a rule.
-/

namespace ChannelSerde

open Log

/-- **What makes a class a message.** -/
structure MessageRule where
  /-- The root of all messages. -/
  marker : String
  /-- The class that stands between the root and the messages. -/
  base : String
  deriving DecidableEq, Repr

namespace MessageRule

/-- The classes of the standard message library. -/
def standard : MessageRule :=
  { marker := "google.protobuf.message.Message", base := "google._upb._message.Message" }

/-- The known classes that were not met yet. -/
def unmet (classes : OrderedMap String ClassRecord) (met : List String) : List String :=
  classes.keys.filter (· ∉ met)

/-- Meeting a known class for the first time leaves one fewer. -/
theorem length_unmet_cons {classes : OrderedMap String ClassRecord} {met : List String}
    {name : String} (known : name ∈ classes.keys) (new : name ∉ met) :
    (unmet classes (name :: met)).length < (unmet classes met).length := by
  have hsplit : unmet classes (name :: met) = (unmet classes met).filter (· ≠ name) := by
    unfold unmet
    rw [List.filter_filter]
    exact List.filter_congr fun n _ => by simp
  have hmem : name ∈ unmet classes met := List.mem_filter.mpr ⟨known, by simpa using new⟩
  rw [hsplit, List.length_filter_lt_length_iff_exists]
  exact ⟨name, hmem, by simp⟩

/-- **The names met on the chain of first bases** from a base on. The chain ends at the root class,
at a name that was met before, and behind a name that is not known. -/
def chainFrom (classes : OrderedMap String ClassRecord) (met : List String) :
    Option String → List String
  | none => []
  | some name =>
    if _stop : name = rootClass ∨ name ∈ met then []
    else
      match _known : classes.get? name with
      | none => [name]
      | some c => name :: chainFrom classes (name :: met) c.parent
termination_by (unmet classes met).length
decreasing_by
  have hkeys : name ∈ classes.keys := (classes.get?_isSome name).mp (by rw [_known]; rfl)
  exact length_unmet_cons hkeys (not_or.mp _stop).2

/-- The names met on the chain of first bases of a class. The class itself does not count among its
bases, even where its chain runs in a circle. -/
def chain (classes : OrderedMap String ClassRecord) (c : ClassRecord) : List String :=
  chainFrom classes [c.name] c.parent

/-- **A class that is known is a message.** -/
def isMessage (k : MessageRule) (classes : OrderedMap String ClassRecord) (c : ClassRecord) :
    Bool :=
  (chain classes c).any (fun n => n == k.marker || n == k.base) || c.interfaces.contains k.marker

/-- **A type carries structured payloads.** -/
def isStructured (k : MessageRule) (classes : OrderedMap String ClassRecord) (r : TypeRef) : Bool :=
  match r.payload? with
  | none => false
  | some name => name == k.marker || (classes.get? name).any (k.isMessage classes)

/-- The class that classification asks for and does not find. -/
def unknownClass? (k : MessageRule) (classes : OrderedMap String ClassRecord) (r : TypeRef) :
    Option String :=
  match r.payload? with
  | none => none
  | some name =>
    if name == k.marker || (classes.get? name).isSome then none else some name

/-- What is logged about a class that is not found. -/
def unknownClassRecord (name : String) : Record :=
  record .payloads .debug ("Class " ++ name ++ " not found in symbol index")

end MessageRule

/-- **What classifies types.** -/
structure Classifier where
  /-- A type carries structured payloads. -/
  isStructured : TypeRef → Bool
  /-- The class that is asked for and not found. -/
  unknownClass? : TypeRef → Option String

/-- **The classifier of a rule** over a table of classes. -/
def MessageRule.classifier (k : MessageRule) (classes : OrderedMap String ClassRecord) :
    Classifier :=
  { isStructured := k.isStructured classes, unknownClass? := k.unknownClass? classes }

/-! ## Classes that are looked up

A foreign index answers what it likes, so the bases it answers may go on for ever. A search that does
not end has no result here, and no answer in the program either. -/

namespace MessageRule

/-- **The search for a message** along first bases, from a base on. -/
def searchFrom (k : MessageRule) (known : String → Option ClassRecord) (met : List String)
    (base : Option String) : Option Bool :=
  match base with
  | none => some false
  | some name =>
    if name = rootClass ∨ name ∈ met then some false
    else if name = k.marker ∨ name = k.base then some true
    else
      match known name with
      | none => some false
      | some c => k |>.searchFrom known (name :: met) c.parent
partial_fixpoint

/-- A class that is looked up is a message, if the search for one ends. -/
def isMessageIn (k : MessageRule) (known : String → Option ClassRecord) (c : ClassRecord) :
    Option Bool :=
  (k.searchFrom known [c.name] c.parent).map (· || c.interfaces.contains k.marker)

/-- A type carries structured payloads over classes that are looked up. -/
def isStructuredIn (k : MessageRule) (known : String → Option ClassRecord) (r : TypeRef) : Bool :=
  match r.payload? with
  | none => false
  | some name => name == k.marker || (known name).any fun c => (k.isMessageIn known c).getD false

/-- The class that classification looks up and does not find. -/
def unknownClassIn? (k : MessageRule) (known : String → Option ClassRecord) (r : TypeRef) :
    Option String :=
  match r.payload? with
  | none => none
  | some name => if name == k.marker || (known name).isSome then none else some name

/-- **The classifier of a rule** over classes that are looked up. -/
def classifierOver (k : MessageRule) (known : String → Option ClassRecord) : Classifier :=
  { isStructured := k.isStructuredIn known, unknownClass? := k.unknownClassIn? known }

/-- Over a table the search ends, with a message if the chain lists one. -/
theorem searchFrom_get? (k : MessageRule) (classes : OrderedMap String ClassRecord)
    (met : List String) (base : Option String) :
    k.searchFrom classes.get? met base
      = some ((chainFrom classes met base).any fun n => n == k.marker || n == k.base) := by
  fun_induction chainFrom classes met base with
  | case1 =>
    rw [searchFrom]
    rfl
  | case2 met name stop =>
    rw [searchFrom]
    simp only [if_pos stop]
    rfl
  | case3 met name stop unknown =>
    rw [searchFrom]
    by_cases found : name = k.marker ∨ name = k.base
    · simp [stop, found]
    · simp [stop, unknown, not_or.mp found]
  | case4 met name stop c known ih =>
    rw [searchFrom]
    by_cases found : name = k.marker ∨ name = k.base
    · simp [stop, found]
    · simp [stop, found, known, ih]

/-- **Looking up a table** is classifying over it. -/
theorem classifierOver_get? (k : MessageRule) (classes : OrderedMap String ClassRecord) :
    k.classifierOver classes.get? = k.classifier classes := by
  have hmessage : ∀ c, (k.isMessageIn classes.get? c).getD false = k.isMessage classes c := by
    intro c
    rw [isMessageIn, searchFrom_get?]
    rfl
  have hstructured : k.isStructuredIn classes.get? = k.isStructured classes := by
    funext r
    unfold isStructuredIn isStructured
    simp only [hmessage]
  unfold classifierOver classifier
  rw [hstructured]
  rfl

end MessageRule

end ChannelSerde
