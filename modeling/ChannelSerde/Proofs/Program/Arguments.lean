import ChannelSerde.Program.Index
import ChannelSerde.Proofs.Declaration.Structured

/-!
# What hints wrap

A hint with arguments refers to a generic type, and classification looks at the first argument alone.
The arguments that count are those that say something of types (`Hint.usable`): an ellipsis does not,
and neither does the list of parameters of what can be called, so its result is the first there. An
annotation around a hint, or around an argument, changes nothing.

So a hint is classified as the first of its usable arguments is, whatever the index
(`isStructured_reference`), and one that comes down to a class in this way as that class.
-/

namespace ChannelSerde

namespace Hint

variable {h a : Hint} {c : ClassDef}

/-! ## Arguments -/

/-- **A hint has arguments**, if only an empty list of them. -/
def isParameterized : Hint → Bool
  | generic .. | choice .. | callable .. | literal _ => true
  | annotated h _ => h.isParameterized
  | _ => false

/-- An ellipsis says nothing of types. -/
def isEllipsis : Hint → Bool
  | ellipsis => true
  | _ => false

/-- A value in a choice of values, as a hint. -/
def ofScalar : Scalar → Hint
  | .null => nothing
  | .text s => text s
  | v => constant (.scalar v)

/-- **The usable arguments of a hint**: those that say something of types. -/
def usable : Hint → List Hint
  | generic _ _ hs => hs.filter (!·.isEllipsis)
  | choice _ hs => hs.filter (!·.isEllipsis)
  | callable _ h => [h]
  | literal vs => vs.map ofScalar
  | annotated h _ => h.usable
  | _ => []

/-- **A hint comes down to a class** through first usable arguments and annotations. -/
inductive ComesDownTo : Hint → ClassDef → Prop where
  | ofClass (c : ClassDef) : ComesDownTo (.ofClass c) c
  | first {h a : Hint} {c : ClassDef} (parameterized : h.isParameterized = true)
      (first : h.usable.head? = some a) (down : ComesDownTo a c) : ComesDownTo h c
  | annotated {h : Hint} {c : ClassDef} (markers : List Marker) (down : ComesDownTo h c) :
      ComesDownTo (.annotated h markers) c

end Hint

end ChannelSerde
