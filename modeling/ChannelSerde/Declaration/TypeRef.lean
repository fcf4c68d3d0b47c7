/-!
# References to types

What a declaration says about a type: its name, whether it is a class, a generic type with
arguments, a primitive type or no value at all, and its arguments. Nothing may be said, and an
argument may be missing; both are the reference `missing`.
-/

namespace ChannelSerde

/-- **What a reference refers to.** -/
inductive TypeForm where
  | ofClass
  | parameterized
  | primitive
  | void
  deriving DecidableEq, Repr

/-- The word for a kind. -/
def TypeForm.word : TypeForm → String
  | ofClass => "class"
  | parameterized => "parameterized"
  | primitive => "primitive"
  | void => "void"

/-- **A reference to a type.** -/
inductive TypeRef where
  | missing
  | type (name : String) (kind : TypeForm) (arguments : List TypeRef)
  deriving Repr

instance : Inhabited TypeRef := ⟨.missing⟩

namespace TypeRef

mutual

/-- Two references are the same or they are not. -/
def decideEq : (a b : TypeRef) → Decidable (a = b)
  | missing, missing => isTrue rfl
  | missing, type _ _ _ => isFalse (by simp)
  | type _ _ _, missing => isFalse (by simp)
  | type n k as, type m l bs =>
    if h : n = m ∧ k = l then
      match decideEqList as bs with
      | isTrue h' => isTrue (by rw [h.1, h.2, h'])
      | isFalse h' => isFalse fun e => h' (TypeRef.type.inj e).2.2
    else isFalse fun e => h ⟨(TypeRef.type.inj e).1, (TypeRef.type.inj e).2.1⟩

/-- Two lists of references are the same or they are not. -/
def decideEqList : (as bs : List TypeRef) → Decidable (as = bs)
  | [], [] => isTrue rfl
  | [], _ :: _ => isFalse (by simp)
  | _ :: _, [] => isFalse (by simp)
  | a :: as, b :: bs =>
    match decideEq a b, decideEqList as bs with
    | isTrue h, isTrue h' => isTrue (by rw [h, h'])
    | isFalse h, _ => isFalse fun e => h (List.cons.inj e).1
    | _, isFalse h' => isFalse fun e => h' (List.cons.inj e).2

end

instance : DecidableEq TypeRef := decideEq

/-- A class. -/
def ofClass (name : String) : TypeRef := .type name .ofClass []

/-- No value. -/
def void : TypeRef := .type "None" .void []

mutual

/-- **The text of a reference**: a generic type has its arguments in brackets. -/
def text : TypeRef → String
  | missing => "None"
  | type name .parameterized arguments => name ++ "[" ++ ", ".intercalate (texts arguments) ++ "]"
  | type name _ _ => name

/-- The texts of references. -/
def texts : List TypeRef → List String
  | [] => []
  | r :: rest => r.text :: texts rest

end

/-- **The first argument of a generic type**, which carries what the type wraps. -/
def firstArgument : TypeRef → TypeRef
  | type _ .parameterized (r :: _) => r
  | _ => missing

/-- A reference, unless nothing is said. -/
def toList : TypeRef → List TypeRef
  | missing => []
  | r => [r]

theorem mem_toList {t r : TypeRef} : r ∈ t.toList ↔ r ≠ missing ∧ t = r := by
  cases t with
  | missing => exact iff_of_false List.not_mem_nil fun h => h.1 h.2.symm
  | type name kind arguments =>
    show r ∈ [type name kind arguments] ↔ _
    rw [List.mem_singleton]
    refine ⟨fun h => ⟨?_, h.symm⟩, fun h => h.2.symm⟩
    rw [h]
    exact TypeRef.noConfusion

theorem mem_toList_firstArgument {t r : TypeRef} :
    r ∈ t.firstArgument.toList
      ↔ r ≠ missing ∧ ∃ generic rest, t = type generic .parameterized (r :: rest) := by
  rw [mem_toList]
  refine and_congr_right fun hr => ?_
  unfold firstArgument
  split
  · simp
  · next hnone =>
    refine iff_of_false hr.symm ?_
    rintro ⟨generic, rest, rfl⟩
    exact hnone _ _ _ rfl

/-- **The class a reference comes down to**: generic types are followed through their first
arguments. Primitive types, no value, and what is missing come down to none. -/
def payload? : TypeRef → Option String
  | missing => none
  | type name .ofClass _ => some name
  | type _ .parameterized (r :: _) => r.payload?
  | type _ _ _ => none

end TypeRef

end ChannelSerde
