/-!
# The current build

Every line that is printed names the build it belongs to. A build sets its id when it starts and
gets a token with which the id before it is restored. A token can be used once. One that was given
out elsewhere, where ids are kept apart from these, changes nothing here and is never used up.
-/

namespace ChannelSerde.Log

/-- **What was given back for an id that was set.** -/
inductive Token where
  /-- Nothing, since the id was empty. -/
  | nothing
  /-- A token for the id that was current before; it may have been used. -/
  | here (before : String) (used : Bool)
  /-- A token for ids that are kept elsewhere. -/
  | elsewhere
  deriving DecidableEq, Repr

/-- **The current id**, and the tokens given out so far, first one first. -/
structure BuildIds where
  current : String
  tokens : List Token
  deriving DecidableEq, Repr

namespace BuildIds

/-- The id where no build is running. -/
def noBuild : String := "-"

/-- No id has been set. -/
def start : BuildIds := ⟨noBuild, []⟩

/-- **An id is set**; an empty one is not. -/
def push (b : BuildIds) (id : String) : BuildIds :=
  if id.isEmpty then { b with tokens := b.tokens ++ [.nothing] }
  else { current := id, tokens := b.tokens ++ [.here b.current false] }

/-- An id is set elsewhere, which is not seen here. -/
def pushElsewhere (b : BuildIds) (id : String) : BuildIds :=
  { b with tokens := b.tokens ++ [if id.isEmpty then .nothing else .elsewhere] }

/-- **The id before is restored.** Nothing where the token has been used. -/
def reset? (b : BuildIds) (token : Nat) : Option BuildIds :=
  match b.tokens[token]? with
  | some (.here _ true) => none
  | some (.here before false) =>
    some { current := before, tokens := b.tokens.set token (.here before true) }
  | _ => some b

end BuildIds

end ChannelSerde.Log
