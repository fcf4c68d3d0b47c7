import ChannelSerde.Value

/-!
# Failures of the dev service

What the outside does may fail in ways that this library knows nothing about; such a failure has a
word for its kind and a text. A registry that cannot be started is a failure of its own, with a
reason, details, and the failure that led to it if there is one.
-/

namespace ChannelSerde

open Decimal

/-- **A number of seconds**, whole or not; the two are shown differently. -/
inductive Seconds where
  | whole (i : Int)
  | real (x : Float)
  deriving DecidableEq, Repr

namespace Seconds

/-- The number as a double. -/
def toFloat : Seconds → Float
  | whole i => floatOfInt i
  | real x => x

/-- The number as a value. -/
def toScalar : Seconds → Scalar
  | whole i => .int i
  | real x => .float x

end Seconds

/-- **A registry that cannot be started.** -/
structure StartError where
  reason : String
  details : List (Scalar × Value)
  /-- The kind of the failure that led to it. -/
  cause : Option String
  deriving Repr

/-- The reason, and the details if there are any. -/
def StartError.message (e : StartError) : String :=
  if e.details.isEmpty then e.reason else e.reason ++ " - " ++ (Value.map e.details).literal

/-- **A failure.** -/
inductive Failure where
  /-- A registry that cannot be started. -/
  | start (e : StartError)
  /-- A failure of the outside. -/
  | outside (kind message : String)
  deriving Repr

namespace Failure

/-- The word for the kind of a failure. -/
def kind : Failure → String
  | start _ => "DevServiceStartError"
  | outside k _ => k

/-- The text of a failure. -/
def message : Failure → String
  | start e => e.message
  | outside _ m => m

/-- A failure as logs show it. -/
def shown (f : Failure) : String := f.kind ++ ": " ++ f.message

end Failure

end ChannelSerde
