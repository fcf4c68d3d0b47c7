import ChannelSerde.DevService.Failure
import ChannelSerde.Log.Record

/-!
# The container runtime

Whether containers can be run is found out by a command, which may succeed, fail, or not be run at
all. Who remembers the first answer asks once only; an answer that never came is not remembered.
-/

namespace ChannelSerde

open Log

/-- **How the command ends.** -/
inductive ProbeEnd where
  | exit (code : Int)
  /-- It could not be run, or took too long. -/
  | notRun (text : String)
  /-- It failed in a way that nobody expects. -/
  | broken (f : Failure)

/-- The command. -/
def runtimeCommand : List String := ["docker", "info"]

/-- The time that the command may take where nothing else is said. -/
def standardProbeLimit : Seconds := .real (Decimal.floatOfInt 10)

/-- What is said of a command that took too long. -/
def tookTooLong (limit : Seconds) : String :=
  "Command '" ++ (Value.list (runtimeCommand.map .text)).literal ++ "' timed out after "
    ++ limit.toScalar.plain ++ " seconds"

namespace ProbeEnd

/-- **Containers can be run** if the command succeeds. -/
def available : ProbeEnd → Except Failure Bool
  | exit code => .ok (code == 0)
  | notRun _ => .ok false
  | broken f => .error f

/-- What is logged about a command that was not run. -/
def records : ProbeEnd → List Record
  | notRun text => [record .runtime .debug ("Container runtime probe failed: " ++ text)]
  | _ => []

end ProbeEnd

/-- **What is known of the container runtime.** -/
structure RuntimeStatus where
  /-- The first answer is remembered. -/
  remembers : Bool
  known : Option Bool
  deriving DecidableEq, Repr

namespace RuntimeStatus

/-- Nothing known yet, every answer to be remembered. -/
def fresh : RuntimeStatus := ⟨true, none⟩

/-- **What asking comes to.** -/
structure Reply where
  available : Except Failure Bool
  /-- The command was run. -/
  asked : Bool
  records : List Record
  status : RuntimeStatus

/-- **Containers can be run**: as remembered, or as the command says. -/
def ask (s : RuntimeStatus) (e : ProbeEnd) : Reply :=
  match s.known with
  | some b => ⟨.ok b, false, [], s⟩
  | none =>
    let known := if s.remembers then e.available.toOption else none
    ⟨e.available, true, e.records, { s with known }⟩

end RuntimeStatus

end ChannelSerde
