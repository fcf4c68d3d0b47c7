import ChannelSerde.DevService.ContainerSpec
import ChannelSerde.DevService.Failure
import ChannelSerde.Log.Record

/-!
# Waiting for the registry

A registry that has been started is asked until it answers, and given up once the deadline has
passed. The clock is read after each attempt that did not succeed, so at least one attempt is made
however early the deadline is, and an attempt that succeeds is never too late. Time is any type
with an order; what the outside does is a list of attempts, each with its answer and the reading of
the clock that follows.
-/

namespace ChannelSerde

open Log

/-- **What an attempt comes back with.** -/
inductive Answer where
  /-- A status. -/
  | status (code : Int)
  /-- No answer: the connection failed, with a word for the kind of its failure and a text. -/
  | unreachable (kind message : String)
  /-- A failure that is not a matter of the connection. -/
  | broken (f : Failure)

/-- Why an attempt did not succeed; nothing if it did. A failure without a text is told by its
kind. -/
def Answer.error? : Answer → Option String
  | .status code => if code = 200 then none else some ("HTTP " ++ toString code)
  | .unreachable kind message => some (if message = "" then kind else message)
  | .broken _ => none

/-- **An attempt**: what it comes back with, and the reading of the clock after it. -/
structure Attempt (τ : Type) where
  answer : Answer
  time : τ

/-- **What is done while waiting.** -/
inductive WaitCall where
  /-- A client is opened with a limit for each request. -/
  | openClient (limit : Seconds)
  | get (url : String)
  | sleep (seconds : Seconds)
  | closeClient
  deriving DecidableEq, Repr

/-- **How waiting ends.** -/
inductive WaitEnd where
  | ready
  /-- The deadline has passed, and the last attempt failed like this. -/
  | late (lastError : String)
  | broken (f : Failure)
  /-- There was no further attempt. -/
  | undecided

/-- **What is waited for.** -/
structure Waiting where
  baseUrl : String
  timeout : Seconds
  interval : Seconds
  /-- The client is opened, and closed, by the one who waits. -/
  ownClient : Bool

namespace Waiting

/-- The timeout where none is given. -/
def standardTimeout : Seconds := .real (Decimal.floatOfInt 60)

/-- The interval where none is given. -/
def standardInterval : Seconds := .real (Decimal.nearestFloat false 1 2)

/-- The address that is asked. -/
def url (w : Waiting) : String := w.baseUrl ++ readinessPath

/-- **The attempts up to a deadline.** -/
def poll {τ : Type} [LE τ] [DecidableLE τ] (w : Waiting) (deadline : τ) :
    List (Attempt τ) → WaitEnd × List WaitCall
  | [] => (.undecided, [])
  | a :: rest =>
    match a.answer with
    | .broken f => (.broken f, [.get w.url])
    | answer =>
      match answer.error? with
      | none => (.ready, [.get w.url])
      | some e =>
        if deadline ≤ a.time then (.late e, [.get w.url])
        else
          let (stop, calls) := poll w deadline rest
          (stop, .get w.url :: .sleep w.interval :: calls)

/-- **The limit for each request** of a client of one's own: four intervals, but no more than five
seconds. -/
def clientLimit : Seconds → Seconds
  | .whole i => if 5 < 4 * i then .real (Decimal.floatOfInt 5) else .whole (4 * i)
  | .real x =>
    let limit := x * Decimal.floatOfInt 4
    if Decimal.floatOfInt 5 < limit then .real (Decimal.floatOfInt 5) else .real limit

/-- **The failure of a registry that is given up.** -/
def lateError (w : Waiting) (lastError : String) : StartError :=
  { reason := "Apicurio Registry did not become ready in time"
    details := [(.text "url", .text w.url), (.text "timeout_seconds", .scalar w.timeout.toScalar),
      (.text "last_error", .text lastError)]
    cause := none }

/-- What is logged when the registry is ready. -/
def readyRecord (w : Waiting) : Record :=
  record .readiness .debug ("Apicurio Registry ready at " ++ w.baseUrl)

/-- **What waiting comes to**: a failure if there is one. -/
def failure? (w : Waiting) : WaitEnd → Option Failure
  | .ready => none
  | .undecided => none
  | .late e => some (.start (w.lateError e))
  | .broken f => some f

/-- What is done before the first attempt. -/
def opening (w : Waiting) : List WaitCall :=
  if w.ownClient then [.openClient (clientLimit w.interval)] else []

/-- What is done on the way out, whichever it is. -/
def closing (w : Waiting) : WaitEnd → List WaitCall
  | .undecided => []
  | _ => if w.ownClient then [.closeClient] else []

/-- What is logged at the end. -/
def records (w : Waiting) : WaitEnd → List Record
  | .ready => [w.readyRecord]
  | _ => []

/-- **Waiting up to a deadline**: how it ends, what is done, what is logged. -/
def run {τ : Type} [LE τ] [DecidableLE τ] (w : Waiting) (deadline : τ)
    (attempts : List (Attempt τ)) : WaitEnd × List WaitCall × List Record :=
  let (stop, calls) := w.poll deadline attempts
  (stop, w.opening ++ calls ++ w.closing stop, w.records stop)

/-- **Waiting from a reading of the clock on**, for the given timeout; `count` is how the clock
counts seconds. -/
def runFrom {τ : Type} [LE τ] [DecidableLE τ] [Add τ] (w : Waiting) (count : Seconds → τ)
    (start : τ) (attempts : List (Attempt τ)) : WaitEnd × List WaitCall × List Record :=
  w.run (start + count w.timeout) attempts

end Waiting

end ChannelSerde
