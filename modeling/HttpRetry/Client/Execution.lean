import HttpRetry.Orchestrator
import HttpRetry.Client.Event

/-!
Executions: one logical request on its way through its attempts, as the send loop and its
handlers see it. The caller's context is live for the whole execution, or ends at one of the
moments at which the send loop looks at it and stays done from then on.
-/

namespace HttpRetry

/-- Why a caller's context ends: it is cancelled, or its deadline passes. -/
inductive ContextEnd where
  | canceled
  | deadline
  deriving DecidableEq, Repr

/-- The failure a context that ended for this reason reports. -/
def ContextEnd.fault : ContextEnd → Fault
  | .canceled => .canceled
  | .deadline => .deadlineExceeded

/-- The moments at which the send loop looks at the caller's context, for the attempt numbered
`k` from zero: while the attempt is sent, when its outcome is classified, once it is recorded,
and during the wait after it. -/
inductive Moment where
  | sending (k : Nat)
  | classifying (k : Nat)
  | recorded (k : Nat)
  | waiting (k : Nat)
  deriving DecidableEq, Repr

/-- The place of a moment in the order the loop meets them. -/
def Moment.index : Moment → Nat
  | .sending k => 4 * k
  | .classifying k => 4 * k + 1
  | .recorded k => 4 * k + 2
  | .waiting k => 4 * k + 3

/-- The caller's context: live for the whole execution, or ending for a reason at a moment and
done from then on. A context done before the execution starts ends at the first moment. -/
inductive CallerContext where
  | live
  | endsAt (reason : ContextEnd) (m : Moment)
  deriving DecidableEq, Repr

namespace CallerContext

/-- A context cancelled before the execution starts. -/
def canceled : CallerContext := .endsAt .canceled (.sending 0)

/-- A context past its deadline before the execution starts. -/
def expired : CallerContext := .endsAt .deadline (.sending 0)

/-- Why the context is done at a moment, if it is. -/
def doneAt? (ctx : CallerContext) (m : Moment) : Option ContextEnd :=
  match ctx with
  | .live => none
  | .endsAt reason m₀ => if m₀.index ≤ m.index then some reason else none

end CallerContext

/-- The time from the reading `t₀` to the reading `t₁`, held within the durations a signed word
can hold. -/
def Time.between (t₀ t₁ : Int) : Int := max (-maxDuration - 1) (min maxDuration (t₁ - t₀))

/-- An execution at some point of its run. -/
structure Execution where
  id : String
  request : Request
  attempt : Nat := 0
  attemptTimeouts : Nat := 0
  /-- The outcome of the latest attempt; none before the first ends and while one runs. -/
  outcome : Option Outcome := none
  /-- The failure of the latest attempt, or why the execution was cut short. -/
  err : Option Fault := none
  /-- The latest delay waited before a retry, in nanoseconds. -/
  wait : Int := 0
  /-- The clock's reading when the execution started, in nanoseconds since the epoch. -/
  start : Option Int := none
  /-- The clock's reading when the execution ended. -/
  stop : Option Int := none

namespace Execution

/-- The execution has started. -/
def started (e : Execution) : Bool := e.start.isSome

/-- The execution has ended. -/
def ended (e : Execution) : Bool := e.stop.isSome

/-- How long the execution took, at the clock's reading `now`: nothing before it starts, the
time since its start while it runs, and from its start to its end once it has ended. -/
def duration (e : Execution) (now : Int) : Int :=
  match e.start, e.stop with
  | none, _ => 0
  | some t₀, none => Time.between t₀ now
  | some t₀, some t₁ => Time.between t₀ t₁

/-- The current failure is a timeout. -/
def timedOut (e : Execution) : Bool := e.err.any Fault.isTimeout

/-- The status of the latest response; 0 without one. -/
def status (e : Execution) : Int := (e.outcome.map Outcome.status).getD 0

/-- The header map of the latest response. -/
def responseHeader (e : Execution) : Option Header := e.outcome.bind Outcome.header?

/-- The body of the latest response, when one was read. -/
def responseBody (e : Execution) : Option ByteArray :=
  match e.outcome with
  | some (.response _ _ b) => b
  | _ => none

end Execution

end HttpRetry
