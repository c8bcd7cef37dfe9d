import HttpRetry.Limiter
import HttpRetry.Schedule

/-!
The attempt flow: the state machine that drives one request through its attempts.

A flow starts awaiting a send. `next` hands out the request and awaits its outcome; `report`
takes the outcome, asks the limiter, and either ends the flow (any decision but retry) or, after
letting the schedule observe the outcome, takes the next delay (never below zero) and waits.
`next` is allowed while awaiting a send or waiting; `report` only while awaiting an outcome and
only with an outcome. A call out of turn is a `UsageError` and changes nothing.
-/

namespace HttpRetry

/-- Where a flow stands. -/
inductive FlowState where
  | awaitSend
  | awaitOutcome
  | delaying
  | terminated
  deriving DecidableEq, Repr, Inhabited

namespace FlowState

/-- The state's name. -/
def name : FlowState → String
  | awaitSend => "AwaitSend"
  | awaitOutcome => "AwaitOutcome"
  | delaying => "Delaying"
  | terminated => "Terminated"

/-- The state with a number: 0 to 3 in the order of the constructors. -/
def ofCode? : Int → Option FlowState
  | 0 => some awaitSend
  | 1 => some awaitOutcome
  | 2 => some delaying
  | 3 => some terminated
  | _ => none

/-- The name of the state with a number, or `State(?)`. -/
def nameOfCode (n : Int) : String := ((ofCode? n).map name).getD "State(?)"

end FlowState

/-- A call made out of turn: the operation and the state it found. It counts as a flow driven
out of order (`Fault.outOfOrder`). -/
structure UsageError where
  op : String
  state : FlowState
  deriving Repr

/-- The message of a call out of turn. -/
def UsageError.message (e : UsageError) : String :=
  "retryflow: " ++ e.op ++ " called in state " ++ e.state.name

/-- The failure a call out of turn wraps: the flow driven out of order, which every such call
thus matches. -/
def UsageError.unwrap (_ : UsageError) : Fault := .outOfOrder

/-- What a schedule's cursors share and what limiters draw keys from. -/
structure Shared where
  generators : Array Random.Generator := #[]
  keys : KeySource

/-- One request's flow. -/
structure Flow where
  request : Request
  limiter : Limiter.Flow
  schedule : Schedule.Cursor
  state : FlowState := .awaitSend
  last : Option Outcome := none
  attempts : Nat := 0

/-- What a report decides. -/
structure Step where
  done : Bool
  outcome : Outcome
  decision : Decision
  delay : Int

namespace Flow

/-- Hands out the request for the next attempt. -/
def next (f : Flow) : Except UsageError (Request × Flow) :=
  if f.state == .awaitSend || f.state == .delaying then
    .ok (f.request, { f with state := .awaitOutcome, attempts := f.attempts + 1 })
  else .error ⟨"Next", f.state⟩

/-- Takes the outcome of the attempt and decides what comes next. -/
def report (f : Flow) (o : Option Outcome) (sh : Shared) : Except UsageError (Step × Flow × Shared) :=
  if f.state != .awaitOutcome then .error ⟨"Report", f.state⟩
  else
    match o with
    | none => .error ⟨"Report(nil)", f.state⟩
    | some o =>
      let d := f.limiter.decide o (some f.request) sh.keys
      let f' := { f with last := some o, limiter := d.flow, request := d.request.getD f.request }
      let sh' := { sh with keys := d.keys }
      if d.decision != .retry then
        .ok (⟨true, o, d.decision, 0⟩, { f' with state := .terminated }, sh')
      else
        let cursor := if f.schedule.observes then f.schedule.observe (some o) else f.schedule
        let (delay, cursor', gens) := cursor.next sh'.generators
        .ok (⟨false, o, .retry, max delay 0⟩, { f' with state := .delaying, schedule := cursor' },
          { sh' with generators := gens })

end Flow

end HttpRetry
