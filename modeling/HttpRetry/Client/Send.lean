import HttpRetry.Client.Transport
import HttpRetry.Timeout

/-!
The send loop: one execution of a request, driven by an orchestrator's flow. Each round takes the
request from the flow, lets the timeout policy read the execution, sends, and records the outcome
(a failure of kind `Other` caused only by the attempt's own deadline counts as a read failure);
then, unless the caller's context is done, the flow decides, and a retry waits its delay, which
the context may also cut short. Every event, request sent and step answered is recorded, and the
loop's fuel, one round more than the limiter's bound on retries, never ends a run early.
-/

namespace HttpRetry

/-- A run of the send loop: the execution at its end, the events with the execution as each
saw it, the requests sent, the steps the flow answered, the flow, the shared state of the
orchestrator's flows, the execution as the timeout policy read it before each attempt, whether
the request's stream has been taken, and why the caller's context ended the run, if it did. -/
structure SendRun where
  execution : Execution
  events : List (EventKind × Execution)
  sent : List Request
  steps : List Step
  flow : Flow
  shared : Shared
  deadlineReads : List Execution := []
  /-- Whether the request's stream has been taken. -/
  streamTaken : Bool := false
  /-- Why the caller's context cut the run short, if it did. -/
  cut : Option ContextEnd := none

namespace SendRun

/-- Records an event with the execution as it stands. -/
def fire (k : EventKind) (s : SendRun) : SendRun := { s with events := s.events ++ [(k, s.execution)] }

/-- Changes the execution. -/
def update (s : SendRun) (f : Execution → Execution) : SendRun := { s with execution := f s.execution }

/-- Ends the attempts because the caller's context is done for `reason`. -/
def cutShort (s : SendRun) (reason : ContextEnd) : SendRun :=
  let s := { s with cut := some reason }.update fun e => { e with err := some reason.fault }
  match reason with
  | .deadline => s.fire .afterExecutionTimeout
  | .canceled => s

/-- Ends the attempts because the flow refused a call. -/
def outOfOrder (s : SendRun) : SendRun := s.update fun e => { e with err := some .outOfOrder }

/-- Records the end of an attempt: the outcome, its failure, and a timeout if it is one. -/
def settle (s : SendRun) (o : Outcome) : SendRun :=
  let s := s.update fun e => { e with outcome := some o, err := o.fault? }
  let s := if s.execution.timedOut then
      (s.update fun e => { e with attemptTimeouts := e.attemptTimeouts + 1 }).fire .afterAttemptTimeout
    else s
  s.fire .afterAttempt

end SendRun

/-- The outcome an attempt leaves, the caller's context done for `done` when the outcome is
classified, if it is: a failure of kind `Other` caused only by the attempt's own deadline counts
as a failure to read. -/
def AttemptEnd.settled (a : AttemptEnd) (done : Option ContextEnd) : Outcome :=
  match a.outcome with
  | .failed .other f => if a.deadlinePassed && done.isNone then .failed .read f else a.outcome
  | o => o

namespace SendRun

/-- Makes one attempt of request `r`, with `transport` answering the `i`-th attempt: lets the
timeout policy read the execution, clears the latest outcome and failure, fires `BeforeAttempt`,
sends, and records how the attempt ended. Gives the outcome recorded too. -/
def attempt (ctx : CallerContext) (transport : Nat → Reply) (r : Request) (s : SendRun) :
    SendRun × Outcome :=
  let k := s.sent.length
  let s := { s with deadlineReads := s.deadlineReads ++ [s.execution] }
  let s := (s.update fun e => { e with outcome := none, err := none }).fire .beforeAttempt
  let a := (transport k).answer (ctx.doneAt? (.sending k)) r s.streamTaken
  let o := a.settled (ctx.doneAt? (.classifying k))
  ({ s with sent := s.sent ++ [r], streamTaken := a.taken }.settle o, o)

/-- Takes the step the flow answered, with the flow and the shared state after it; the execution's
request is the flow's. -/
def record (step : Step) (flow : Flow) (shared : Shared) (s : SendRun) : SendRun :=
  { s with steps := s.steps ++ [step], flow, shared }.update fun e => { e with request := flow.request }

/-- Starts the wait before a retry: records the delay and fires `BeforeWait`. -/
def waitFor (delay : Int) (s : SendRun) : SendRun :=
  (s.update fun e => { e with wait := delay }).fire .beforeWait

/-- Counts the next attempt, the wait over. -/
def nextAttempt (s : SendRun) : SendRun := s.update fun e => { e with attempt := e.attempt + 1 }

/-- The deadlines a timeout policy `p` gives the attempts, each chosen from the execution as it
stood before its attempt. -/
def deadlines (p : TimeoutPolicy) (s : SendRun) : List (Except Refusal Int) :=
  s.deadlineReads.map fun e => p.deadlineFor e.err e.attemptTimeouts

end SendRun

/-- How a round of the loop ends: the run is over, or it goes on with another round. -/
inductive RoundEnd where
  | stop (s : SendRun)
  | again (s : SendRun)

/-- One round of the loop, with `transport` answering the `i`-th attempt: takes the request from
the flow, makes the attempt, and, unless the caller's context is done, reports the outcome to the
flow, which either ends the run or retries after a wait that the context may cut short. -/
def SendRun.round (ctx : CallerContext) (transport : Nat → Reply) (s : SendRun) : RoundEnd :=
  match s.flow.next with
  | .error _ => .stop s.outOfOrder
  | .ok (r, flow) =>
    let k := s.sent.length
    let (s, o) := { s with flow }.attempt ctx transport r
    match ctx.doneAt? (.recorded k) with
    | some reason => .stop (s.cutShort reason)
    | none =>
      match s.flow.report (some o) s.shared with
      | .error _ => .stop s.outOfOrder
      | .ok (step, flow, shared) =>
        let s := s.record step flow shared
        if step.done then .stop s
        else
          let s := s.waitFor step.delay
          match ctx.doneAt? (.waiting k) with
          | some reason => .stop (s.cutShort reason)
          | none => .again s.nextAttempt

/-- Runs rounds, at most `fuel` of them, with `transport` answering the `i`-th attempt. -/
def runAttempts (ctx : CallerContext) (transport : Nat → Reply) : Nat → SendRun → SendRun
  | 0, s => s
  | fuel + 1, s =>
    match s.round ctx transport with
    | .stop s => s
    | .again s => runAttempts ctx transport fuel s

/-- The run before its first round: the execution, with the first key of `keys` as its id, has
fired `BeforeExecutionStart` and started at the clock's reading `now`, and the flow for `r` is
fresh. -/
def SendRun.begin (o : Orchestrator) (r : Request) (keys : KeySource) (now : Int) : SendRun :=
  let (id, keys) := keys.uuid
  let flow : Flow := { request := r, limiter := o.limiter.begin, schedule := o.schedule.begin }
  let s : SendRun :=
    { execution := { id := id, request := r }, events := [], sent := [], steps := [], flow,
      shared := o.shared keys }
  (s.fire .beforeExecutionStart).update fun e => { e with start := some now }

/-- Ends the run at the clock's reading `now`: the execution ends and `AfterExecutionEnd`
fires. -/
def SendRun.finish (now : Int) (s : SendRun) : SendRun :=
  (s.update fun e => { e with stop := some now }).fire .afterExecutionEnd

/-- What a run gives its caller: the execution, and the execution's failure as the error. -/
def SendRun.result (s : SendRun) : Execution × Option Fault := (s.execution, s.execution.err)

/-- Sends request `r` with orchestrator `o` under the caller's context `ctx`, `transport`
answering the `i`-th attempt; keys come from `keys`, the execution's id first, and `clock` gives
the client clock's readings in turn. -/
def sendRequest (o : Orchestrator) (ctx : CallerContext) (r : Request) (transport : Nat → Reply)
    (keys : KeySource) (clock : Nat → Int) : SendRun :=
  (runAttempts ctx transport (o.limiter.retryBound + 1) (SendRun.begin o r keys (clock 0))).finish
    (clock 1)

end HttpRetry
