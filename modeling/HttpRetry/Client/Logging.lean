import HttpRetry.Client.Send
import HttpRetry.Log.Entry

/-!
A structured log of executions: each attempt's start at `debug`, a failed attempt at `warn` and a
response at `debug`, a scheduled retry at `info`, and the end at `info`, or at `error` with the
failure. Every entry carries the execution's id as `flow_id` and the attempt number.
-/

namespace HttpRetry

namespace Log

/-- The fields every entry of an execution carries. -/
def executionFields (e : Execution) : List (String × Value) :=
  [("flow_id", .text e.id), ("attempt", .int e.attempt)]

/-- The entries an event of an execution produces. -/
def executionEntries : EventKind × Execution → List Entry
  | (.beforeAttempt, e) =>
    [⟨.debug, executionFields e ++ [("method", .text e.request.method),
      ("target", .text e.request.target)], "attempt starting"⟩]
  | (.afterAttempt, e) =>
    match e.outcome with
    | some (.failed k f) =>
      [⟨.warn, [("error", .failure f.message), ("error_kind", .text k.name)] ++ executionFields e ++
        [("timeout", .flag e.timedOut)], "attempt failed"⟩]
    | _ => [⟨.debug, executionFields e ++ [("status", .int e.status)], "attempt completed"⟩]
  | (.beforeWait, e) =>
    [⟨.info, executionFields e ++ [("wait", .duration e.wait)], "retry scheduled"⟩]
  | (.afterExecutionEnd, e) =>
    let (level, failure) := match e.err with
      | some f => (Level.error, [("error", Value.failure f.message)])
      | none => (Level.info, [])
    let status := if e.status != 0 then [("status", Value.int e.status)] else []
    [⟨level, failure ++ status ++ executionFields e ++ [("attempts", .int (e.attempt + 1)),
      ("attempt_timeouts", .int e.attemptTimeouts), ("duration", .duration (e.duration (e.stop.getD 0)))], "execution ended"⟩]
  | _ => []

end Log

/-- The log of a run, entry by entry. -/
def SendRun.logEntries (s : SendRun) : List Log.Entry := s.events.flatMap Log.executionEntries

end HttpRetry
