import HttpRetry.Client.Send

/-!
Tracing executions: each execution is one client span named `retryflow.execution`, with an
`attempt` event per attempt and a `retry.wait` event per scheduled retry; a failed execution
records an `exception` event and an error status. Attribute values are texts.
-/

namespace HttpRetry

/-- The name of a failure's type, as exceptions on spans record it. -/
def Fault.typeName : Fault → String
  | .text _ | .endOfInput | .truncatedInput | .canceled | .bodyUnavailable | .outOfOrder =>
    "*errors.errorString"
  | .sys _ => "syscall.Errno"
  | .netOp .. => "*net.OpError"
  | .lookup .. => "*net.DNSError"
  | .deadlineExceeded => "context.deadlineExceededError"
  | .timed .. => "*main.timeoutError"
  | .wrap .. => "*fmt.wrapError"
  | .request .. => "*url.Error"
  | .join _ => "*errors.joinError"

/-- The attributes of a span or an event: names with text values. -/
abbrev Attributes := List (String × String)

/-- Sets an attribute, replacing a value under the same name. -/
def Attributes.put (as : Attributes) (name value : String) : Attributes :=
  if as.any (·.1 == name) then as.map fun (n, v) => if n == name then (n, value) else (n, v)
  else as ++ [(name, value)]

/-- An event on a span. -/
structure SpanEvent where
  name : String
  attributes : Attributes

/-- The status of a span. -/
inductive SpanStatus where
  | unset
  | error (description : String)

/-- The name of a status. -/
def SpanStatus.name : SpanStatus → String
  | .unset => "Unset"
  | .error _ => "Error"

/-- The description of a status; only an error has one. -/
def SpanStatus.description : SpanStatus → String
  | .unset => ""
  | .error d => d

/-- A span. -/
structure Span where
  name : String
  attributes : Attributes
  events : List SpanEvent := []
  status : SpanStatus := .unset
  ended : Bool := false

namespace Span

/-- Adds an event. -/
def addEvent (s : Span) (name : String) (attributes : Attributes) : Span :=
  { s with events := s.events ++ [⟨name, attributes⟩] }

/-- The span of an execution as it starts. -/
def ofExecution (e : Execution) : Span :=
  { name := "retryflow.execution",
    attributes := [("retryflow.flow_id", e.id), ("http.request.method", e.request.method),
      ("url.full", e.request.target)] }

/-- Closes the span at the end of the execution. -/
def finish (s : Span) (e : Execution) : Span :=
  let attrs := (s.attributes.put "retryflow.attempts" (toString (e.attempt + 1))).put
    "retryflow.attempt_timeouts" (toString e.attemptTimeouts)
  let attrs := if e.status != 0 then attrs.put "http.response.status_code" (toString e.status)
    else attrs
  let s := { s with attributes := attrs }
  let s := match e.err with
    | some f =>
      { s.addEvent "exception" [("exception.type", f.typeName), ("exception.message", f.message)] with
        status := .error f.message }
    | none => s
  { s with ended := true }

/-- Follows an event of the execution. -/
def observe (s : Option Span) : EventKind × Execution → Option Span
  | (.beforeExecutionStart, e) => some (ofExecution e)
  | (.afterAttempt, e) =>
    s.map fun s =>
      let detail := match e.outcome with
        | some (.failed k f) => [("retryflow.error_kind", k.name), ("error.message", f.message)]
        | _ => [("http.response.status_code", toString e.status)]
      s.addEvent "attempt" ([("retryflow.attempt", toString e.attempt)] ++ detail)
  | (.beforeWait, e) =>
    s.map fun s => s.addEvent "retry.wait"
      [("retryflow.attempt", toString e.attempt), ("retryflow.wait_ms", toString (e.wait.tdiv 1000000))]
  | (.afterExecutionEnd, e) => s.map (·.finish e)
  | _ => s

end Span

/-- The spans a run records: the execution's span once it has ended. -/
def SendRun.spans (r : SendRun) : List Span :=
  match r.events.foldl Span.observe none with
  | some s => if s.ended then [s] else []
  | none => []

end HttpRetry
