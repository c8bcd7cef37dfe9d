import HttpRetry.Client.Execution

/-!
Transports: how one attempt of a request is answered, by an outcome of its own, by waiting for
the attempt's context to be done, or by sending over HTTP to a peer. Sending first converts the
request for the wire, taking a streaming body for good, and puts a failure on the way in front of
the request's operation and address.
-/

namespace HttpRetry

/-- What an HTTP peer does with a request. -/
inductive Exchange where
  /-- It responds; reading the body yields `body` and then fails with `readFailure`, if any. -/
  | respond (status : Int) (header : Option Header) (body : ByteArray) (readFailure : Option Fault)
  /-- The exchange fails. -/
  | fail (f : Fault)

/-- How a transport answers one attempt. -/
inductive Reply where
  /-- With this outcome. -/
  | outcome (o : Outcome)
  /-- By waiting until the attempt's context is done, then failing with the reason, of the given
  kind or classified. -/
  | awaitDeadline (kind : Option FailureKind)
  /-- By sending the request over HTTP. -/
  | http (x : Exchange)

/-- The operation of a method as failures name it: its first character, then the rest in lower
case; `Get` for no method. -/
def requestOperation (method : String) : String :=
  match method.toList with
  | [] => "Get"
  | c :: rest => String.ofList (c :: rest.map Char.toLower)

/-- A failure of sending `r`, in front of the request's operation and address unless it already
names a request. -/
def Fault.ofSending (r : Request) (f : Fault) : Fault :=
  match f with
  | .request .. => f
  | _ => .request (requestOperation r.method) r.target f

/-- Sends a request over HTTP, its stream taken before if `taken`: the outcome, and whether the
stream is taken afterwards. -/
def sendOverHttp (r : Request) (taken : Bool) (x : Exchange) : Outcome × Bool :=
  let (wire, taken') := r.toWire taken
  let failed := fun (f : Fault) => Outcome.ofFault (Fault.ofSending r f)
  match wire, x with
  | .error f, _ => (failed f, taken')
  | .ok _, .fail f => (failed f, taken')
  | .ok _, .respond _ _ _ (some f) => (failed f, taken')
  | .ok _, .respond status header body none => (.response status header (some body), taken')

/-- How an attempt ends: the outcome, whether the request's stream is taken afterwards, and
whether the attempt's own deadline passed while the caller's context stayed live. -/
structure AttemptEnd where
  outcome : Outcome
  taken : Bool
  deadlinePassed : Bool

/-- Runs one attempt of `r`, its stream taken before if `taken`, the caller's context done for
`done` while it is sent, if it is. A transport that waits for the attempt's context gets the
caller's reason, or else the attempt's own deadline. -/
def Reply.answer (reply : Reply) (done : Option ContextEnd) (r : Request) (taken : Bool) :
    AttemptEnd :=
  match reply with
  | .outcome o => ⟨o, taken, false⟩
  | .awaitDeadline kind =>
    let reason := (done.map ContextEnd.fault).getD .deadlineExceeded
    let o := match kind with
      | some k => Outcome.transport k (some reason)
      | none => Outcome.ofFault reason
    ⟨o, taken, done.isNone⟩
  | .http x =>
    let (o, taken') := sendOverHttp r taken x
    ⟨o, taken', false⟩

end HttpRetry
