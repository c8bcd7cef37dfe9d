import HttpRetry.Fault.Kind
import HttpRetry.Http.Header
import HttpRetry.Refusal

/-!
Outcomes of one attempt: either the exchange failed, with a kind and a failure, or a response
came back, with a status, a header map (possibly absent) and a body (possibly absent).

An outcome is written `Read error: <message>` or `HTTP 503`. A failed outcome made from a bare
kind carries the message `retryflow/request: <kind in lower case> error`.
-/

namespace HttpRetry

/-- The result of one attempt. -/
inductive Outcome where
  /-- The exchange failed; the kind says where. -/
  | failed (kind : FailureKind) (fault : Fault)
  /-- A response arrived. -/
  | response (status : Int) (header : Option Header) (body : Option ByteArray)
  deriving Inhabited

namespace Outcome

/-- A failed outcome of the given kind; without a failure of its own it gets one whose message
names the kind. -/
def transport (kind : FailureKind) (fault : Option Fault) : Outcome :=
  .failed kind (fault.getD (.text ("retryflow/request: " ++ kind.name.toLower ++ " error")))

/-- A failed outcome whose kind is read off the failure. -/
def ofFault (f : Fault) : Outcome := .failed f.kind f

/-- A failed outcome read off a failure; without a failure there is nothing to read, and the
library refuses. -/
def ofFault? : Option Fault → Except Refusal Outcome
  | some f => .ok (ofFault f)
  | none => .error (.crash "retryflow/request: nil error")

/-- A response with a status and a header map and no body. -/
def ofStatus (status : Int) (header : Option Header) : Outcome := .response status header none

/-- The outcome is a failure. -/
def isError : Outcome → Bool
  | failed .. => true
  | response .. => false

/-- The failure, if the outcome is one. -/
def fault? : Outcome → Option Fault
  | failed _ f => some f
  | response .. => none

/-- The kind of a failure; a response has the kind `other`. -/
def kind : Outcome → FailureKind
  | failed k _ => k
  | response .. => .other

/-- The status of a response; a failure has status 0. -/
def status : Outcome → Int
  | failed .. => 0
  | response s _ _ => s

/-- The header map of a response. -/
def header? : Outcome → Option Header
  | failed .. => none
  | response _ h _ => h

/-- A failure of a kind worth another attempt. -/
def retryable : Outcome → Bool
  | failed k _ => k.retryable
  | response .. => false

/-- The outcome as text. -/
def text : Outcome → String
  | failed k f => k.name ++ " error: " ++ f.message
  | response s _ _ => "HTTP " ++ toString s

end Outcome

end HttpRetry
