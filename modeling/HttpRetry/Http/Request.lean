import HttpRetry.Http.Body
import HttpRetry.Http.Method
import HttpRetry.Http.Url

/-!
Requests that can be sent more than once: a method, a target, a header map and stored body bytes
or a stream that can be taken once. The stream is shared with every copy, so `Request.toWire`
takes it at the first conversion of the request or any copy, and a later one fails with
`Fault.bodyUnavailable`.
-/

namespace HttpRetry

/-- A request. -/
structure Request where
  method : String
  target : String
  header : Option Header := some {}
  body : Option ByteArray := none
  stream : Option Stream := none
  deriving Inhabited, BEq

/-- A request as it goes on the wire. -/
structure WireRequest where
  method : String
  url : String
  header : Header
  contentLength : Nat
  /-- The body can be produced again for a repeated send. -/
  replayable : Bool
  body : Option ByteArray

namespace Request

/-- A request with a checked method, an empty header map and the bytes of a body. -/
def new (method target : String) (body : Option BodySource) : Except Fault Request := do
  let m ← (checkMethod method).mapError Fault.text
  let b ← bodyBytes body
  return { method := m, target, body := b }

/-- A request whose body is a stream, taken at the first conversion. -/
def newStreaming (method target : String) (s : Option Stream) : Except Fault Request := do
  let r ← new method target none
  return { r with stream := s }

/-- A request with a stream body. -/
def isStreaming (r : Request) : Bool := r.stream.isSome

/-- A request that may be repeated safely. -/
def idempotent (r : Request) : Bool := isIdempotent r.method

/-- A copy of the request: the same method, target and stream, a header map with the same names
and values, and the body's bytes appended to an absent body. -/
def clone (r : Request) : Request :=
  match r.body with
  | some b => { r with body := appendBytes none b }
  | none => r

/-- Converts the request for the wire, its stream taken before if `taken`: the result, and
whether the stream is taken afterwards. The first conversion takes the stream, and it stays
taken even when the address cannot be read. -/
def toWire (r : Request) (taken : Bool) : Except Fault WireRequest × Bool :=
  let body : Except Fault (Option ByteArray × Bool × Nat) × Bool :=
    match r.stream with
    | some s => if taken then (.error Fault.bodyUnavailable, true) else (.ok (some s.content, false, 0), true)
    | none =>
      match r.body with
      | some b => if b.size > 0 then (.ok (some b, true, b.size), taken) else (.ok (none, false, 0), taken)
      | none => (.ok (none, false, 0), taken)
  match body with
  | (.error f, taken') => (.error f, taken')
  | (.ok (body, replayable, len), taken') =>
    match Url.parse r.target with
    | .error (addr, msg) => (.error (.request "parse" addr (.text msg)), taken')
    | .ok u =>
      (.ok { method := r.method, url := u.dropEmptyPort.render, header := r.header.getD {},
             contentLength := len, replayable, body }, taken')

end Request

end HttpRetry
