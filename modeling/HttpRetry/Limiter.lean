import HttpRetry.Decision
import HttpRetry.Outcome
import HttpRetry.Http.Request
import HttpRetry.Keys

/-!
Limiters: rules that decide, outcome by outcome, whether a request may be tried again.
`Limiter.begin` gives the state for one request. `maxErrors` retries failures its classifier
takes and `maxErrorResponses` listed statuses of idempotent requests, each while budget is left;
`both` and `either` ask both parts in turn, and `marking` decides as the limiter inside and marks
the request it retries.
-/

namespace HttpRetry

/-- How a request is marked when it is to be retried. -/
inductive Marking where
  /-- Adds the retry's number as one more value of a header. -/
  | appendCount (name : String)
  /-- Sets a header to the retry's number. -/
  | countHeader (name : String)
  /-- Sets a header to a fresh random key, unless it already has a non-empty value. -/
  | idempotencyKey (name : String)

/-- A rule for retrying. -/
inductive Limiter where
  | dontRetry
  | maxErrors (n : Nat) (accepts : Outcome → Bool)
  | maxErrorResponses (n : Nat) (codes : List Int)
  | both (a b : Limiter)
  | either (a b : Limiter)
  | marking (inner : Limiter) (m : Marking)

/-- A limiter's state for one request. -/
inductive Limiter.Flow where
  | giveUp
  | errorBudget (remaining : Nat) (accepts : Outcome → Bool)
  | responseBudget (remaining : Nat) (codes : List Int)
  | both (a b : Limiter.Flow)
  | either (a b : Limiter.Flow)
  | marking (inner : Limiter.Flow) (m : Marking) (retries : Nat)

/-- A fresh state for one request. -/
def Limiter.begin : Limiter → Limiter.Flow
  | .dontRetry => .giveUp
  | .maxErrors n accepts => .errorBudget n accepts
  | .maxErrorResponses n codes => .responseBudget n codes
  | .both a b => .both a.begin b.begin
  | .either a b => .either a.begin b.begin
  | .marking l m => .marking l.begin m 0

/-- The most retries a limiter may grant one request: none for `dontRetry`, the budget of a
leaf, the sum of both parts' bounds for a combination, the inner bound for a decorator. -/
def Limiter.retryBound : Limiter → Nat
  | .dontRetry => 0
  | .maxErrors n _ => n
  | .maxErrorResponses n _ => n
  | .both a b => a.retryBound + b.retryBound
  | .either a b => a.retryBound + b.retryBound
  | .marking l _ => l.retryBound

/-- The header map of a request, with an empty one if it had none. -/
def Request.withHeader (r : Request) : Header := r.header.getD {}

/-- Marks a request for its `retry`-th retry. -/
def Marking.apply (m : Marking) (r : Request) (retry : Nat) (keys : KeySource) :
    Request × KeySource :=
  let h := r.withHeader
  match m with
  | .appendCount name => ({ r with header := some (h.add name (toString retry)) }, keys)
  | .countHeader name => ({ r with header := some (h.set name (toString retry)) }, keys)
  | .idempotencyKey name =>
    if (h.get name).isEmpty then
      let (key, keys') := keys.uuid
      ({ r with header := some (h.set name key) }, keys')
    else ({ r with header := some h }, keys)

/-- The result of deciding: the decision, the flow after it, the request after any marking,
and the key source after any key drawn. -/
structure Decided where
  decision : Decision
  flow : Limiter.Flow
  request : Option Request
  keys : KeySource

/-- Decides on an outcome for a request (which may be absent). -/
def Limiter.Flow.decide : Limiter.Flow → Outcome → Option Request → KeySource → Decided
  | .giveUp, _, r, k => ⟨.giveUp, .giveUp, r, k⟩
  | f@(.errorBudget n accepts), o, r, k =>
    if !o.isError then ⟨.pass, f, r, k⟩
    else if n == 0 || !accepts o then ⟨.giveUp, f, r, k⟩
    else ⟨.retry, .errorBudget (n - 1) accepts, r, k⟩
  | f@(.responseBudget n codes), o, r, k =>
    if o.isError || !codes.contains o.status then ⟨.pass, f, r, k⟩
    else
      match r with
      | some req =>
        if !req.idempotent || n == 0 then ⟨.giveUp, f, r, k⟩
        else ⟨.retry, .responseBudget (n - 1) codes, r, k⟩
      | none => ⟨.giveUp, f, r, k⟩
  | .both a b, o, r, k =>
    let x := a.decide o r k
    let y := b.decide o x.request x.keys
    ⟨Decision.both x.decision y.decision, .both x.flow y.flow, y.request, y.keys⟩
  | .either a b, o, r, k =>
    let x := a.decide o r k
    let y := b.decide o x.request x.keys
    ⟨Decision.either x.decision y.decision, .either x.flow y.flow, y.request, y.keys⟩
  | .marking inner m retries, o, r, k =>
    let x := inner.decide o r k
    match x.decision, x.request with
    | .retry, some req =>
      let (req', k') := m.apply req (retries + 1) x.keys
      ⟨.retry, .marking x.flow m (retries + 1), some req', k'⟩
    | d, r' => ⟨d, .marking x.flow m retries, r', x.keys⟩

end HttpRetry
