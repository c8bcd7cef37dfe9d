import HttpRetry.Limiter
import HttpRetry.Refusal

/-!
Building limiters from settings, with their checks: budgets must not be negative, status codes
must lie in 100..599, header names must be tokens, and a decorator or combination needs the
limiters it is built from (and a decorator its marking). A missing part is refused outright; an
out-of-range setting is `invalid`, naming the setting.
-/

namespace HttpRetry

namespace Limiter

/-- Refuses a missing limiter. -/
def require : Option Limiter → Except Refusal Limiter
  | some l => .ok l
  | none => .error (.crash "retryflow/retry: nil limiter")

/-- Retries failures that `accepts` takes, at most `n` times. -/
def maxErrorsIf (n : Int) (accepts : Option (Outcome → Bool)) : Except Refusal Limiter := do
  requireNonNegative "MaxErrors.n" n
  match accepts with
  | some a => return .maxErrors n.toNat a
  | none => throw (.crash "retryflow/retry: nil classifier")

/-- Retries failures of a kind worth retrying, at most `n` times. -/
def maxErrorsOf (n : Int) : Except Refusal Limiter := maxErrorsIf n (some Outcome.retryable)

/-- Retries responses with one of the status codes, at most `n` times. -/
def maxErrorResponsesOf (n : Int) (codes : List Int) : Except Refusal Limiter := do
  requireNonNegative "MaxErrorResponses.n" n
  match codes.find? fun c => c < 100 || c > 599 with
  | some c => throw (.invalid ⟨"MaxErrorResponses.statusCodes", toString c, "not an HTTP status code"⟩)
  | none => return .maxErrorResponses n.toNat codes

/-- Both limiters must agree to retry. -/
def bothOf (a b : Option Limiter) : Except Refusal Limiter := do
  return .both (← require a) (← require b)

/-- One of the limiters suffices to retry. -/
def eitherOf (a b : Option Limiter) : Except Refusal Limiter := do
  return .either (← require a) (← require b)

/-- Marks the request on each retry. -/
def onRetry (l : Option Limiter) (m : Option Marking) : Except Refusal Limiter := do
  let l ← require l
  match m with
  | some m => return .marking l m
  | none => throw (.crash "retryflow/retry: nil mutator")

/-- Refuses a header name that is not a token. -/
def requireHeaderName (field name : String) : Except Refusal Unit :=
  if isHeaderName name then .ok ()
  else .error (.invalid ⟨field, Text.quote name, "not a valid header field name"⟩)

/-- Sets a header to the retry's number on each retry. -/
def attemptHeaderOf (l : Option Limiter) (name : String) : Except Refusal Limiter := do
  requireHeaderName "AttemptHeader.name" name
  onRetry l (some (.countHeader name))

/-- Gives the request a random key header on its first retry, unless it has one. -/
def idempotencyKeyOf (l : Option Limiter) (name : String) : Except Refusal Limiter := do
  requireHeaderName "IdempotencyKey.name" name
  onRetry l (some (.idempotencyKey name))

end Limiter

end HttpRetry
