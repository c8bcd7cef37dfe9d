import HttpRetry.Fault.Kind
import HttpRetry.Http.RetryAfter
import HttpRetry.Refusal

/-!
Attempt deadlines. A policy has a usual deadline and a list of deadlines for attempts that
follow timed-out ones: after the `k`-th timed-out attempt the `k`-th of those applies (the last
one for any later). When the previous attempt did not time out, the usual deadline applies.
Every deadline must be positive.
-/

namespace HttpRetry

/-- How long each attempt may take, in nanoseconds. -/
structure TimeoutPolicy where
  usual : Int
  after : List Int := []
  deriving Repr

namespace TimeoutPolicy

/-- A policy from its deadlines; a deadline that is not positive is refused outright. -/
def of (usual : Int) (after : List Int) : Except Refusal TimeoutPolicy :=
  if (usual :: after).all (· > 0) then .ok ⟨usual, after⟩
  else .error (.crash "retryflow/timeout: timeout must be positive")

/-- Five seconds for every attempt. -/
def default : TimeoutPolicy := ⟨5000000000, []⟩

/-- No deadline at all: the longest duration. -/
def infinite : TimeoutPolicy := ⟨maxDuration, []⟩

/-- The deadline for the next attempt, given the previous attempt's failure and the number of
attempts that timed out so far. A negative count has no deadline to point at. -/
def deadlineFor (p : TimeoutPolicy) (err : Option Fault) (timeouts : Int) : Except Refusal Int :=
  if !(err.any Fault.isTimeout) then .ok p.usual
  else
    let i := min timeouts p.after.length
    if i < 0 then .error (.crash ("runtime error: index out of range [" ++ toString i ++ "]"))
    else .ok ((p.usual :: p.after).getD i.toNat p.usual)

end TimeoutPolicy

end HttpRetry
