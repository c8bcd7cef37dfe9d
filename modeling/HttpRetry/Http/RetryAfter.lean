import HttpRetry.Http.Header
import HttpRetry.Text.Decimal
import HttpRetry.Text.Space
import HttpRetry.Time.HttpDate

/-!
A server's advice on when to try again: the first `Retry-After` value, trimmed of white space.
It is either a whole number of seconds (a sign allowed; a negative number is no advice, and a
number of seconds too large for a duration is the longest duration) or an HTTP date, whose
distance from now is the advice, at least zero and at most the longest duration. Any other
text, or no value at all, is no advice.
-/

namespace HttpRetry

/-- The longest duration, in nanoseconds. -/
def maxDuration : Int := Int.pow 2 63 - 1

/-- The advice a header map gives at the instant `now`, in nanoseconds. -/
def retryAdvice (h : Option Header) (now : Int) : Option Int :=
  let v := Text.trimSpace ((h.map (·.get "Retry-After")).getD "")
  if v.isEmpty then none
  else
    match Text.parseSigned v with
    | .ok secs =>
      if secs < 0 then none
      else if secs > maxDuration / Time.nanosPerSecond then some maxDuration
      else some (secs * Time.nanosPerSecond)
    | .error _ =>
      (Time.parseHttpDate v).map fun t => max 0 (min maxDuration (t - now))

end HttpRetry
