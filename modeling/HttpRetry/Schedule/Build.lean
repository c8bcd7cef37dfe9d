import HttpRetry.Schedule
import HttpRetry.Refusal

/-!
Building schedules from settings, with their checks: delays, factors and caps must not be
negative; a wrapping schedule needs the schedule it wraps; advice needs a known mode and a clock.

Jitter needs a seed: a whole number or an instant, which seeds a fresh generator (an instant by
its nanoseconds since the epoch), or a source or generator to draw from, taken as it stands and
drawn from by the schedule alone. Nothing at all, a generator that does not exist, or a value of
any other type is refused.
-/

namespace HttpRetry

/-- What was given as the seed of a jitter generator. -/
inductive SeedSpec where
  /-- A whole number of type `int`. -/
  | int (n : Int)
  /-- A whole number of type `int64`. -/
  | int64 (n : Int)
  /-- An instant, in nanoseconds since the epoch. -/
  | instant (t : Int)
  /-- A source of random numbers. -/
  | source (g : Random.Generator)
  /-- A generator, possibly one that does not exist. -/
  | generator (g : Option Random.Generator)
  /-- Nothing. -/
  | missing
  /-- A value of a type that cannot be a seed. -/
  | wrongType

/-- The generator a seed gives: a fresh one seeded with a number or an instant's nanoseconds, or
the given source or generator itself. -/
def SeedSpec.generator? : SeedSpec → Except Refusal Random.Generator
  | .int n | .int64 n => .ok (Random.Generator.ofSeed n)
  | .instant t => .ok (Random.Generator.ofSeed (Time.unixNano t))
  | .source g | .generator (some g) => .ok g
  | .generator none => .error (.crash "retryflow/retry: jitter seed may not be a typed nil")
  | .missing => .error (.crash "retryflow/retry: nil jitter seed")
  | .wrongType => .error (.crash "retryflow/retry: invalid jitter seed type")

namespace Schedule

/-- Refuses a missing schedule. -/
def require : Option Schedule → Except Refusal Schedule
  | some s => .ok s
  | none => .error (.crash "retryflow/retry: nil schedule")

/-- The same delay every time. -/
def constantOf (d : Int) : Except Refusal Schedule := do
  requireNonNegative "Constant.d" d
  return .constant d

/-- Exponential backoff from a factor. -/
def exponentialOf (factor : Int) : Except Refusal Schedule := do
  requireNonNegative "ExponentialBackoff.factor" factor
  return .exponential factor

/-- The delays of a schedule, none above a cap. -/
def cappedOf (s : Option Schedule) (max : Int) : Except Refusal Schedule := do
  let s ← require s
  requireNonNegative "Capped.max" max
  return .capped s max

/-- The delays of a schedule, each replaced by a uniform draw below it. -/
def jitterOf (s : Option Schedule) (seed : SeedSpec) : Except Refusal Schedule := do
  let s ← require s
  return .jitter s (← seed.generator?)

/-- The delays of a schedule, overridden or raised by a server's advice. The mode is given by
its number; the cap defaults to the longest duration; the clock must be there. -/
def advisedOf (s : Option Schedule) (mode : Int) (max : Option Int) (clock : Option (Nat → Int)) :
    Except Refusal Schedule := do
  let s ← require s
  let some m := AdviceMode.ofCode? mode
    | throw (.invalid ⟨"RetryAfter.mode", AdviceMode.nameOfCode mode, "unknown mode"⟩)
  let some clock := clock | throw (.crash "retryflow/retry: nil clock")
  let cap := max.getD maxDuration
  requireNonNegative "RetryAfter.max" cap
  return .advised s m cap clock

end Schedule

end HttpRetry
