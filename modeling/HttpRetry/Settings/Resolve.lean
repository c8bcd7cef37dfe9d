import HttpRetry.Settings.Config
import HttpRetry.Orchestrator
import HttpRetry.Timeout

/-!
Turning a configuration into its retry policy and attempt deadlines. A limiter tree is built from
its leaves up, each node then given its attempt header and idempotency key header when named. A
schedule is a constant delay or backoff, then capped, jittered, and advised, in that order, so
advice is never jittered or capped except by its own cap.
-/

namespace HttpRetry

/-- The limiter a limiter tree describes. -/
def LimiterSettings.build : LimiterSettings → Except Refusal Limiter
  | ⟨kind, max, codes, left, right, attemptHeader, idempotencyHeader⟩ => do
    let base ← match kind with
      | "dont_retry" => pure .dontRetry
      | "max_errors" => Limiter.maxErrorsOf max
      | "max_error_responses" => Limiter.maxErrorResponsesOf max codes
      | "and" | "or" =>
        match left, right with
        | some l, some r => do
          let a ← LimiterSettings.build l
          let b ← LimiterSettings.build r
          if kind == "and" then Limiter.bothOf (some a) (some b) else Limiter.eitherOf (some a) (some b)
        | _, _ => throw (.invalid ⟨"limiter", kind, "requires left and right"⟩)
      | _ => throw (.invalid ⟨"limiter.type", kind, "unknown limiter type"⟩)
    let counted ← if attemptHeader.isEmpty then pure base
      else Limiter.attemptHeaderOf (some base) attemptHeader
    if idempotencyHeader.isEmpty then pure counted
    else Limiter.idempotencyKeyOf (some counted) idempotencyHeader

/-- The seed of a configuration's jitter: the configured number, or else the instant `now`. -/
def ScheduleSettings.seedSpec (now : Int) (s : ScheduleSettings) : SeedSpec :=
  match s.jitterSeed with
  | some n => .int64 n
  | none => .instant now

/-- The schedule a schedule configuration describes: `now` is the instant it is built (in
nanoseconds), which seeds unseeded jitter, and `clock` the clock advice given as a date is read
on. -/
def ScheduleSettings.build (now : Int) (clock : Nat → Int) (s : ScheduleSettings) :
    Except Refusal Schedule := do
  let base ← match s.kind with
    | "constant" => Schedule.constantOf s.delay
    | "exponential" => Schedule.exponentialOf s.factor
    | _ => throw (.invalid ⟨"schedule.type", s.kind, "unknown schedule type"⟩)
  let capped ← if s.max > 0 then Schedule.cappedOf (some base) s.max else pure base
  let jittered ← if s.jitter then Schedule.jitterOf (some capped) (s.seedSpec now) else pure capped
  let adviceCap := if s.maxRetryAfter > 0 then some s.maxRetryAfter else none
  match s.retryAfter with
  | "" | "ignore" => pure jittered
  | "override" => Schedule.advisedOf (some jittered) 1 adviceCap (some clock)
  | "floor" => Schedule.advisedOf (some jittered) 2 adviceCap (some clock)
  | mode => throw (.invalid ⟨"schedule.retry_after", mode, "unknown Retry-After mode"⟩)

namespace Config

/-- The limiter of a configuration. -/
def limiterOf (c : Config) : Except Refusal Limiter :=
  match c.limiter with
  | some l => l.build
  | none => Limiter.maxErrorsOf (c.retries.getD 3)

/-- The retry policy of a configuration, built at `now` over `clock`. -/
def policy (now : Int) (clock : Nat → Int) (c : Config) : Except Refusal Policy := do
  let l ← c.limiterOf
  let s ← c.schedule.build now clock
  return ⟨some l, some s⟩

/-- The orchestrator of a configuration, built at `now` over `clock`. -/
def orchestrator (now : Int) (clock : Nat → Int) (c : Config) : Except Refusal Orchestrator := do
  Orchestrator.ofPolicy (← c.policy now clock)

/-- The attempt deadlines of a configuration (whose deadlines are positive, as checked). -/
def timeoutPolicy (c : Config) : TimeoutPolicy := ⟨c.timeout.usual, c.timeout.after⟩

end Config

/-- The first `n` delays of a fresh flow of a schedule, with no outcome observed. -/
def Schedule.firstDelays (s : Schedule) (n : Nat) : List Int :=
  let rec go : Nat → Schedule.Cursor → Array Random.Generator → List Int
    | 0, _, _ => []
    | k + 1, cursor, gens =>
      let (d, cursor, gens) := cursor.next gens
      d :: go k cursor gens
  go n s.begin s.generators

end HttpRetry
