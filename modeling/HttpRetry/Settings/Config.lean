import HttpRetry.Settings.Decode

/-!
The configuration: how many times to retry (or a tree of limiters), the schedule of delays,
attempt deadlines and logging, with their types.

A configuration is decoded from a table of settings field by field, under the names `retries`,
`limiter`, `schedule`, `timeout` and `log` and their own fields (see `Decoding.lookup` for how
names match). Durations are in nanoseconds. A field that is absent or null keeps its zero value;
`retries`, `limiter`, the branches of a limiter and the jitter seed stay unset then. A timestamp
where a record belongs stands for a record with no fields, so the record keeps its zero values.
-/

namespace HttpRetry

/-- A limiter: its type (`and`, `or`, `dont_retry`, `max_errors`, `max_error_responses`), its
bound, the statuses it counts, the branches of `and` and `or`, and the headers it sets. -/
structure LimiterSettings where
  kind : String := ""
  max : Int := 0
  statusCodes : List Int := []
  left : Option LimiterSettings := none
  right : Option LimiterSettings := none
  attemptHeader : String := ""
  idempotencyHeader : String := ""
  deriving Inhabited

/-- A schedule: its type (`constant` or `exponential`) with its delay or factor, a cap, jitter
with an optional seed, and how a server's advice is taken (`ignore`, `override`, `floor`) with
its cap. -/
structure ScheduleSettings where
  kind : String := ""
  delay : Int := 0
  factor : Int := 0
  max : Int := 0
  jitter : Bool := false
  jitterSeed : Option Int := none
  retryAfter : String := ""
  maxRetryAfter : Int := 0

/-- Attempt deadlines: the usual one, and those after timed-out attempts. -/
structure TimeoutSettings where
  usual : Int := 0
  after : List Int := []

/-- Logging: the least level shown, and whether lines are for people rather than machines. -/
structure LogSettings where
  level : String := ""
  pretty : Bool := false

/-- A whole configuration. -/
structure Config where
  retries : Option Int := none
  limiter : Option LimiterSettings := none
  schedule : ScheduleSettings := {}
  timeout : TimeoutSettings := {}
  log : LogSettings := {}

namespace Setting

mutual

/-- How deeply tables and lists nest in a setting. -/
def depth : Setting → Nat
  | .list items => itemsDepth items + 1
  | .table entries => entriesDepth entries + 1
  | _ => 0

/-- The greatest depth among list items. -/
def itemsDepth : List Setting → Nat
  | [] => 0
  | v :: rest => max (depth v) (itemsDepth rest)

/-- The greatest depth among table entries. -/
def entriesDepth : List (String × Setting) → Nat
  | [] => 0
  | (_, v) :: rest => max (depth v) (entriesDepth rest)

end

end Setting

namespace Decoding

/-- Decodes a whole number field. -/
def whole (expected : String) : String → Int → Setting → Decoding Int :=
  convert (Setting.toWhole expected)

/-- Decodes a field that stays unset when absent or null, and is set by any other value
(starting from `zero`). -/
def pointer (dec : String → α → Setting → Decoding α) (zero : α) (name : String)
    (current : Option α) : Setting → Decoding (Option α)
  | .null => pure current
  | v => do return some (← dec name (current.getD zero) v)

/-- Decodes a text field. -/
def text : String → String → Setting → Decoding String := convert Setting.toText

/-- Decodes a boolean field. -/
def flag : String → Bool → Setting → Decoding Bool := convert Setting.toFlag

/-- Decodes a duration field. -/
def duration : String → Int → Setting → Decoding Int := convert Setting.toDuration

/-- Decodes the fields of a limiter; the branches go `fuel` levels deep at most. -/
def limiter : Nat → String → LimiterSettings → Setting → Decoding LimiterSettings
  | 0, _, current, _ => pure current
  | _, _, current, .null => pure current
  | _, _, current, .instant _ => pure current
  | fuel + 1, name, current, .table entries => do
    let kind ← field entries name "type" current.kind text
    let max ← field entries name "max" current.max (whole "int")
    let statusCodes ← field entries name "status_codes" current.statusCodes
      (list (whole "int") 0)
    let left ← field entries name "left" current.left (pointer (limiter fuel) {})
    let right ← field entries name "right" current.right (pointer (limiter fuel) {})
    let attemptHeader ← field entries name "attempt_header" current.attemptHeader text
    let idempotencyHeader ← field entries name "idempotency_header" current.idempotencyHeader text
    return { kind, max, statusCodes, left, right, attemptHeader, idempotencyHeader }
  | _, name, current, v => do
    notTable name v
    pure current

/-- Decodes the fields of a schedule. -/
def schedule (name : String) (current : ScheduleSettings) : Setting → Decoding ScheduleSettings
  | .null | .instant _ => pure current
  | .table entries => do
    let kind ← field entries name "type" current.kind text
    let delay ← field entries name "delay" current.delay duration
    let factor ← field entries name "factor" current.factor duration
    let max ← field entries name "max" current.max duration
    let jitter ← field entries name "jitter" current.jitter flag
    let jitterSeed ← field entries name "jitter_seed" current.jitterSeed (pointer (whole "int64") 0)
    let retryAfter ← field entries name "retry_after" current.retryAfter text
    let maxRetryAfter ← field entries name "max_retry_after" current.maxRetryAfter duration
    return { kind, delay, factor, max, jitter, jitterSeed, retryAfter, maxRetryAfter }
  | v => do
    notTable name v
    pure current

/-- Decodes the fields of the attempt deadlines. -/
def timeout (name : String) (current : TimeoutSettings) : Setting → Decoding TimeoutSettings
  | .null | .instant _ => pure current
  | .table entries => do
    let usual ← field entries name "usual" current.usual duration
    let after ← field entries name "after" current.after (list duration 0)
    return { usual, after }
  | v => do
    notTable name v
    pure current

/-- Decodes the fields of logging. -/
def log (name : String) (current : LogSettings) : Setting → Decoding LogSettings
  | .null | .instant _ => pure current
  | .table entries => do
    let level ← field entries name "level" current.level text
    let pretty ← field entries name "pretty" current.pretty flag
    return { level, pretty }
  | v => do
    notTable name v
    pure current

/-- Decodes a whole configuration from its table. -/
def config (entries : List (String × Setting)) : Decoding Config := do
  let current : Config := {}
  let retries ← field entries "" "retries" current.retries (pointer (whole "int") 0)
  let fuel := (Setting.table entries).depth
  let limiter ← field entries "" "limiter" current.limiter (pointer (limiter fuel) {})
  let schedule ← field entries "" "schedule" current.schedule schedule
  let timeout ← field entries "" "timeout" current.timeout timeout
  let log ← field entries "" "log" current.log log
  return { retries, limiter, schedule, timeout, log }

end Decoding

/-- The configuration a table of settings decodes to, or the faults met on the way. -/
def Config.decode (entries : List (String × Setting)) : Except (List String) Config :=
  let (c, faults) := (Decoding.config entries).run []
  if faults.isEmpty then .ok c else .error faults

end HttpRetry
