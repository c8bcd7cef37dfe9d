import HttpRetry.Client.Send
import HttpRetry.Text.Double

/-!
Metrics of executions under a namespace: `attempts_total` by outcome, `retries_total`, the
histogram `wait_seconds` of waits before retries (ten bounds doubling from 0.05), and
`executions_total` by result. Registering the same set twice in one registry is refused.
-/

namespace HttpRetry

/-- A histogram of doubles. -/
structure Histogram where
  bounds : List Float
  /-- Observations per bucket, one more bucket than bounds. -/
  counts : List Nat
  count : Nat := 0
  sum : Float := 0

namespace Histogram

/-- `n` bounds from `start`, each `factor` times the one before. -/
def exponentialBounds (start factor : Float) : Nat → List Float
  | 0 => []
  | n + 1 => start :: exponentialBounds (start * factor) factor n

/-- An empty histogram with the given bounds. -/
def empty (bounds : List Float) : Histogram := ⟨bounds, List.replicate (bounds.length + 1) 0, 0, 0⟩

/-- Records one observation. -/
def observe (h : Histogram) (v : Float) : Histogram :=
  let i := (h.bounds.findIdx? fun b => v ≤ b).getD h.bounds.length
  { h with counts := h.counts.modify i (· + 1), count := h.count + 1, sum := h.sum + v }

/-- The upper bounds with the number of observations up to each. -/
def cumulative (h : Histogram) : List (Float × Nat) :=
  let running := (h.counts.take h.bounds.length).foldl
    (fun (acc : List Nat × Nat) c => (acc.1 ++ [acc.2 + c], acc.2 + c)) ([], 0)
  h.bounds.zip running.1

end Histogram

/-- A duration in nanoseconds as seconds: whole seconds plus the rest divided by 10^9. -/
def secondsOf (d : Int) : Float :=
  Float.ofInt (d.tdiv 1000000000) + Float.ofInt (d.tmod 1000000000) / 1000000000

/-- A counter by label: the labels in the order first counted. -/
abbrev LabelCounts := List (String × Nat)

/-- Counts one more under a label. -/
def LabelCounts.bump (c : LabelCounts) (label : String) : LabelCounts :=
  if c.any (·.1 == label) then c.map fun (l, n) => if l == label then (l, n + 1) else (l, n)
  else c ++ [(label, 1)]

/-- The metrics of executions. -/
structure Metrics where
  scope : String
  attempts : LabelCounts := []
  retries : Nat := 0
  waits : Histogram := .empty (Histogram.exponentialBounds 0.05 2 10)
  executions : LabelCounts := []

/-- One value of a metric as it is exported. -/
inductive Sample where
  | counter (name : String) (label : Option (String × String)) (value : Nat)
  | histogram (name : String) (count : Nat) (sum : Float) (buckets : List (Float × Nat))

namespace Metrics

/-- The full name of a metric. -/
def fullName (ns name : String) : String :=
  "_".intercalate ([ns, "retryflow", name].filter (!·.isEmpty))

/-- The names of the metrics under a namespace. -/
def names (ns : String) : List String :=
  ["attempts_total", "retries_total", "wait_seconds", "executions_total"].map (fullName ns)

/-- Registers the metrics of namespace `ns` in a registry holding the metrics `taken`. -/
def register (taken : List String) (ns : String) : Except String (List String) :=
  if (names ns).any taken.contains then .error "duplicate metrics collector registration attempted"
  else .ok (taken ++ names ns)

/-- The label of an outcome. -/
def outcomeLabel : Outcome → String
  | .failed k _ => k.name
  | .response s _ _ => toString s

/-- The label of how an execution ended. -/
def resultLabel (e : Execution) : String :=
  if e.err.isSome then "error" else if e.attempt > 0 then "retried" else "first_attempt"

/-- Records an event of an execution. -/
def observe (m : Metrics) : EventKind × Execution → Metrics
  | (.afterAttempt, e) =>
    match e.outcome with
    | some o => { m with attempts := m.attempts.bump (outcomeLabel o) }
    | none => m
  | (.beforeWait, e) => { m with retries := m.retries + 1, waits := m.waits.observe (secondsOf e.wait) }
  | (.afterExecutionEnd, e) => { m with executions := m.executions.bump (resultLabel e) }
  | _ => m

/-- The metrics of a run under namespace `ns`. -/
def ofRun (ns : String) (s : SendRun) : Metrics := s.events.foldl observe { scope := ns }

/-- What the metrics export: counters by label as counted, the retries, and the waits. -/
def samples (m : Metrics) : List Sample :=
  let labelled := fun (name key : String) (c : LabelCounts) =>
    c.map fun (l, n) => Sample.counter (fullName m.scope name) (some (key, l)) n
  labelled "attempts_total" "outcome" m.attempts ++
    [.counter (fullName m.scope "retries_total") none m.retries,
     .histogram (fullName m.scope "wait_seconds") m.waits.count m.waits.sum m.waits.cumulative] ++
    labelled "executions_total" "result" m.executions

end Metrics

end HttpRetry
