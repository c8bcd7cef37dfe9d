import HttpRetry.Orchestrator

/-!
Dry runs: one flow of an orchestrator driven against a script of outcomes, the last repeating,
without sending or waiting. A delay is added to the time elapsed, a signed 64-bit count that wraps
around; a flow still retrying after 1000 attempts is given up, the report so far kept.
-/

namespace HttpRetry.DryRun

/-- The address dry-run requests go to. -/
def dryRunTarget : String := "http://retryplan.invalid/"

/-- The most attempts a dry run makes. -/
def maxAttempts : Nat := 1000

/-- One attempt of a dry run. -/
structure AttemptReport where
  attempt : Nat
  outcome : String
  decision : String
  /-- The delay before the next attempt; zero for the last. -/
  delay : Int
  /-- The time spent waiting before this attempt. -/
  elapsed : Int
  headers : List String

/-- What a dry run did. -/
structure Report where
  method : String
  attempts : List AttemptReport
  final : String := ""
  totalDelay : Int := 0

/-- Why a dry run stopped short. -/
inductive RunFailure where
  | emptyScript
  | badRequest (f : Fault)
  | stillRetrying
  | misuse (e : UsageError)

/-- The text of a failure. -/
def RunFailure.message : RunFailure → String
  | .emptyScript => "empty outcome script"
  | .badRequest f => f.message
  | .stillRetrying => "flow still retrying after " ++ toString maxAttempts ++ " attempts"
  | .misuse e => e.message

/-- A dry run's result: its report, its failure, or both. -/
structure Result where
  report : Option Report
  failure : Option RunFailure

/-- A sum of nanoseconds as a signed 64-bit word does it, wrapping on overflow. -/
def addWrapping (a b : Int) : Int :=
  let s := (a + b) % Int.pow 2 64
  if s ≥ Int.pow 2 63 then s - Int.pow 2 64 else s

/-- Runs attempts from number `i`, with `left` more allowed. -/
def runAttempts (script : List Outcome) (last : Outcome) (shared : Shared) :
    Nat → Nat → Flow → Int → Report → Result
  | 0, _, _, _, report => ⟨some report, some .stillRetrying⟩
  | left + 1, i, flow, elapsed, report =>
    match flow.next with
    | .error e => ⟨some report, some (.misuse e)⟩
    | .ok (request, flow) =>
      let outcome := script.getD i last
      match flow.report (some outcome) shared with
      | .error e => ⟨some report, some (.misuse e)⟩
      | .ok (step, flow, shared2) =>
        let entry : AttemptReport := ⟨i, outcome.text, step.decision.name, 0, elapsed,
          request.withHeader.lines⟩
        if step.done then
          let finished : Report :=
            ⟨report.method, report.attempts ++ [entry], step.outcome.text, elapsed⟩
          ⟨some finished, none⟩
        else
          runAttempts script last shared2 left (i + 1) flow (addWrapping elapsed step.delay)
            { report with attempts := report.attempts ++ [{ entry with delay := step.delay }] }

/-- Drives one flow of `o` for a request with `method` against `script`, drawing keys from
`keys`. -/
def simulate (o : Orchestrator) (method : String) (script : List Outcome) (keys : KeySource) :
    Result :=
  match script.getLast? with
  | none => ⟨none, some .emptyScript⟩
  | some last =>
    match Request.new method dryRunTarget none with
    | .error f => ⟨none, some (.badRequest f)⟩
    | .ok r =>
      let flow : Flow := { request := r, limiter := o.limiter.begin, schedule := o.schedule.begin }
      runAttempts script last (o.shared keys) maxAttempts 0 flow 0 ⟨r.method, [], "", 0⟩

end HttpRetry.DryRun
