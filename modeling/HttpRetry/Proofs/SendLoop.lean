import HttpRetry.Client.Send
import HttpRetry.Proofs.RetryBound

/-!
Rounds of the send loop. A round ends in one of four ways (`SendRun.RoundEnds`), and the flow's
budget counts the rounds left, so the fuel always lasts (`runAttempts_induction`). `SendRun.Head`
holds when a round begins and `SendRun.Ended` once the last round has stopped
(`sendRequest_ended`).
-/

namespace HttpRetry

namespace CallerContext

variable {ctx : CallerContext} {m m' : Moment}

/-- A context done at a moment is done, for the same reason, at every later one. -/
theorem doneAt?_of_le {reason : ContextEnd} (h : m.index ≤ m'.index)
    (hm : ctx.doneAt? m = some reason) : ctx.doneAt? m' = some reason := by
  cases ctx with
  | live => cases hm
  | endsAt r m₀ =>
    simp only [doneAt?] at hm ⊢
    split at hm
    · rw [if_pos (by omega)]
      exact hm
    · cases hm

end CallerContext

/-- The events an attempt fires: `BeforeAttempt`, `AfterAttemptTimeout` if it timed out, and
`AfterAttempt`. -/
def EventKind.attempt (timedOut : Bool) : List EventKind :=
  .beforeAttempt :: ((if timedOut then [.afterAttemptTimeout] else []) ++ [.afterAttempt])

/-- The events of rounds that retried: each an attempt's events, then a wait. -/
def EventKind.rounds (timedOut : List Bool) : List EventKind :=
  timedOut.flatMap fun t => attempt t ++ [.beforeWait]

@[simp] theorem EventKind.rounds_nil : rounds [] = [] := rfl

@[simp] theorem EventKind.rounds_append_singleton (ts : List Bool) (t : Bool) :
    rounds (ts ++ [t]) = rounds ts ++ attempt t ++ [.beforeWait] := by
  simp [rounds]

@[simp] theorem EventKind.attempt_count_timeout (t : Bool) :
    (attempt t).count .afterAttemptTimeout = if t then 1 else 0 := by
  cases t <;> decide

/-- An outcome that counts as a timeout. -/
def Outcome.timedOut (o : Outcome) : Bool := o.fault?.any Fault.isTimeout

/-- The flow after handing out its request. -/
def Flow.taken (f : Flow) : Flow := { f with state := .awaitOutcome, attempts := f.attempts + 1 }

@[simp] theorem Flow.taken_state (f : Flow) : f.taken.state = .awaitOutcome := rfl
@[simp] theorem Flow.taken_attempts (f : Flow) : f.taken.attempts = f.attempts + 1 := rfl
@[simp] theorem Flow.taken_limiter (f : Flow) : f.taken.limiter = f.limiter := rfl
@[simp] theorem Flow.taken_request (f : Flow) : f.taken.request = f.request := rfl

namespace SendRun

/-- The kinds of the events fired, in order. -/
def kinds (s : SendRun) : List EventKind := s.events.map Prod.fst

/-- The execution as each `AfterAttempt` saw it. -/
def afterAttempts (s : SendRun) : List Execution :=
  s.events.filterMap fun ev => if ev.1 = .afterAttempt then some ev.2 else none

/-- The outcomes of the attempts numbered from `i` of the requests `qs`, the stream taken before
them if `taken`: each the transport's answer under the context as it is then, settled; and
whether the stream is taken after them. -/
def answers (ctx : CallerContext) (transport : Nat → Reply) :
    Nat → Bool → List Request → List Outcome × Bool
  | _, taken, [] => ([], taken)
  | i, taken, q :: qs =>
    let a := (transport i).answer (ctx.doneAt? (.sending i)) q taken
    let rest := answers ctx transport (i + 1) a.taken qs
    (a.settled (ctx.doneAt? (.classifying i)) :: rest.1, rest.2)

/-- The outcomes the attempts left, from the requests sent. -/
def settledOutcomes (ctx : CallerContext) (transport : Nat → Reply) (s : SendRun) : List Outcome :=
  (answers ctx transport 0 false s.sent).1

/-- Whether the requests sent took the stream. -/
def takenAfter (ctx : CallerContext) (transport : Nat → Reply) (s : SendRun) : Bool :=
  (answers ctx transport 0 false s.sent).2

/-- The flow awaits its first send, or waits after a retry: a round may take its request. -/
def Ready (s : SendRun) : Prop := s.flow.state = .awaitSend ∨ s.flow.state = .delaying

/-- The attempt a round makes when the flow is ready: the flow hands out its request, which is
sent. -/
def roundAttempt (ctx : CallerContext) (transport : Nat → Reply) (s : SendRun) :
    SendRun × Outcome :=
  ({ s with flow := s.flow.taken }).attempt ctx transport s.flow.request

@[simp] theorem kinds_append (s : SendRun) (evs : List (EventKind × Execution)) :
    ({ s with events := s.events ++ evs } : SendRun).kinds = s.kinds ++ evs.map Prod.fst := by
  simp [kinds]

section Answers

variable (ctx : CallerContext) (transport : Nat → Reply)

theorem answers_length (qs : List Request) (i : Nat) (taken : Bool) :
    (answers ctx transport i taken qs).1.length = qs.length := by
  induction qs generalizing i taken with
  | nil => rfl
  | cons q qs ih => simp [answers, ih]

/-- One more request sent: its attempt is the next, with the stream as the earlier ones left it. -/
theorem answers_concat (qs : List Request) (q : Request) (i : Nat) (taken : Bool) :
    answers ctx transport i taken (qs ++ [q]) =
      let a := (transport (i + qs.length)).answer (ctx.doneAt? (.sending (i + qs.length))) q
        (answers ctx transport i taken qs).2
      ((answers ctx transport i taken qs).1 ++ [a.settled (ctx.doneAt? (.classifying (i + qs.length)))],
        a.taken) := by
  induction qs generalizing i taken with
  | nil => simp [answers]
  | cons q' qs ih =>
    have hi : i + 1 + qs.length = i + (qs.length + 1) := by omega
    simp only [List.cons_append, answers, ih, List.length_cons, hi, List.cons_append]

end Answers

/-! ### What each part of a round does -/

section Parts

variable (ctx : CallerContext) (transport : Nat → Reply) (s : SendRun)

/-- Settling an attempt records its outcome and failure, counts a timeout, and fires
`AfterAttemptTimeout` (for a timeout) and `AfterAttempt` with the execution so recorded. -/
theorem settle_eq (o : Outcome) :
    s.settle o =
      let e := { s.execution with
        outcome := some o, err := o.fault?,
        attemptTimeouts := s.execution.attemptTimeouts + (if o.timedOut then 1 else 0) }
      { s with
        execution := e,
        events := s.events ++
          ((if o.timedOut then [EventKind.afterAttemptTimeout] else []) ++
            [EventKind.afterAttempt]).map (·, e) } := by
  have ht : Option.any Fault.isTimeout o.fault? = o.timedOut := rfl
  cases h : o.timedOut <;> simp [settle, fire, update, Execution.timedOut, ht, h]

variable (r : Request)

@[simp] theorem attempt_snd :
    (s.attempt ctx transport r).2 =
      ((transport s.sent.length).answer (ctx.doneAt? (.sending s.sent.length)) r
        s.streamTaken).settled (ctx.doneAt? (.classifying s.sent.length)) := rfl

@[simp] theorem attempt_streamTaken :
    (s.attempt ctx transport r).1.streamTaken =
      ((transport s.sent.length).answer (ctx.doneAt? (.sending s.sent.length)) r
        s.streamTaken).taken := by
  simp [attempt, settle_eq, fire, update]

@[simp] theorem attempt_sent : (s.attempt ctx transport r).1.sent = s.sent ++ [r] := by
  simp [attempt, settle_eq, fire, update]

@[simp] theorem attempt_steps : (s.attempt ctx transport r).1.steps = s.steps := by
  simp [attempt, settle_eq, fire, update]

@[simp] theorem attempt_shared : (s.attempt ctx transport r).1.shared = s.shared := by
  simp [attempt, settle_eq, fire, update]

@[simp] theorem attempt_flow : (s.attempt ctx transport r).1.flow = s.flow := by
  simp [attempt, settle_eq, fire, update]

@[simp] theorem attempt_cut : (s.attempt ctx transport r).1.cut = s.cut := by
  simp [attempt, settle_eq, fire, update]

@[simp] theorem attempt_execution :
    (s.attempt ctx transport r).1.execution =
      { s.execution with
        outcome := some (s.attempt ctx transport r).2, err := (s.attempt ctx transport r).2.fault?,
        attemptTimeouts := s.execution.attemptTimeouts +
          (if (s.attempt ctx transport r).2.timedOut then 1 else 0) } := by
  simp [attempt, settle_eq, fire, update]

/-- An attempt fires its events: `BeforeAttempt` with the outcome and failure cleared, then the
attempt's end with the execution as the attempt leaves it. -/
theorem attempt_events :
    (s.attempt ctx transport r).1.events =
      s.events ++ (.beforeAttempt, { s.execution with outcome := none, err := none }) ::
        ((if (s.attempt ctx transport r).2.timedOut then [EventKind.afterAttemptTimeout] else []) ++
          [EventKind.afterAttempt]).map (·, (s.attempt ctx transport r).1.execution) := by
  simp [attempt, settle_eq, fire, update]

@[simp] theorem attempt_kinds :
    (s.attempt ctx transport r).1.kinds =
      s.kinds ++ EventKind.attempt (s.attempt ctx transport r).2.timedOut := by
  simp only [kinds, attempt_events, List.map_append, List.map_cons, List.map_map]
  cases (s.attempt ctx transport r).2.timedOut <;> simp [EventKind.attempt]

@[simp] theorem attempt_afterAttempts :
    (s.attempt ctx transport r).1.afterAttempts =
      s.afterAttempts ++ [(s.attempt ctx transport r).1.execution] := by
  simp only [afterAttempts, attempt_events, List.filterMap_append, List.filterMap_cons]
  cases (s.attempt ctx transport r).2.timedOut <;> simp

/-- While the stream flag follows the requests sent, an attempt adds its outcome to theirs and
keeps the flag in step. -/
theorem attempt_answers (h : s.streamTaken = s.takenAfter ctx transport) :
    answers ctx transport 0 false (s.attempt ctx transport r).1.sent =
      (s.settledOutcomes ctx transport ++ [(s.attempt ctx transport r).2],
        (s.attempt ctx transport r).1.streamTaken) := by
  rw [takenAfter] at h
  simp only [attempt_sent, answers_concat, Nat.zero_add, attempt_snd, attempt_streamTaken,
    settledOutcomes, ← h]

/-! A round's attempt, by the same parts: the flow hands out its request, which is sent. -/

@[simp] theorem roundAttempt_sent :
    (s.roundAttempt ctx transport).1.sent = s.sent ++ [s.flow.request] := by
  simp [roundAttempt]

@[simp] theorem roundAttempt_steps : (s.roundAttempt ctx transport).1.steps = s.steps := by
  simp [roundAttempt]

@[simp] theorem roundAttempt_shared : (s.roundAttempt ctx transport).1.shared = s.shared := by
  simp [roundAttempt]

@[simp] theorem roundAttempt_flow : (s.roundAttempt ctx transport).1.flow = s.flow.taken := by
  simp [roundAttempt]

@[simp] theorem roundAttempt_cut : (s.roundAttempt ctx transport).1.cut = s.cut := by
  simp [roundAttempt]

@[simp] theorem roundAttempt_execution :
    (s.roundAttempt ctx transport).1.execution =
      { s.execution with
        outcome := some (s.roundAttempt ctx transport).2,
        err := (s.roundAttempt ctx transport).2.fault?,
        attemptTimeouts := s.execution.attemptTimeouts +
          (if (s.roundAttempt ctx transport).2.timedOut then 1 else 0) } :=
  attempt_execution ctx transport { s with flow := s.flow.taken } s.flow.request

@[simp] theorem roundAttempt_kinds :
    (s.roundAttempt ctx transport).1.kinds =
      s.kinds ++ EventKind.attempt (s.roundAttempt ctx transport).2.timedOut :=
  attempt_kinds ctx transport { s with flow := s.flow.taken } s.flow.request

@[simp] theorem roundAttempt_afterAttempts :
    (s.roundAttempt ctx transport).1.afterAttempts =
      s.afterAttempts ++ [(s.roundAttempt ctx transport).1.execution] :=
  attempt_afterAttempts ctx transport { s with flow := s.flow.taken } s.flow.request

theorem roundAttempt_answers (h : s.streamTaken = s.takenAfter ctx transport) :
    answers ctx transport 0 false (s.roundAttempt ctx transport).1.sent =
      (s.settledOutcomes ctx transport ++ [(s.roundAttempt ctx transport).2],
        (s.roundAttempt ctx transport).1.streamTaken) :=
  attempt_answers ctx transport { s with flow := s.flow.taken } s.flow.request h

theorem roundAttempt_settledOutcomes (h : s.streamTaken = s.takenAfter ctx transport) :
    (s.roundAttempt ctx transport).1.settledOutcomes ctx transport =
      s.settledOutcomes ctx transport ++ [(s.roundAttempt ctx transport).2] :=
  congrArg Prod.fst (roundAttempt_answers ctx transport s h)

theorem roundAttempt_takenAfter (h : s.streamTaken = s.takenAfter ctx transport) :
    (s.roundAttempt ctx transport).1.takenAfter ctx transport =
      (s.roundAttempt ctx transport).1.streamTaken :=
  congrArg Prod.snd (roundAttempt_answers ctx transport s h)

variable (step : Step) (f : Flow) (sh : Shared)

@[simp] theorem record_sent : (s.record step f sh).sent = s.sent := rfl
@[simp] theorem record_steps : (s.record step f sh).steps = s.steps ++ [step] := rfl
@[simp] theorem record_flow : (s.record step f sh).flow = f := rfl
@[simp] theorem record_shared : (s.record step f sh).shared = sh := rfl
@[simp] theorem record_events : (s.record step f sh).events = s.events := rfl
@[simp] theorem record_cut : (s.record step f sh).cut = s.cut := rfl
@[simp] theorem record_streamTaken : (s.record step f sh).streamTaken = s.streamTaken := rfl
@[simp] theorem record_execution :
    (s.record step f sh).execution = { s.execution with request := f.request } := rfl

variable (d : Int)

@[simp] theorem waitFor_sent : (s.waitFor d).sent = s.sent := rfl
@[simp] theorem waitFor_steps : (s.waitFor d).steps = s.steps := rfl
@[simp] theorem waitFor_flow : (s.waitFor d).flow = s.flow := rfl
@[simp] theorem waitFor_shared : (s.waitFor d).shared = s.shared := rfl
@[simp] theorem waitFor_cut : (s.waitFor d).cut = s.cut := rfl
@[simp] theorem waitFor_streamTaken : (s.waitFor d).streamTaken = s.streamTaken := rfl
@[simp] theorem waitFor_execution : (s.waitFor d).execution = { s.execution with wait := d } := rfl
@[simp] theorem waitFor_events :
    (s.waitFor d).events = s.events ++ [(.beforeWait, { s.execution with wait := d })] := rfl

@[simp] theorem nextAttempt_sent : s.nextAttempt.sent = s.sent := rfl
@[simp] theorem nextAttempt_steps : s.nextAttempt.steps = s.steps := rfl
@[simp] theorem nextAttempt_flow : s.nextAttempt.flow = s.flow := rfl
@[simp] theorem nextAttempt_shared : s.nextAttempt.shared = s.shared := rfl
@[simp] theorem nextAttempt_cut : s.nextAttempt.cut = s.cut := rfl
@[simp] theorem nextAttempt_streamTaken : s.nextAttempt.streamTaken = s.streamTaken := rfl
@[simp] theorem nextAttempt_events : s.nextAttempt.events = s.events := rfl
@[simp] theorem nextAttempt_execution :
    s.nextAttempt.execution = { s.execution with attempt := s.execution.attempt + 1 } := rfl

variable (reason : ContextEnd)

@[simp] theorem cutShort_sent : (s.cutShort reason).sent = s.sent := by
  cases reason <;> rfl
@[simp] theorem cutShort_steps : (s.cutShort reason).steps = s.steps := by
  cases reason <;> rfl
@[simp] theorem cutShort_flow : (s.cutShort reason).flow = s.flow := by
  cases reason <;> rfl
@[simp] theorem cutShort_cut : (s.cutShort reason).cut = some reason := by
  cases reason <;> rfl
@[simp] theorem cutShort_streamTaken : (s.cutShort reason).streamTaken = s.streamTaken := by
  cases reason <;> rfl
@[simp] theorem cutShort_execution :
    (s.cutShort reason).execution = { s.execution with err := some reason.fault } := by
  cases reason <;> rfl

/-- A context done for `reason` cuts the run short, firing `AfterExecutionTimeout` when the
reason is its deadline. -/
@[simp] theorem cutShort_events :
    (s.cutShort reason).events =
      s.events ++ if reason = .deadline then
        [(.afterExecutionTimeout, { s.execution with err := some reason.fault })] else [] := by
  cases reason <;> simp [cutShort, update, fire]

variable (now : Int)

@[simp] theorem finish_sent : (s.finish now).sent = s.sent := rfl
@[simp] theorem finish_steps : (s.finish now).steps = s.steps := rfl
@[simp] theorem finish_flow : (s.finish now).flow = s.flow := rfl
@[simp] theorem finish_cut : (s.finish now).cut = s.cut := rfl
@[simp] theorem finish_execution :
    (s.finish now).execution = { s.execution with stop := some now } := rfl
@[simp] theorem finish_events :
    (s.finish now).events =
      s.events ++ [(.afterExecutionEnd, { s.execution with stop := some now })] := rfl

/-! The views of a run follow its events and its requests. -/

@[simp] theorem record_kinds : (s.record step f sh).kinds = s.kinds := rfl
@[simp] theorem record_afterAttempts : (s.record step f sh).afterAttempts = s.afterAttempts := rfl
@[simp] theorem record_settledOutcomes :
    (s.record step f sh).settledOutcomes ctx transport = s.settledOutcomes ctx transport := rfl
@[simp] theorem record_takenAfter :
    (s.record step f sh).takenAfter ctx transport = s.takenAfter ctx transport := rfl

@[simp] theorem waitFor_kinds : (s.waitFor d).kinds = s.kinds ++ [.beforeWait] := by
  simp [kinds]
@[simp] theorem waitFor_afterAttempts : (s.waitFor d).afterAttempts = s.afterAttempts := by
  simp [afterAttempts]
@[simp] theorem waitFor_settledOutcomes :
    (s.waitFor d).settledOutcomes ctx transport = s.settledOutcomes ctx transport := rfl
@[simp] theorem waitFor_takenAfter :
    (s.waitFor d).takenAfter ctx transport = s.takenAfter ctx transport := rfl

@[simp] theorem nextAttempt_kinds : s.nextAttempt.kinds = s.kinds := rfl
@[simp] theorem nextAttempt_afterAttempts : s.nextAttempt.afterAttempts = s.afterAttempts := rfl
@[simp] theorem nextAttempt_settledOutcomes :
    s.nextAttempt.settledOutcomes ctx transport = s.settledOutcomes ctx transport := rfl
@[simp] theorem nextAttempt_takenAfter :
    s.nextAttempt.takenAfter ctx transport = s.takenAfter ctx transport := rfl

@[simp] theorem cutShort_kinds :
    (s.cutShort reason).kinds =
      s.kinds ++ if reason = .deadline then [.afterExecutionTimeout] else [] := by
  rw [kinds, cutShort_events]
  split <;> simp [kinds]

@[simp] theorem cutShort_afterAttempts : (s.cutShort reason).afterAttempts = s.afterAttempts := by
  rw [afterAttempts, cutShort_events]
  split <;> simp [afterAttempts]

@[simp] theorem cutShort_settledOutcomes :
    (s.cutShort reason).settledOutcomes ctx transport = s.settledOutcomes ctx transport := by
  simp [settledOutcomes]

@[simp] theorem finish_kinds : (s.finish now).kinds = s.kinds ++ [.afterExecutionEnd] := by
  simp [kinds]
@[simp] theorem finish_afterAttempts : (s.finish now).afterAttempts = s.afterAttempts := by
  simp [afterAttempts]
@[simp] theorem finish_settledOutcomes :
    (s.finish now).settledOutcomes ctx transport = s.settledOutcomes ctx transport := rfl

end Parts

end SendRun

/-! ### One round -/

namespace Flow

variable {f : Flow} {sh : Shared}

/-- A ready flow hands out its request. -/
theorem next_of_ready (h : f.state = .awaitSend ∨ f.state = .delaying) :
    f.next = .ok (f.request, f.taken) := by
  rcases h with h | h <;> simp [Flow.next, Flow.taken, h]

/-- A report answered as a call is answered by the flow itself. -/
theorem report_of_call {o : Option Outcome} {st : Step} {f' : Flow} {sh' : Shared}
    (h : call f sh (.report o) = (.ok (.step st), f', sh')) : f.report o sh = .ok (st, f', sh') := by
  simp only [call] at h
  split at h
  · rename_i heq
    simp only [Prod.mk.injEq, Except.ok.injEq, Answer.step.injEq] at h
    obtain ⟨rfl, rfl, rfl⟩ := h
    exact heq
  · simp at h

/-- A flow awaiting an outcome answers a step for it: either the step ends the flow, on any
decision but a retry, or the flow retries and waits, its limiter's budget lower. -/
theorem report_cases (h : f.state = .awaitOutcome) (o : Outcome) (sh : Shared) :
    ∃ step f' sh', f.report (some o) sh = .ok (step, f', sh') ∧ step.outcome = o ∧
      f'.attempts = f.attempts ∧
      ((step.done = true ∧ step.decision ≠ .retry ∧ f'.state = .terminated) ∨
       (step.done = false ∧ step.decision = .retry ∧ f'.state = .delaying ∧
         f'.limiter.budget < f.limiter.budget)) := by
  by_cases hd : (f.decideOn o sh).decision = .retry
  · refine ⟨_, _, _, report_of_call (call_report_retry h hd), rfl, rfl, .inr ⟨rfl, rfl, rfl, ?_⟩⟩
    -- the retry is paid from the budget
    have hb := Limiter.Flow.decide_budget f.limiter o (some f.request) sh.keys
    simp only [decideOn] at hd
    simp only [hd, Decision.retryCount, beq_self_eq_true, ↓reduceIte] at hb
    simp only [decideOn]
    omega
  · exact ⟨_, _, _, report_of_call (call_report_final h hd), rfl, rfl, .inl ⟨rfl, hd, rfl⟩⟩

/-- A report answered with a step took the limiter's decision on the outcome for the flow's
request: the step ends the flow exactly when the decision is not a retry, and the flow goes on
with the limiter's new state and the request as the decision left it. -/
theorem report_eq_ok {o : Outcome} {step : Step} {f' : Flow} {sh' : Shared}
    (h : f.report (some o) sh = .ok (step, f', sh')) :
    step.outcome = o ∧ step.decision = (f.decideOn o sh).decision ∧
      (step.done = true ↔ step.decision ≠ .retry) ∧ f'.limiter = (f.decideOn o sh).flow ∧
      f'.request = (f.decideOn o sh).request.getD f.request := by
  have hstate : f.state = .awaitOutcome := by
    by_contra hne
    simp [Flow.report, hne] at h
  by_cases hd : (f.decideOn o sh).decision = .retry
  · rw [report_of_call (call_report_retry hstate hd)] at h
    simp only [Except.ok.injEq, Prod.mk.injEq] at h
    obtain ⟨rfl, rfl, -⟩ := h
    simp [hd]
  · rw [report_of_call (call_report_final hstate hd)] at h
    simp only [Except.ok.injEq, Prod.mk.injEq] at h
    obtain ⟨rfl, rfl, -⟩ := h
    simp [hd]

variable {o : Outcome} {step : Step} {f' : Flow} {sh' : Shared}

/-- The step a flow answers for the outcome of the request it handed out: the step is for that
outcome, the flow counts the attempt, and it either ends or retries from a lower budget. -/
theorem taken_report (hrep : f.taken.report (some o) sh = .ok (step, f', sh')) :
    step.outcome = o ∧ f'.attempts = f.attempts + 1 ∧
      ((step.done = true ∧ step.decision ≠ .retry ∧ f'.state = .terminated) ∨
       (step.done = false ∧ step.decision = .retry ∧ f'.state = .delaying ∧
         f'.limiter.budget < f.limiter.budget)) := by
  obtain ⟨step₀, f₀, sh₀, hrep₀, hfacts⟩ := report_cases (taken_state f) o sh
  rw [hrep₀] at hrep
  simp only [Except.ok.injEq, Prod.mk.injEq] at hrep
  obtain ⟨rfl, rfl, rfl⟩ := hrep
  exact hfacts

theorem taken_report_done (hrep : f.taken.report (some o) sh = .ok (step, f', sh'))
    (hdone : step.done = true) :
    step.outcome = o ∧ f'.attempts = f.attempts + 1 ∧ step.decision ≠ .retry ∧
      f'.state = .terminated := by
  obtain ⟨hout, hatt, ⟨-, hd, hterm⟩ | ⟨hnot, -⟩⟩ := taken_report hrep
  · exact ⟨hout, hatt, hd, hterm⟩
  · rw [hdone] at hnot
    cases hnot

theorem taken_report_retry (hrep : f.taken.report (some o) sh = .ok (step, f', sh'))
    (hdone : step.done = false) :
    step.outcome = o ∧ f'.attempts = f.attempts + 1 ∧ step.decision = .retry ∧
      f'.state = .delaying ∧ f'.limiter.budget < f.limiter.budget := by
  obtain ⟨hout, hatt, ⟨hnot, -⟩ | ⟨-, hd, hdel, hbudget⟩⟩ := taken_report hrep
  · rw [hdone] at hnot
    cases hnot
  · exact ⟨hout, hatt, hd, hdel, hbudget⟩

end Flow

namespace SendRun

/-- How a round that finds the flow ready ends, once its attempt is made: cut short by a context
done when the attempt is recorded; stopped by a step that ends the flow; cut short by a context
done during the wait before a retry; or going on once that wait is over. -/
inductive RoundEnds (ctx : CallerContext) (transport : Nat → Reply) (s : SendRun) :
    RoundEnd → Prop
  | cutAfter {reason : ContextEnd}
      (hctx : ctx.doneAt? (.recorded s.sent.length) = some reason) :
      RoundEnds ctx transport s (.stop ((s.roundAttempt ctx transport).1.cutShort reason))
  | final {step : Step} {f : Flow} {sh : Shared}
      (hctx : ctx.doneAt? (.recorded s.sent.length) = none)
      (hrep : s.flow.taken.report (some (s.roundAttempt ctx transport).2) s.shared =
        .ok (step, f, sh))
      (hdone : step.done = true) :
      RoundEnds ctx transport s (.stop ((s.roundAttempt ctx transport).1.record step f sh))
  | cutWaiting {step : Step} {f : Flow} {sh : Shared} {reason : ContextEnd}
      (hctx : ctx.doneAt? (.recorded s.sent.length) = none)
      (hrep : s.flow.taken.report (some (s.roundAttempt ctx transport).2) s.shared =
        .ok (step, f, sh))
      (hdone : step.done = false)
      (hwait : ctx.doneAt? (.waiting s.sent.length) = some reason) :
      RoundEnds ctx transport s
        (.stop ((((s.roundAttempt ctx transport).1.record step f sh).waitFor step.delay).cutShort
          reason))
  | retry {step : Step} {f : Flow} {sh : Shared}
      (hctx : ctx.doneAt? (.recorded s.sent.length) = none)
      (hrep : s.flow.taken.report (some (s.roundAttempt ctx transport).2) s.shared =
        .ok (step, f, sh))
      (hdone : step.done = false)
      (hwait : ctx.doneAt? (.waiting s.sent.length) = none) :
      RoundEnds ctx transport s
        (.again (((s.roundAttempt ctx transport).1.record step f sh).waitFor step.delay).nextAttempt)

variable {ctx : CallerContext} {transport : Nat → Reply} {s s' : SendRun}

/-- A round that finds the flow ready, written with its attempt. -/
theorem round_of_ready (h : s.Ready) :
    s.round ctx transport =
      match ctx.doneAt? (.recorded s.sent.length) with
      | some reason => .stop ((s.roundAttempt ctx transport).1.cutShort reason)
      | none =>
        match (s.roundAttempt ctx transport).1.flow.report (some (s.roundAttempt ctx transport).2)
            (s.roundAttempt ctx transport).1.shared with
        | .error _ => .stop (s.roundAttempt ctx transport).1.outOfOrder
        | .ok (step, flow, shared) =>
          if step.done then .stop ((s.roundAttempt ctx transport).1.record step flow shared)
          else
            match ctx.doneAt? (.waiting s.sent.length) with
            | some reason =>
              .stop ((((s.roundAttempt ctx transport).1.record step flow shared).waitFor
                step.delay).cutShort reason)
            | none =>
              .again (((s.roundAttempt ctx transport).1.record step flow shared).waitFor
                step.delay).nextAttempt := by
  simp only [round, Flow.next_of_ready h]
  rfl

/-- Every round that finds the flow ready ends in one of the four ways of `RoundEnds`. -/
theorem round_ends (ctx : CallerContext) (transport : Nat → Reply) (h : s.Ready) :
    RoundEnds ctx transport s (s.round ctx transport) := by
  rw [round_of_ready h]
  cases hctx : ctx.doneAt? (.recorded s.sent.length) with
  | some reason => exact .cutAfter hctx
  | none =>
    -- a flow that handed out its request answers a step for the outcome
    obtain ⟨step, f, sh, hrep, -⟩ :=
      Flow.report_cases (Flow.taken_state s.flow) (s.roundAttempt ctx transport).2 s.shared
    simp only [roundAttempt_flow, roundAttempt_shared, hrep]
    cases hdone : step.done with
    | true =>
      rw [if_pos rfl]
      exact .final hctx hrep hdone
    | false =>
      rw [if_neg Bool.false_ne_true]
      cases hwait : ctx.doneAt? (.waiting s.sent.length) with
      | some reason => exact .cutWaiting hctx hrep hdone hwait
      | none => exact .retry hctx hrep hdone hwait

/-- A round that goes on leaves the flow ready again, with a lower budget. -/
theorem round_again (h : s.Ready) (hr : s.round ctx transport = .again s') :
    s'.Ready ∧ s'.flow.limiter.budget < s.flow.limiter.budget := by
  have hends := round_ends ctx transport h
  rw [hr] at hends
  cases hends with
  | retry _ hrep hdone _ =>
    obtain ⟨-, -, -, hdel, hbudget⟩ := Flow.taken_report_retry hrep hdone
    exact ⟨.inr (by simpa using hdel), by simpa using hbudget⟩

end SendRun

section Loop

variable {ctx : CallerContext} {transport : Nat → Reply}

/-- The loop's rule: for runs whose flow is ready, an invariant that every round going on keeps,
and a property that every stopping round gives, hold of the whole loop when its fuel exceeds the
limiter's budget. The budget falls with every round that goes on, so the fuel never runs out. -/
theorem runAttempts_induction (Inv Fin : SendRun → Prop)
    (again : ∀ s s', s.Ready → Inv s → s.round ctx transport = .again s' → Inv s')
    (stop : ∀ s r, s.Ready → Inv s → s.round ctx transport = .stop r → Fin r) :
    ∀ (fuel : Nat) (s : SendRun), s.Ready → Inv s → s.flow.limiter.budget < fuel →
      Fin (runAttempts ctx transport fuel s) := by
  intro fuel
  induction fuel with
  | zero =>
    intro s _ _ hfuel
    exact absurd hfuel (Nat.not_lt_zero _)
  | succ fuel ih =>
    intro s hready hinv hfuel
    simp only [runAttempts]
    cases hr : s.round ctx transport with
    | stop r => exact stop s r hready hinv hr
    | again s' =>
      obtain ⟨hready', hbudget⟩ := SendRun.round_again hready hr
      exact ih s' hready' (again s s' hready hinv hr) (by omega)

end Loop

/-! ### What the loop keeps -/

namespace SendRun

/-- What holds when a round begins, every round before it having retried. -/
structure Head (ctx : CallerContext) (transport : Nat → Reply) (s : SendRun) : Prop where
  /-- The execution started, then each round fired an attempt's events and a wait; the attempts
  that timed out are the ones counted. -/
  word : ∃ ts : List Bool, ts.length = s.sent.length ∧ ts.count true = s.execution.attemptTimeouts ∧
    s.kinds = .beforeExecutionStart :: EventKind.rounds ts
  attempts : s.flow.attempts = s.sent.length
  /-- The execution numbers the attempt to come. -/
  numbered : s.execution.attempt = s.sent.length
  recorded : s.afterAttempts.map Execution.outcome = (s.settledOutcomes ctx transport).map some
  told : s.steps.map Step.outcome = s.settledOutcomes ctx transport
  retried : ∀ st ∈ s.steps, st.done = false ∧ st.decision = .retry
  /-- The latest wait is the latest retry's delay. -/
  waited : s.execution.wait = (s.steps.getLast?.map Step.delay).getD 0
  /-- The context was live at each wait so far. -/
  live : ∀ j < s.sent.length, ctx.doneAt? (.waiting j) = none
  uncut : s.cut = none
  taken : s.streamTaken = s.takenAfter ctx transport

/-- What holds when the last round has stopped. -/
structure Ended (ctx : CallerContext) (transport : Nat → Reply) (r : SendRun) : Prop where
  /-- The execution started; each round that retried fired an attempt's events and a wait; the
  last round fired an attempt's events, unless the context ended the run during the wait before
  it; and `AfterExecutionTimeout` fired if the context's deadline ended the run. -/
  word : ∃ (ts : List Bool) (last : List EventKind),
    r.kinds = .beforeExecutionStart :: (EventKind.rounds ts ++ last ++
      if r.cut = some .deadline then [.afterExecutionTimeout] else []) ∧
    ts.length = r.steps.countP (·.decision = .retry) ∧
    ts.count true + last.count .afterAttemptTimeout = r.execution.attemptTimeouts ∧
    ((∃ t, last = EventKind.attempt t ∧ ts.length + 1 = r.sent.length ∧
        r.cut = ctx.doneAt? (.recorded (r.sent.length - 1))) ∨
      (last = [] ∧ ts.length = r.sent.length ∧ ctx.doneAt? (.recorded (r.sent.length - 1)) = none ∧
        r.cut = ctx.doneAt? (.waiting (r.sent.length - 1)) ∧ r.cut ≠ none))
  /-- The context was live at each wait before the last round's. -/
  live : ∀ j, j + 1 < r.sent.length → ctx.doneAt? (.waiting j) = none
  attempts : r.flow.attempts = r.sent.length
  /-- The execution numbers the last attempt. -/
  numbered : r.execution.attempt + 1 = r.sent.length
  recorded : r.afterAttempts.map Execution.outcome = (r.settledOutcomes ctx transport).map some
  outcome : r.execution.outcome = (r.settledOutcomes ctx transport).getLast?
  /-- The flow was told each outcome recorded while the context was live. -/
  told : r.steps.map Step.outcome =
    if ctx.doneAt? (.recorded (r.sent.length - 1)) = none then r.settledOutcomes ctx transport
    else (r.settledOutcomes ctx transport).dropLast
  retried : ∀ st ∈ r.steps.dropLast, st.done = false ∧ st.decision = .retry
  /-- A run the flow ended: its last step ends it, and its failure is the execution's. -/
  flowEnd : r.cut = none → ∃ last ∈ r.steps.getLast?, last.done = true ∧
    last.decision ≠ .retry ∧ r.execution.err = last.outcome.fault?
  /-- A run the context ended: the reason is the execution's failure, and every step retried. -/
  cutEnd : ∀ reason, r.cut = some reason → r.execution.err = some reason.fault ∧
    ∀ st ∈ r.steps, st.done = false ∧ st.decision = .retry
  /-- The latest wait is the latest retry's delay, or zero without one. -/
  waited : r.execution.wait =
    ((r.steps.filter (·.decision = .retry)).getLast?.map Step.delay).getD 0

section Keep

variable {ctx : CallerContext} {transport : Nat → Reply} {s : SendRun} {step : Step} {f : Flow}
  {sh : Shared}

/-- Counting one attempt more: its timeout, if it is one. -/
theorem count_true_concat (ts : List Bool) (t : Bool) :
    (ts ++ [t]).count true = ts.count true + if t then 1 else 0 := by
  cases t <;> simp

/-- The flow is told one outcome per attempt. -/
theorem Head.steps_length (hh : s.Head ctx transport) : s.steps.length = s.sent.length := by
  simpa [settledOutcomes, answers_length] using congrArg List.length hh.told

/-- Every step so far retried, one per request sent. -/
theorem Head.countP_retry (hh : s.Head ctx transport) :
    s.steps.countP (·.decision = .retry) = s.sent.length := by
  rw [List.countP_eq_length.2 fun st hst => by simp [(hh.retried st hst).2], hh.steps_length]

theorem Head.filter_retry (hh : s.Head ctx transport) :
    s.steps.filter (·.decision = .retry) = s.steps :=
  List.filter_eq_self.2 fun st hst => by simp [(hh.retried st hst).2]

/-- A round that retries, under a context live through the wait, keeps `Head`. -/
theorem Head.retry (hh : s.Head ctx transport)
    (hout : step.outcome = (s.roundAttempt ctx transport).2)
    (hatt : f.attempts = s.flow.attempts + 1) (hdone : step.done = false)
    (hd : step.decision = .retry) (hwait : ctx.doneAt? (.waiting s.sent.length) = none) :
    (((s.roundAttempt ctx transport).1.record step f sh).waitFor step.delay).nextAttempt.Head ctx
      transport where
  word := by
    obtain ⟨ts, hlen, hcount, hkinds⟩ := hh.word
    refine ⟨ts ++ [(s.roundAttempt ctx transport).2.timedOut], ?_, ?_, ?_⟩
    · simp [hlen]
    · rw [count_true_concat, hcount]
      simp
    · simp [hkinds]
  attempts := by simp [hatt, hh.attempts]
  numbered := by simp [hh.numbered]
  recorded := by simp [hh.recorded, roundAttempt_settledOutcomes ctx transport s hh.taken]
  told := by simp [hh.told, hout, roundAttempt_settledOutcomes ctx transport s hh.taken]
  retried := by
    intro st hst
    simp only [nextAttempt_steps, waitFor_steps, record_steps, roundAttempt_steps,
      List.mem_append, List.mem_singleton] at hst
    rcases hst with hst | rfl
    · exact hh.retried st hst
    · exact ⟨hdone, hd⟩
  waited := by simp
  live := by
    intro j hj
    simp only [nextAttempt_sent, waitFor_sent, record_sent, roundAttempt_sent, List.length_append,
      List.length_singleton] at hj
    -- the waits before this round's, and this round's own
    rcases Nat.lt_succ_iff_lt_or_eq.1 hj with hj | rfl
    · exact hh.live j hj
    · exact hwait
  uncut := by simp [hh.uncut]
  taken := by simp [roundAttempt_takenAfter ctx transport s hh.taken]

/-- A round that the flow ends, under a context live when its attempt is recorded, stops the
loop `Ended`. -/
theorem Head.final (hh : s.Head ctx transport)
    (hctx : ctx.doneAt? (.recorded s.sent.length) = none)
    (hout : step.outcome = (s.roundAttempt ctx transport).2)
    (hatt : f.attempts = s.flow.attempts + 1) (hdone : step.done = true)
    (hd : step.decision ≠ .retry) :
    ((s.roundAttempt ctx transport).1.record step f sh).Ended ctx transport where
  word := by
    obtain ⟨ts, hlen, hcount, hkinds⟩ := hh.word
    refine ⟨ts, EventKind.attempt (s.roundAttempt ctx transport).2.timedOut, ?_, ?_, ?_,
      .inl ⟨_, rfl, by simp [hlen], by simp [hh.uncut, hctx]⟩⟩
    · simp [hkinds, hh.uncut]
    · simp [List.countP_append, hd, hh.countP_retry, hlen]
    · simp [hcount]
  live := by
    intro j hj
    exact hh.live j (by simpa using hj)
  attempts := by simp [hatt, hh.attempts]
  numbered := by simp [hh.numbered]
  recorded := by simp [hh.recorded, roundAttempt_settledOutcomes ctx transport s hh.taken]
  outcome := by simp [roundAttempt_settledOutcomes ctx transport s hh.taken]
  told := by simp [hctx, hh.told, hout, roundAttempt_settledOutcomes ctx transport s hh.taken]
  retried := by
    intro st hst
    rw [record_steps, List.dropLast_concat, roundAttempt_steps] at hst
    exact hh.retried st hst
  flowEnd := fun _ => ⟨step, by simp, hdone, hd, by simp [hout]⟩
  cutEnd := by
    intro reason hcut
    simp [hh.uncut] at hcut
  waited := by simp [List.filter_append, hh.filter_retry, hd, hh.waited]

/-- A round under a context done when its attempt is recorded stops the loop `Ended`. -/
theorem Head.cutAfter {reason : ContextEnd} (hh : s.Head ctx transport)
    (hctx : ctx.doneAt? (.recorded s.sent.length) = some reason) :
    ((s.roundAttempt ctx transport).1.cutShort reason).Ended ctx transport where
  word := by
    obtain ⟨ts, hlen, hcount, hkinds⟩ := hh.word
    refine ⟨ts, EventKind.attempt (s.roundAttempt ctx transport).2.timedOut, ?_, ?_, ?_,
      .inl ⟨_, rfl, by simp [hlen], by simp [hctx]⟩⟩
    · simp [hkinds]
    · simp [hh.countP_retry, hlen]
    · simp [hcount]
  live := by
    intro j hj
    exact hh.live j (by simpa using hj)
  attempts := by simp [hh.attempts]
  numbered := by simp [hh.numbered]
  recorded := by simp [hh.recorded, roundAttempt_settledOutcomes ctx transport s hh.taken]
  outcome := by simp [roundAttempt_settledOutcomes ctx transport s hh.taken]
  told := by simp [hctx, hh.told, roundAttempt_settledOutcomes ctx transport s hh.taken]
  retried := by
    intro st hst
    rw [cutShort_steps, roundAttempt_steps] at hst
    exact hh.retried st (List.dropLast_subset _ hst)
  flowEnd := by
    intro hcut
    simp at hcut
  cutEnd := by
    intro reason' hcut
    simp only [cutShort_cut, Option.some.injEq] at hcut
    subst hcut
    exact ⟨by simp, by simpa using hh.retried⟩
  waited := by simp [hh.filter_retry, hh.waited]

/-- A round that retries, under a context done during the wait, stops the loop `Ended`. -/
theorem Head.cutWaiting {reason : ContextEnd} (hh : s.Head ctx transport)
    (hctx : ctx.doneAt? (.recorded s.sent.length) = none)
    (hout : step.outcome = (s.roundAttempt ctx transport).2)
    (hatt : f.attempts = s.flow.attempts + 1) (hdone : step.done = false)
    (hd : step.decision = .retry) (hwait : ctx.doneAt? (.waiting s.sent.length) = some reason) :
    ((((s.roundAttempt ctx transport).1.record step f sh).waitFor step.delay).cutShort
      reason).Ended ctx transport where
  word := by
    obtain ⟨ts, hlen, hcount, hkinds⟩ := hh.word
    refine ⟨ts ++ [(s.roundAttempt ctx transport).2.timedOut], [], ?_, ?_, ?_,
      .inr ⟨rfl, by simp [hlen], by simp [hctx], by simp [hwait], by simp⟩⟩
    · simp [hkinds]
    · simp [List.countP_append, hd, hh.countP_retry, hlen]
    · rw [count_true_concat, hcount]
      simp
  live := by
    intro j hj
    exact hh.live j (by simpa using hj)
  attempts := by simp [hatt, hh.attempts]
  numbered := by simp [hh.numbered]
  recorded := by simp [hh.recorded, roundAttempt_settledOutcomes ctx transport s hh.taken]
  outcome := by simp [roundAttempt_settledOutcomes ctx transport s hh.taken]
  told := by simp [hctx, hh.told, hout, roundAttempt_settledOutcomes ctx transport s hh.taken]
  retried := by
    intro st hst
    rw [cutShort_steps, waitFor_steps, record_steps, List.dropLast_concat,
      roundAttempt_steps] at hst
    exact hh.retried st hst
  flowEnd := by
    intro hcut
    simp at hcut
  cutEnd := by
    intro reason' hcut
    simp only [cutShort_cut, Option.some.injEq] at hcut
    subst hcut
    refine ⟨by simp, ?_⟩
    intro st hst
    simp only [cutShort_steps, waitFor_steps, record_steps, roundAttempt_steps, List.mem_append,
      List.mem_singleton] at hst
    rcases hst with hst | rfl
    · exact hh.retried st hst
    · exact ⟨hdone, hd⟩
  waited := by simp [List.filter_append, hh.filter_retry, hd]

/-- A round that stops leaves the loop `Ended`. -/
theorem Head.stop {r : SendRun} (hh : s.Head ctx transport) (hready : s.Ready)
    (hr : s.round ctx transport = .stop r) : r.Ended ctx transport := by
  have hends := round_ends ctx transport hready
  rw [hr] at hends
  cases hends with
  | cutAfter hctx => exact hh.cutAfter hctx
  | final hctx hrep hdone =>
    obtain ⟨hout, hatt, hd, -⟩ := Flow.taken_report_done hrep hdone
    exact hh.final hctx hout hatt hdone hd
  | cutWaiting hctx hrep hdone hwait =>
    obtain ⟨hout, hatt, hd, -, -⟩ := Flow.taken_report_retry hrep hdone
    exact hh.cutWaiting hctx hout hatt hdone hd hwait

/-- A round that goes on keeps `Head`. -/
theorem Head.again {s' : SendRun} (hh : s.Head ctx transport) (hready : s.Ready)
    (hr : s.round ctx transport = .again s') : s'.Head ctx transport := by
  have hends := round_ends ctx transport hready
  rw [hr] at hends
  cases hends with
  | retry _ hrep hdone hwait =>
    obtain ⟨hout, hatt, hd, -, -⟩ := Flow.taken_report_retry hrep hdone
    exact hh.retry hout hatt hdone hd hwait

/-- Before the first round the flow is fresh and ready, with the limiter's whole budget, and
only `BeforeExecutionStart` has fired. -/
theorem begin_head (ctx : CallerContext) (transport : Nat → Reply) (o : Orchestrator) (r : Request)
    (keys : KeySource) (now : Int) :
    (SendRun.begin o r keys now).Ready ∧ (SendRun.begin o r keys now).Head ctx transport ∧
      (SendRun.begin o r keys now).flow.limiter.budget = o.limiter.retryBound := by
  refine ⟨.inl rfl, ?_, Limiter.begin_budget o.limiter⟩
  exact {
    word := ⟨[], rfl, rfl, rfl⟩
    attempts := rfl
    numbered := rfl
    recorded := rfl
    told := rfl
    retried := by simp [SendRun.begin, fire, update]
    waited := rfl
    live := fun j hj => absurd hj (Nat.not_lt_zero j)
    uncut := rfl
    taken := rfl }

end Keep

end SendRun

/-- Every run of the send loop ends `Ended`: its rounds never outlast the fuel. -/
theorem sendRequest_ended (o : Orchestrator) (ctx : CallerContext) (r : Request)
    (transport : Nat → Reply) (keys : KeySource) (now : Int) :
    (runAttempts ctx transport (o.limiter.retryBound + 1) (SendRun.begin o r keys now)).Ended ctx
      transport := by
  obtain ⟨hready, hhead, hbudget⟩ :=
    SendRun.begin_head ctx transport o r keys now
  exact runAttempts_induction (SendRun.Head ctx transport) (SendRun.Ended ctx transport)
    (fun _ _ hready hh hr => hh.again hready hr) (fun _ _ hready hh hr => hh.stop hready hr)
    _ _ hready hhead (by omega)

/-- The last round of every run of the send loop: for any property of the run before its first
round that every round going on keeps, the loop stops in a round that begins from a ready run
with that property, every round before it having retried. -/
theorem sendRequest_last_round (Inv : SendRun → Prop) (o : Orchestrator) (ctx : CallerContext)
    (r : Request) (transport : Nat → Reply) (keys : KeySource) (now : Int)
    (hbegin : Inv (SendRun.begin o r keys now))
    (hkeep : ∀ s s', s.Ready → s.Head ctx transport → Inv s → s.round ctx transport = .again s' →
      Inv s') :
    ∃ s, s.Ready ∧ s.Head ctx transport ∧ Inv s ∧
      s.round ctx transport =
        .stop (runAttempts ctx transport (o.limiter.retryBound + 1)
          (SendRun.begin o r keys now)) := by
  obtain ⟨hready, hhead, hbudget⟩ :=
    SendRun.begin_head ctx transport o r keys now
  exact runAttempts_induction (fun s => s.Head ctx transport ∧ Inv s)
    (fun last => ∃ s, s.Ready ∧ s.Head ctx transport ∧ Inv s ∧ s.round ctx transport = .stop last)
    (fun s s' hready hs hr => ⟨hs.1.again hready hr, hkeep s s' hready hs.1 hs.2 hr⟩)
    (fun s last hready hs hr => ⟨s, hready, hs.1, hs.2, hr⟩)
    (o.limiter.retryBound + 1) (SendRun.begin o r keys now) hready ⟨hhead, hbegin⟩ (by omega)

end HttpRetry
