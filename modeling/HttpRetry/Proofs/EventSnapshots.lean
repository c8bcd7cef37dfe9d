import HttpRetry.Proofs.SendExecution

/-!
What the execution shows at each event. `SendRun.Recorded` holds when a round begins and every
round that retries keeps it (`Recorded.retry`); each way the last round stops leaves what
`SendRun.Shown` says (`Recorded.stop`). Main statement, `send_loop_event_snapshots`.
-/

namespace HttpRetry

/-- A decision keeps the request but for its header map. -/
theorem Limiter.Flow.decide_request (f : Limiter.Flow) (o : Outcome) (q : Request) (k : KeySource) :
    ∃ h, (f.decide o (some q) k).request = some { q with header := h } := by
  induction f generalizing q k with
  | giveUp => exact ⟨q.header, rfl⟩
  | errorBudget n accepts =>
    refine ⟨q.header, ?_⟩
    simp only [decide]
    split
    · rfl
    · split <;> rfl
  | responseBudget n codes =>
    refine ⟨q.header, ?_⟩
    simp only [decide]
    split
    · rfl
    · split <;> rfl
  | both a b iha ihb | either a b iha ihb =>
    obtain ⟨ha, hqa⟩ := iha q k
    obtain ⟨hb, hqb⟩ := ihb { q with header := ha } (a.decide o (some q) k).keys
    exact ⟨hb, by simp only [decide, hqa, hqb]⟩
  | marking inner m n ih =>
    obtain ⟨hi, hqi⟩ := ih q k
    simp only [decide, hqi]
    cases (inner.decide o (some q) k).decision with
    | retry =>
      -- a retry marks the request, which changes only its header map
      cases m with
      | appendCount name => exact ⟨_, rfl⟩
      | countHeader name => exact ⟨_, rfl⟩
      | idempotencyKey name =>
        simp only [Marking.apply]
        split <;> exact ⟨_, rfl⟩
    | giveUp | pass => exact ⟨hi, rfl⟩

namespace SendRun

/-- The execution as each event of kind `k` saw it, in order. -/
def seen (k : EventKind) (s : SendRun) : List Execution :=
  s.events.filterMap fun ev => if ev.1 = k then some ev.2 else none

/-! ### How each part of a round adds to the views -/

section Views

variable (ctx : CallerContext) (transport : Nat → Reply) (s : SendRun) (k : EventKind)

theorem seen_of_events {s' : SendRun} {evs : List (EventKind × Execution)}
    (h : s'.events = s.events ++ evs) :
    s'.seen k = s.seen k ++ evs.filterMap fun ev => if ev.1 = k then some ev.2 else none := by
  rw [seen, h, List.filterMap_append]
  rfl

theorem roundAttempt_events :
    (s.roundAttempt ctx transport).1.events =
      s.events ++ (.beforeAttempt, { s.execution with outcome := none, err := none }) ::
        ((if (s.roundAttempt ctx transport).2.timedOut then [EventKind.afterAttemptTimeout] else []) ++
          [EventKind.afterAttempt]).map (·, (s.roundAttempt ctx transport).1.execution) :=
  attempt_events ctx transport { s with flow := s.flow.taken } s.flow.request

/-- A round's attempt shows the execution cleared at `BeforeAttempt`, and as the attempt left it at
`AfterAttemptTimeout` (for a timeout) and `AfterAttempt`. -/
@[simp] theorem seen_roundAttempt :
    (s.roundAttempt ctx transport).1.seen k =
      s.seen k ++ (if k = .beforeAttempt then [{ s.execution with outcome := none, err := none }]
        else []) ++
      (if k = .afterAttemptTimeout ∧ (s.roundAttempt ctx transport).2.timedOut = true then
        [(s.roundAttempt ctx transport).1.execution] else []) ++
      (if k = .afterAttempt then [(s.roundAttempt ctx transport).1.execution] else []) := by
  rw [seen_of_events s k (roundAttempt_events ctx transport s)]
  cases k <;> cases (s.roundAttempt ctx transport).2.timedOut <;> simp

@[simp] theorem roundAttempt_deadlineReads :
    (s.roundAttempt ctx transport).1.deadlineReads = s.deadlineReads ++ [s.execution] := by
  simp [roundAttempt, attempt, settle_eq, fire, update]

variable (step : Step) (f : Flow) (sh : Shared) (d : Int) (reason : ContextEnd) (now : Int)

@[simp] theorem seen_record : (s.record step f sh).seen k = s.seen k := rfl

@[simp] theorem record_deadlineReads : (s.record step f sh).deadlineReads = s.deadlineReads := rfl

@[simp] theorem seen_waitFor :
    (s.waitFor d).seen k = s.seen k ++ if k = .beforeWait then [{ s.execution with wait := d }] else [] := by
  rw [seen_of_events s k (waitFor_events s d)]
  cases k <;> simp

@[simp] theorem waitFor_deadlineReads : (s.waitFor d).deadlineReads = s.deadlineReads := rfl

@[simp] theorem seen_nextAttempt : s.nextAttempt.seen k = s.seen k := rfl

@[simp] theorem nextAttempt_deadlineReads : s.nextAttempt.deadlineReads = s.deadlineReads := rfl

@[simp] theorem seen_finish :
    (s.finish now).seen k =
      s.seen k ++ if k = .afterExecutionEnd then [{ s.execution with stop := some now }] else [] := by
  rw [seen_of_events s k (finish_events s now)]
  cases k <;> simp

@[simp] theorem finish_deadlineReads : (s.finish now).deadlineReads = s.deadlineReads := rfl

/-- Cutting the run short for its deadline shows it at `AfterExecutionTimeout`. -/
@[simp] theorem seen_cutShort :
    (s.cutShort reason).seen k =
      s.seen k ++ if reason = .deadline ∧ k = .afterExecutionTimeout then
        [{ s.execution with err := some reason.fault }] else [] := by
  rw [seen_of_events s k (cutShort_events s reason)]
  cases reason <;> cases k <;> simp

@[simp] theorem cutShort_deadlineReads : (s.cutShort reason).deadlineReads = s.deadlineReads := by
  cases reason <;> rfl

end Views

/-! ### What the attempts showed, and what holds when a round begins -/

/-- What the attempts of a run that started as `e₀` showed so far. -/
structure Attempted (ctx : CallerContext) (transport : Nat → Reply) (e₀ : Execution)
    (s : SendRun) : Prop where
  /-- `BeforeExecutionStart` showed the execution just before it started. -/
  start : s.seen .beforeExecutionStart = [{ e₀ with start := none }]
  /-- Each `BeforeAttempt` showed the attempt's number, counted from zero… -/
  numbers : (s.seen .beforeAttempt).map Execution.attempt = List.range s.sent.length
  /-- …the request then sent… -/
  requests : (s.seen .beforeAttempt).map Execution.request = s.sent
  /-- …and no outcome or failure, the execution started. -/
  cleared : ∀ e ∈ s.seen .beforeAttempt, e.outcome = none ∧ e.err = none ∧ e.started = true
  /-- Each `AfterAttempt` showed its attempt's outcome… -/
  outcomes : (s.seen .afterAttempt).map Execution.outcome = (s.settledOutcomes ctx transport).map some
  /-- …with the outcome's failure… -/
  failures : ∀ e ∈ s.seen .afterAttempt, e.err = e.outcome.bind Outcome.fault?
  /-- …and the timeouts among the outcomes up to its own. -/
  counted : (s.seen .afterAttempt).map Execution.attemptTimeouts =
    (List.range s.sent.length).map fun i =>
      ((s.settledOutcomes ctx transport).take (i + 1)).countP Outcome.timedOut
  /-- `AfterAttemptTimeout` showed what `AfterAttempt` showed, for the attempts that timed out. -/
  timeouts : s.seen .afterAttemptTimeout = (s.seen .afterAttempt).filter Execution.timedOut
  /-- Before each attempt the timeout policy read the previous attempt's failure and the timeouts
  among the outcomes before it. -/
  reads : s.deadlineReads.map (fun e => (e.err, e.attemptTimeouts)) =
    (List.range s.sent.length).map fun j =>
      (((s.settledOutcomes ctx transport).take j).getLast?.bind Outcome.fault?,
        ((s.settledOutcomes ctx transport).take j).countP Outcome.timedOut)

/-- What holds when a round of a run that started as `e₀` begins. -/
structure Recorded (ctx : CallerContext) (transport : Nat → Reply) (e₀ : Execution)
    (s : SendRun) : Prop extends Attempted ctx transport e₀ s where
  begun : e₀.started = true
  /-- The execution is the one that started, with the flow's request, the number of the attempt to
  come, the timeouts so far, the latest outcome and its failure, and the latest wait. -/
  current : s.execution = { e₀ with
    request := s.flow.request, attempt := s.sent.length,
    attemptTimeouts := (s.settledOutcomes ctx transport).countP Outcome.timedOut,
    outcome := (s.settledOutcomes ctx transport).getLast?,
    err := (s.settledOutcomes ctx transport).getLast?.bind Outcome.fault?,
    wait := (s.steps.getLast?.map Step.delay).getD 0 }
  /-- Each `BeforeWait` showed its retry's delay… -/
  waits : (s.seen .beforeWait).map Execution.wait = s.steps.map Step.delay
  /-- …and the number of the attempt retried. -/
  waitNumbers : (s.seen .beforeWait).map Execution.attempt = List.range s.steps.length
  unended : s.seen .afterExecutionTimeout = [] ∧ s.seen .afterExecutionEnd = []

/-- What a run that started as `e₀` shows once its last round has stopped, `last` being the
execution as the last attempt left it. -/
structure Shown (ctx : CallerContext) (transport : Nat → Reply) (e₀ last : Execution)
    (r : SendRun) : Prop extends Attempted ctx transport e₀ r where
  lastAttempt : (r.seen .afterAttempt).getLast? = some last
  /-- Each `BeforeWait` showed its retry's delay… -/
  waits : (r.seen .beforeWait).map Execution.wait =
    (r.steps.filter (·.decision = .retry)).map Step.delay
  /-- …and the number of the attempt retried. -/
  waitNumbers : (r.seen .beforeWait).map Execution.attempt = List.range (r.seen .beforeWait).length
  deadline : ∀ e ∈ r.seen .afterExecutionTimeout, e.err = some .deadlineExceeded
  unended : r.seen .afterExecutionEnd = []
  /-- The execution is the last attempt's, with the context's reason as the failure if the context
  ended the run, the latest retry's delay as the wait, and the flow's request header. -/
  current : r.execution = { last with
    err := if r.cut = none then last.err else r.cut.map ContextEnd.fault,
    wait := ((r.steps.filter (·.decision = .retry)).getLast?.map Step.delay).getD 0,
    request := { last.request with header := r.flow.request.header } }

section Keep

variable {ctx : CallerContext} {transport : Nat → Reply} {e₀ : Execution} {s : SendRun}

/-- One `BeforeWait` per retry so far. -/
theorem Recorded.waits_length (hr : s.Recorded ctx transport e₀) :
    (s.seen .beforeWait).length = s.steps.length := by
  rw [← List.length_map Execution.wait, hr.waits, List.length_map]

/-- Counting one outcome more: its timeout, if it is one. -/
theorem countP_timedOut_concat (os : List Outcome) (o : Outcome) :
    (os ++ [o]).countP Outcome.timedOut = os.countP Outcome.timedOut + if o.timedOut then 1 else 0 := by
  cases h : o.timedOut <;> simp [h]

/-- The outcomes up to the `i`-th, one more outcome having come after them. -/
theorem take_succ_concat_countP (os : List Outcome) (o : Outcome) {i : Nat} (hi : i < os.length) :
    ((os ++ [o]).take (i + 1)).countP Outcome.timedOut = (os.take (i + 1)).countP Outcome.timedOut := by
  rw [List.take_append_of_le_length (by omega)]

/-- The round's attempt adds to what the attempts showed. -/
theorem Recorded.attempt (hr : s.Recorded ctx transport e₀) (hh : s.Head ctx transport) :
    (s.roundAttempt ctx transport).1.Attempted ctx transport e₀ where
  start := by simp [hr.start]
  numbers := by simp [hr.numbers, hr.current, List.range_succ]
  requests := by simp [hr.requests, hr.current]
  cleared := by
    intro e he
    simp only [seen_roundAttempt, List.mem_append] at he
    rcases he with ((he | he) | he) | he
    · exact hr.cleared e he
    · simp only [↓reduceIte, List.mem_singleton] at he
      subst he
      simpa [hr.current, Execution.started] using hr.begun
    · simp at he
    · simp at he
  outcomes := by simp [hr.outcomes, roundAttempt_settledOutcomes ctx transport s hh.taken]
  failures := by
    intro e he
    simp only [seen_roundAttempt, List.mem_append] at he
    rcases he with ((he | he) | he) | he
    · exact hr.failures e he
    · simp at he
    · simp at he
    · simp only [↓reduceIte, List.mem_singleton] at he
      subst he
      simp
  counted := by
    have hlen : (s.settledOutcomes ctx transport).length = s.sent.length := answers_length ..
    simp only [seen_roundAttempt, roundAttempt_sent, roundAttempt_settledOutcomes ctx transport s hh.taken,
      List.length_append, List.length_singleton, List.range_succ, List.map_append, hr.counted,
      reduceCtorEq, ↓reduceIte, List.append_nil, false_and, List.map_cons, List.map_nil,
      roundAttempt_execution, hr.current]
    congr 1
    · refine List.map_congr_left fun i hi => ?_
      rw [take_succ_concat_countP _ _ (by simp at hi; omega)]
    · rw [List.take_of_length_le (by simp [hlen]), countP_timedOut_concat]
  timeouts := by
    have ht : (s.roundAttempt ctx transport).1.execution.timedOut =
        (s.roundAttempt ctx transport).2.timedOut := by
      rw [roundAttempt_execution]
      rfl
    simp only [seen_roundAttempt, hr.timeouts, List.filter_append, reduceCtorEq, false_and,
      ↓reduceIte, List.append_nil, true_and, List.filter_cons, ht, List.filter_nil]
  reads := by
    have hlen : (s.settledOutcomes ctx transport).length = s.sent.length := answers_length ..
    simp only [roundAttempt_deadlineReads, roundAttempt_sent,
      roundAttempt_settledOutcomes ctx transport s hh.taken, List.map_append, hr.reads,
      List.length_append, List.length_singleton, List.range_succ, List.map_cons, List.map_nil,
      hr.current]
    congr 1
    · refine List.map_congr_left fun j hj => ?_
      rw [List.take_append_of_le_length (by simp at hj; omega)]
    · rw [List.take_append_of_le_length (Nat.le_of_eq hlen.symm), ← hlen, List.take_length]

/-- What the attempts showed stays as it was when the run goes on without an attempt. -/
theorem Attempted.congr {s' : SendRun} (h : s.Attempted ctx transport e₀)
    (hseen : ∀ k, k = .beforeExecutionStart ∨ k = .beforeAttempt ∨ k = .afterAttempt ∨
      k = .afterAttemptTimeout → s'.seen k = s.seen k)
    (hsent : s'.sent = s.sent) (hreads : s'.deadlineReads = s.deadlineReads) :
    s'.Attempted ctx transport e₀ := by
  have hout : s'.settledOutcomes ctx transport = s.settledOutcomes ctx transport := by
    simp [settledOutcomes, hsent]
  exact {
    start := by rw [hseen _ (by simp)]; exact h.start
    numbers := by rw [hseen _ (by simp), hsent]; exact h.numbers
    requests := by rw [hseen _ (by simp), hsent]; exact h.requests
    cleared := by rw [hseen _ (by simp)]; exact h.cleared
    outcomes := by rw [hseen _ (by simp), hout]; exact h.outcomes
    failures := by rw [hseen _ (by simp)]; exact h.failures
    counted := by rw [hseen _ (by simp), hsent, hout]; exact h.counted
    timeouts := by rw [hseen _ (by simp), hseen .afterAttempt (by simp)]; exact h.timeouts
    reads := by rw [hreads, hsent, hout]; exact h.reads }

variable {step : Step} {f : Flow} {sh : Shared}

/-- A round that retries, under a context live through the wait, keeps `Recorded`. -/
theorem Recorded.retry (hr : s.Recorded ctx transport e₀) (hh : s.Head ctx transport) :
    (((s.roundAttempt ctx transport).1.record step f sh).waitFor step.delay).nextAttempt.Recorded
      ctx transport e₀ where
  toAttempted := (hr.attempt hh).congr (by rintro k (rfl | rfl | rfl | rfl) <;> simp) (by simp)
    (by simp)
  begun := hr.begun
  current := by
    simp only [nextAttempt_execution, waitFor_execution, record_execution, roundAttempt_execution,
      hr.current, nextAttempt_flow, waitFor_flow, record_flow, nextAttempt_sent, waitFor_sent,
      record_sent, roundAttempt_sent, nextAttempt_steps, waitFor_steps, record_steps,
      roundAttempt_steps, nextAttempt_settledOutcomes, waitFor_settledOutcomes,
      record_settledOutcomes, roundAttempt_settledOutcomes ctx transport s hh.taken]
    simp
  waits := by simp [hr.waits, hr.current]
  waitNumbers := by simp [hr.waitNumbers, hr.current, hh.steps_length, List.range_succ]
  unended := by simp [hr.unended]

/-- A round that goes on keeps `Recorded`. -/
theorem Recorded.again {s' : SendRun} (hr : s.Recorded ctx transport e₀) (hh : s.Head ctx transport)
    (hready : s.Ready) (hagain : s.round ctx transport = .again s') : s'.Recorded ctx transport e₀ := by
  have hends := round_ends ctx transport hready
  rw [hagain] at hends
  cases hends with
  | retry => exact hr.retry hh

/-- Before the first round, only `BeforeExecutionStart` has shown the execution, with its id and
request, and the execution has started at the clock's reading. -/
theorem Recorded.begin (o : Orchestrator) (r : Request) (keys : KeySource) (now : Int) :
    (SendRun.begin o r keys now).Recorded ctx transport
      { id := (keys.uuid).1, request := r, start := some now } where
  start := by simp [SendRun.begin, seen, fire, update]
  numbers := by simp [SendRun.begin, seen, fire, update]
  requests := by simp [SendRun.begin, seen, fire, update]
  cleared := by simp [SendRun.begin, seen, fire, update]
  outcomes := by simp [SendRun.begin, seen, fire, update, settledOutcomes, answers]
  failures := by simp [SendRun.begin, seen, fire, update]
  counted := by simp [SendRun.begin, seen, fire, update]
  timeouts := by simp [SendRun.begin, seen, fire, update]
  reads := by simp [SendRun.begin, fire, update]
  begun := rfl
  current := by simp [SendRun.begin, fire, update, settledOutcomes, answers]
  waits := by simp [SendRun.begin, seen, fire, update]
  waitNumbers := by simp [SendRun.begin, seen, fire, update]
  unended := by simp [SendRun.begin, seen, fire, update]

/-- The flow's request after a report is the request it handed out, but for the header map. -/
theorem Flow.taken_report_request {fl : Flow} {o : Outcome} {sh' : Shared}
    (hrep : fl.taken.report (some o) sh = .ok (step, f, sh')) :
    f.request = { fl.request with header := f.request.header } := by
  obtain ⟨-, -, -, -, hreq⟩ := Flow.report_eq_ok hrep
  obtain ⟨h, hdec⟩ := Limiter.Flow.decide_request fl.taken.limiter o fl.taken.request sh.keys
  have hf : f.request = { fl.request with header := h } := by
    rw [hreq, Flow.decideOn, hdec]
    rfl
  rw [hf]

/-- A round under a context done when its attempt is recorded shows its attempt, and the
context's reason as the failure. -/
theorem Recorded.cutAfter {reason : ContextEnd} (hr : s.Recorded ctx transport e₀)
    (hh : s.Head ctx transport) :
    ((s.roundAttempt ctx transport).1.cutShort reason).Shown ctx transport e₀
      (s.roundAttempt ctx transport).1.execution where
  toAttempted := (hr.attempt hh).congr (by rintro k (rfl | rfl | rfl | rfl) <;> simp) (by simp)
    (by simp)
  lastAttempt := by simp
  waits := by simp [hr.waits, hh.filter_retry]
  waitNumbers := by
    simp only [seen_cutShort, seen_roundAttempt, reduceCtorEq, ↓reduceIte, and_false, false_and,
      List.append_nil]
    rw [hr.waitNumbers, hr.waits_length]
  deadline := by
    intro e he
    simp only [seen_cutShort, seen_roundAttempt, hr.unended, reduceCtorEq, ↓reduceIte,
      false_and, List.append_nil, List.nil_append, and_true] at he
    split at he
    · rename_i hdl
      simp only [List.mem_singleton] at he
      subst he hdl
      rfl
    · cases he
  unended := by simp [hr.unended]
  current := by
    have hreq : s.execution.request = s.flow.request := by rw [hr.current]
    simp [hh.filter_retry, ← hh.waited, hreq]

/-- A round that the flow ends shows its attempt, as the attempt left it but for the request's
header map. -/
theorem Recorded.final (hr : s.Recorded ctx transport e₀) (hh : s.Head ctx transport)
    (hrep : s.flow.taken.report (some (s.roundAttempt ctx transport).2) s.shared = .ok (step, f, sh))
    (hd : step.decision ≠ .retry) :
    ((s.roundAttempt ctx transport).1.record step f sh).Shown ctx transport e₀
      (s.roundAttempt ctx transport).1.execution where
  toAttempted := (hr.attempt hh).congr (by rintro k (rfl | rfl | rfl | rfl) <;> simp) (by simp)
    (by simp)
  lastAttempt := by simp
  waits := by simp [hr.waits, List.filter_append, hh.filter_retry, hd]
  waitNumbers := by
    simp only [seen_record, seen_roundAttempt, reduceCtorEq, ↓reduceIte, false_and,
      List.append_nil]
    rw [hr.waitNumbers, hr.waits_length]
  deadline := by
    intro e he
    simp [hr.unended] at he
  unended := by simp [hr.unended]
  current := by
    have hreq : s.execution.request = s.flow.request := by rw [hr.current]
    have hfreq := Flow.taken_report_request hrep
    simp only [record_execution, roundAttempt_execution, record_cut, roundAttempt_cut, hh.uncut,
      record_steps, roundAttempt_steps, List.filter_append, hh.filter_retry, record_flow]
    rw [hreq, ← hfreq]
    simp [hd, hh.waited]

/-- A round that retries, under a context done during the wait, shows its attempt, with the
wait's delay and the context's reason as the failure. -/
theorem Recorded.cutWaiting {reason : ContextEnd} (hr : s.Recorded ctx transport e₀)
    (hh : s.Head ctx transport)
    (hrep : s.flow.taken.report (some (s.roundAttempt ctx transport).2) s.shared = .ok (step, f, sh))
    (hd : step.decision = .retry) :
    ((((s.roundAttempt ctx transport).1.record step f sh).waitFor step.delay).cutShort
      reason).Shown ctx transport e₀ (s.roundAttempt ctx transport).1.execution where
  toAttempted := (hr.attempt hh).congr (by rintro k (rfl | rfl | rfl | rfl) <;> simp) (by simp)
    (by simp)
  lastAttempt := by simp
  waits := by simp [hr.waits, List.filter_append, hh.filter_retry, hd]
  waitNumbers := by
    simp only [seen_cutShort, seen_waitFor, seen_record, seen_roundAttempt, reduceCtorEq,
      ↓reduceIte, and_false, List.append_nil, List.map_append, List.map_cons, List.map_nil,
      List.length_append, List.length_singleton]
    rw [hr.waitNumbers, hr.waits_length, List.range_succ]
    simp [hr.current, hh.steps_length]
  deadline := by
    intro e he
    simp only [seen_cutShort, seen_waitFor, seen_record, seen_roundAttempt, hr.unended,
      reduceCtorEq, ↓reduceIte, false_and, List.append_nil, List.nil_append, and_true] at he
    split at he
    · rename_i hdl
      simp only [List.mem_singleton] at he
      subst he hdl
      rfl
    · cases he
  unended := by simp [hr.unended]
  current := by
    have hreq : s.execution.request = s.flow.request := by rw [hr.current]
    have hfreq := Flow.taken_report_request hrep
    simp only [cutShort_execution, waitFor_execution, record_execution, roundAttempt_execution,
      cutShort_cut, cutShort_steps, waitFor_steps, record_steps, roundAttempt_steps,
      List.filter_append, hh.filter_retry, cutShort_flow, waitFor_flow, record_flow]
    rw [hreq, ← hfreq]
    simp [hd]

/-- The last round shows what `Shown` says, of the execution as its attempt left it. -/
theorem Recorded.stop {r : SendRun} (hr : s.Recorded ctx transport e₀) (hh : s.Head ctx transport)
    (hready : s.Ready) (hstop : s.round ctx transport = .stop r) :
    r.Shown ctx transport e₀ (s.roundAttempt ctx transport).1.execution := by
  have hends := round_ends ctx transport hready
  rw [hstop] at hends
  cases hends with
  | cutAfter => exact hr.cutAfter hh
  | final _ hrep hdone =>
    obtain ⟨-, -, hd, -⟩ := Flow.taken_report_done hrep hdone
    exact hr.final hh hrep hd
  | cutWaiting _ hrep hdone =>
    obtain ⟨-, -, hd, -, -⟩ := Flow.taken_report_retry hrep hdone
    exact hr.cutWaiting hh hrep hd

end Keep

end SendRun

end HttpRetry
