import HttpRetry.Proofs.SendLoop

/-!
What an execution shows when the send loop is done with it: the events it fired, in order
(`send_loop_event_word`), and the outcome and failure it reports (`send_loop_reports_outcomes`),
under a caller's context that may end at any of the loop's looks.
-/

namespace HttpRetry

namespace EventKind

@[simp] theorem rounds_cons (t : Bool) (ts : List Bool) :
    rounds (t :: ts) = attempt t ++ [.beforeWait] ++ rounds ts := by
  simp [rounds]

/-- An attempt fires one `BeforeAttempt`, one `AfterAttempt`, and a timeout if it timed out. -/
theorem count_attempt (t : Bool) :
    (attempt t).count .beforeAttempt = 1 ∧ (attempt t).count .afterAttempt = 1 ∧
      (attempt t).count .beforeWait = 0 ∧
      (attempt t).count .afterAttemptTimeout = (if t then 1 else 0) ∧
      (attempt t).count .afterExecutionTimeout = 0 := by
  cases t <;> decide

/-- The events of the rounds that retried: one attempt and one wait per round, and a timeout
per attempt that timed out. -/
theorem count_rounds (ts : List Bool) :
    (rounds ts).count .beforeAttempt = ts.length ∧ (rounds ts).count .afterAttempt = ts.length ∧
      (rounds ts).count .beforeWait = ts.length ∧
      (rounds ts).count .afterAttemptTimeout = ts.count true ∧
      (rounds ts).count .afterExecutionTimeout = 0 := by
  induction ts with
  | nil => simp
  | cons t ts ih =>
    obtain ⟨h1, h2, h3, h4, h5⟩ := ih
    obtain ⟨a1, a2, a3, a4, a5⟩ := count_attempt t
    simp only [rounds_cons, List.count_append, h1, h2, h3, h4, h5, a1, a2, a3, a4, a5]
    cases t <;> simp <;> omega

end EventKind

/-- An outcome has no failure exactly when it is a response. -/
theorem Outcome.fault?_eq_none_iff (o : Outcome) :
    o.fault? = none ↔ ∃ status header body, o = .response status header body := by
  cases o <;> simp [Outcome.fault?]

namespace SendRun

variable {ctx : CallerContext} {transport : Nat → Reply} {r : SendRun}

/-- The last round stopped at its first look that found the context done, if any. -/
theorem Ended.cut_eq (h : r.Ended ctx transport) :
    r.cut = ctx.doneAt? (.recorded (r.sent.length - 1)) ∨
      (ctx.doneAt? (.recorded (r.sent.length - 1)) = none ∧
        r.cut = ctx.doneAt? (.waiting (r.sent.length - 1))) := by
  obtain ⟨ts, last, -, -, -, ⟨t, -, -, hcut⟩ | ⟨-, -, hrec, hcut, -⟩⟩ := h.word
  · exact .inl hcut
  · exact .inr ⟨hrec, hcut⟩

/-- A context done from the start ends the run after one attempt. -/
theorem Ended.single_of_done_first {reason : ContextEnd} (h : r.Ended ctx transport)
    (hdone : ctx.doneAt? (.sending 0) = some reason) : r.sent.length = 1 := by
  have hnum := h.numbered
  by_contra hne
  -- a second attempt would need the context live at the first wait
  have hlive := h.live 0 (by omega)
  rw [CallerContext.doneAt?_of_le (by simp [Moment.index]) hdone] at hlive
  cases hlive

end SendRun

/-- The events of every run spell the send loop's word, and its counts of requests, attempts, waits
and timeouts agree. -/
theorem send_loop_event_word (o : Orchestrator) (ctx : CallerContext) (r : Request)
    (transport : Nat → Reply) (keys : KeySource) (clock : Nat → Int) :
    let run := sendRequest o ctx r transport keys clock
    let n := run.sent.length
    (∃ (ts : List Bool) (last : List EventKind),
      run.kinds = .beforeExecutionStart :: (EventKind.rounds ts ++ last ++
        (if run.cut = some .deadline then [.afterExecutionTimeout] else []) ++
          [.afterExecutionEnd]) ∧
      ((∃ t, last = EventKind.attempt t ∧ run.cut = ctx.doneAt? (.recorded (n - 1))) ∨
        (last = [] ∧ 0 < ts.length ∧ ctx.doneAt? (.recorded (n - 1)) = none ∧
          run.cut = ctx.doneAt? (.waiting (n - 1)) ∧ run.cut ≠ none))) ∧
    (∀ j, j + 1 < n → ctx.doneAt? (.waiting j) = none) ∧
    (.afterExecutionTimeout ∈ run.kinds ↔ run.cut = some .deadline) ∧
    run.kinds.count .beforeAttempt = n ∧
    run.kinds.count .afterAttempt = n ∧
    run.execution.attempt + 1 = n ∧
    run.flow.attempts = n ∧
    run.kinds.count .beforeWait = run.steps.countP (·.decision = .retry) ∧
    run.execution.attemptTimeouts = run.kinds.count .afterAttemptTimeout ∧
    (ctx.doneAt? (.sending 0) ≠ none → n = 1) := by
  intro run n
  have hend := sendRequest_ended o ctx r transport keys (clock 0)
  have hrun : run = (runAttempts ctx transport (o.limiter.retryBound + 1)
      (SendRun.begin o r keys (clock 0))).finish (clock 1) := rfl
  obtain ⟨ts, last, hkinds, hretries, htimeouts, hlast⟩ := hend.word
  obtain ⟨ba, aa, bw, aat, aet⟩ := EventKind.count_rounds ts
  -- the last round fired one attempt's events, or none when a wait was cut short
  have hlastCounts : last.count .beforeWait = 0 ∧ last.count .afterExecutionTimeout = 0 ∧
      ts.length + last.count .beforeAttempt = n ∧ ts.length + last.count .afterAttempt = n := by
    rcases hlast with ⟨t, rfl, hlen, -⟩ | ⟨rfl, hlen, -⟩
    · obtain ⟨a1, a2, a3, -, a5⟩ := EventKind.count_attempt t
      refine ⟨a3, a5, ?_, ?_⟩ <;> simp only [n, hrun, SendRun.finish_sent] <;> omega
    · simp [n, hrun, hlen]
  obtain ⟨lbw, laet, lba, laa⟩ := hlastCounts
  -- the word, with the end of the execution after it
  have hword : run.kinds = .beforeExecutionStart :: (EventKind.rounds ts ++ last ++
      (if run.cut = some .deadline then [.afterExecutionTimeout] else []) ++
        [.afterExecutionEnd]) := by
    rw [hrun, SendRun.finish_kinds, hkinds, SendRun.finish_cut]
    simp
  -- the context's deadline adds no attempt, wait or timeout of an attempt
  have htail : ∀ k, k ≠ .afterExecutionTimeout →
      (if run.cut = some .deadline then [EventKind.afterExecutionTimeout] else []).count k = 0 := by
    intro k hk
    split <;> simp [Ne.symm hk]
  refine ⟨⟨ts, last, hword, ?_⟩, ?_, ?_, ?_, ?_, ?_, ?_, ?_, ?_, ?_⟩
  · rcases hlast with ⟨t, hl, -, hcut⟩ | ⟨hl, hlen, hrec, hcut, hne⟩
    · exact .inl ⟨t, hl, by simpa [n, hrun] using hcut⟩
    · have hpos : 0 < ts.length := by
        rw [hlen]
        have := hend.numbered
        omega
      exact .inr ⟨hl, hpos, by simpa [n, hrun] using hrec, by simpa [n, hrun] using hcut,
        by simpa [hrun] using hne⟩
  · intro j hj
    exact hend.live j (by simpa [n, hrun] using hj)
  · -- only the context's deadline fires `AfterExecutionTimeout`
    rw [hword, ← List.count_pos_iff]
    by_cases hdl : run.cut = some .deadline <;> simp [hdl, aet, laet]
  · rw [hword]
    simp [ba, htail]
    omega
  · rw [hword]
    simp [aa, htail]
    omega
  · simpa [n, hrun] using hend.numbered
  · simpa [n, hrun] using hend.attempts
  · rw [hword]
    simp only [List.count_cons, List.count_append, bw, lbw, htail .beforeWait (by decide)]
    rw [hretries, hrun]
    simp
  · have hts : run.execution.attemptTimeouts = ts.count true + last.count .afterAttemptTimeout := by
      rw [htimeouts, hrun]
      rfl
    rw [hword, hts]
    simp [aat, htail .afterAttemptTimeout (by decide)]
  · intro hdone
    obtain ⟨reason, hreason⟩ := Option.ne_none_iff_exists'.1 hdone
    simpa [n, hrun] using hend.single_of_done_first hreason

/-- The outcome an attempt leaves, the caller's context done for `done` when it is classified, if
it is: the transport's, except that a failure of kind `Other` is a failure to read exactly when
the attempt's own deadline passed and the context is live. -/
theorem AttemptEnd.settled_cases (a : AttemptEnd) (done : Option ContextEnd) :
    (∃ f, a.outcome = .failed .other f ∧ a.deadlinePassed = true ∧ done = none ∧
        a.settled done = .failed .read f) ∨
    (¬(∃ f, a.outcome = .failed .other f ∧ a.deadlinePassed = true ∧ done = none) ∧
        a.settled done = a.outcome) := by
  obtain ⟨o, taken, passed⟩ := a
  -- only a failure of kind `Other` can be read again
  by_cases hother : ∃ f, o = .failed .other f
  · obtain ⟨f, rfl⟩ := hother
    by_cases h : passed = true ∧ done = none
    · obtain ⟨rfl, rfl⟩ := h
      exact .inl ⟨f, rfl, rfl, rfl, rfl⟩
    · refine .inr ⟨by simpa using h, ?_⟩
      simp only [AttemptEnd.settled]
      split
      · rename_i hc
        simp only [Bool.and_eq_true, Option.isNone_iff_eq_none] at hc
        exact absurd hc h
      · rfl
  · refine .inr ⟨fun ⟨f, hf, _⟩ => hother ⟨f, hf⟩, ?_⟩
    cases o with
    | response status header body => rfl
    | failed kind f =>
      cases kind with
      | other => exact absurd ⟨f, rfl⟩ hother
      | connect | read | write | unnamed _ => rfl

/-- Every run reports its attempts' outcomes, and ends with the flow's last outcome or the context's
reason as its failure. -/
theorem send_loop_reports_outcomes (o : Orchestrator) (ctx : CallerContext) (r : Request)
    (transport : Nat → Reply) (keys : KeySource) (clock : Nat → Int) :
    let run := sendRequest o ctx r transport keys clock
    let n := run.sent.length
    (∀ (a : AttemptEnd) (done : Option ContextEnd),
      (∃ f, a.outcome = .failed .other f ∧ a.deadlinePassed = true ∧ done = none ∧
          a.settled done = .failed .read f) ∨
      (¬(∃ f, a.outcome = .failed .other f ∧ a.deadlinePassed = true ∧ done = none) ∧
          a.settled done = a.outcome)) ∧
    run.result = (run.execution, run.execution.err) ∧
    run.afterAttempts.map Execution.outcome = (run.settledOutcomes ctx transport).map some ∧
    run.execution.outcome = (run.settledOutcomes ctx transport).getLast? ∧
    run.steps.map Step.outcome =
      (if ctx.doneAt? (.recorded (n - 1)) = none then run.settledOutcomes ctx transport
        else (run.settledOutcomes ctx transport).dropLast) ∧
    (run.cut = ctx.doneAt? (.recorded (n - 1)) ∨
      (ctx.doneAt? (.recorded (n - 1)) = none ∧ run.cut = ctx.doneAt? (.waiting (n - 1)))) ∧
    (run.cut = none → ∃ last ∈ run.steps.getLast?, last.done = true ∧
      run.execution.outcome = some last.outcome ∧ run.execution.err = last.outcome.fault? ∧
      (run.execution.err = none ↔ ∃ status header body, last.outcome = .response status header body)) ∧
    (∀ reason, run.cut = some reason → run.execution.err = some reason.fault) ∧
    run.execution.wait = ((run.steps.filter (·.decision = .retry)).getLast?.map Step.delay).getD 0 := by
  intro run n
  have hend := sendRequest_ended o ctx r transport keys (clock 0)
  have hrun : run = (runAttempts ctx transport (o.limiter.retryBound + 1)
      (SendRun.begin o r keys (clock 0))).finish (clock 1) := rfl
  refine ⟨fun a done => AttemptEnd.settled_cases a done, rfl, ?_, ?_, ?_, ?_, fun huncut => ?_,
    fun reason hcut => ?_, ?_⟩
  · rw [hrun, SendRun.finish_afterAttempts, SendRun.finish_settledOutcomes]
    exact hend.recorded
  · rw [hrun, SendRun.finish_settledOutcomes]
    simpa using hend.outcome
  · simpa [n, hrun] using hend.told
  · simpa [n, hrun] using hend.cut_eq
  · obtain ⟨last, hlast, hdone, -, herr⟩ := hend.flowEnd (by simpa [hrun] using huncut)
    -- with the context live at the last look, the flow was told the last outcome recorded
    have hlive : ctx.doneAt? (.recorded (n - 1)) = none := by
      rcases hend.cut_eq with hcut | ⟨hrec, -⟩
      · simpa [n, hrun, ← hcut] using huncut
      · simpa [n, hrun] using hrec
    have htold := hend.told
    rw [if_pos (by simpa [n, hrun] using hlive)] at htold
    have hout : (run.settledOutcomes ctx transport).getLast? = some last.outcome := by
      rw [hrun, SendRun.finish_settledOutcomes, ← htold, List.getLast?_map, hlast]
      rfl
    have houtcome : run.execution.outcome = some last.outcome := by
      rw [← hout, hrun, SendRun.finish_settledOutcomes]
      simpa using hend.outcome
    have herr' : run.execution.err = last.outcome.fault? := by
      rw [hrun]
      simpa using herr
    refine ⟨last, by rw [hrun]; simpa using hlast, hdone, houtcome, herr', ?_⟩
    rw [herr', Outcome.fault?_eq_none_iff]
  · rw [hrun]
    simpa using (hend.cutEnd reason (by simpa [hrun] using hcut)).1
  · rw [hrun]
    simpa using hend.waited

end HttpRetry
