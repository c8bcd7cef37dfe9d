import HttpRetry.Proofs.FlowCalls

/-!
The protocol every flow keeps, whatever calls are made on it. The answers spell a word of the
automaton `FlowState.answer` (a request, then steps that retry each followed by a request, then a
final step), and the limiter and the schedule follow from the outcomes reported (`Flow.Tracks`).
Main statement, `flow_run_follows_protocol`.
-/

namespace HttpRetry

/-- The protocol of a flow's successful calls: a request handed out awaits its outcome; a step
waits for the next request while it retries and ends the flow otherwise; nothing follows the
end. -/
def FlowState.answer : FlowState → Flow.Answer → Option FlowState
  | .awaitSend, .request _ | .delaying, .request _ => some .awaitOutcome
  | .awaitOutcome, .step s => some (if s.done then .terminated else .delaying)
  | _, _ => none

/-- The retries a flow in a state has been granted, by its attempts: none before the first
attempt, one fewer than the attempts while an outcome is awaited or after the end, as many as
the attempts while it waits. -/
def FlowState.retriesAfter : FlowState → Nat → Nat
  | .awaitSend, _ => 0
  | .awaitOutcome, n | .terminated, n => n - 1
  | .delaying, n => n

/-- Decides outcomes in turn for one request, each decision seeing the request and the key
source as the decision before left them: the decisions, and the limiter's flow, the request and
the key source after them. -/
def Limiter.Flow.decideAll (f : Limiter.Flow) (r : Request) (k : KeySource) (os : List Outcome) :
    List Decision × Limiter.Flow × Request × KeySource :=
  os.foldl (fun (ds, f, r, k) o =>
    let d := f.decide o (some r) k
    (ds ++ [d.decision], d.flow, d.request.getD r, d.keys)) ([], f, r, k)

/-- The delays a schedule gives for retries after the outcomes in turn, and the cursor and the
generators after them. -/
def Schedule.Cursor.delaysAfter (c : Schedule.Cursor) (g : Array Random.Generator)
    (os : List Outcome) : List Int × Schedule.Cursor × Array Random.Generator :=
  os.foldl (fun (ds, c, g) o =>
    let (d, c', g') := c.delayAfter o g
    (ds ++ [d], c', g')) ([], c, g)

/-- One outcome more is decided from where the others left the limiter, the request and the key
source. -/
theorem Limiter.Flow.decideAll_concat {f f' : Limiter.Flow} {r r' : Request} {k k' : KeySource}
    {os : List Outcome} {ds : List Decision} (h : f.decideAll r k os = (ds, f', r', k'))
    (o : Outcome) :
    f.decideAll r k (os ++ [o]) =
      (ds ++ [(f'.decide o (some r') k').decision], (f'.decide o (some r') k').flow,
        (f'.decide o (some r') k').request.getD r', (f'.decide o (some r') k').keys) := by
  unfold decideAll at h ⊢
  rw [List.foldl_append, h]
  rfl

/-- One retry more takes its delay from where the others left the cursor and the generators. -/
theorem Schedule.Cursor.delaysAfter_concat {c c' : Schedule.Cursor} {g g' : Array Random.Generator}
    {os : List Outcome} {ds : List Int} (h : c.delaysAfter g os = (ds, c', g')) (o : Outcome) :
    c.delaysAfter g (os ++ [o]) =
      (ds ++ [(c'.delayAfter o g').1], (c'.delayAfter o g').2.1, (c'.delayAfter o g').2.2) := by
  unfold delaysAfter at h ⊢
  rw [List.foldl_append, h]
  rfl

namespace Flow

/-- The steps among the answers, in order. -/
def stepsOf (log : List Answer) : List Step := log.filterMap Answer.step?

/-- The steps that retried. -/
def retryStepsOf (log : List Answer) : List Step := (stepsOf log).filter (!·.done)

@[simp] theorem stepsOf_nil : stepsOf [] = [] := rfl

@[simp] theorem stepsOf_append_request (log : List Answer) (q : Request) :
    stepsOf (log ++ [.request q]) = stepsOf log := by
  simp [stepsOf, Answer.step?]

@[simp] theorem stepsOf_append_step (log : List Answer) (s : Step) :
    stepsOf (log ++ [.step s]) = stepsOf log ++ [s] := by
  simp [stepsOf, Answer.step?]

@[simp] theorem retryStepsOf_append_request (log : List Answer) (q : Request) :
    retryStepsOf (log ++ [.request q]) = retryStepsOf log := by
  simp [retryStepsOf]

theorem retryStepsOf_append_step (log : List Answer) (s : Step) :
    retryStepsOf (log ++ [.step s]) = retryStepsOf log ++ (if s.done then [] else [s]) := by
  cases h : s.done <;> simp [retryStepsOf, h]

/-- A step added to steps that end the flow exactly when they do not retry keeps that so, if it
does so itself. -/
theorem done_append_step {log : List Answer} {s : Step}
    (h : ∀ t ∈ stepsOf log, t.done = (t.decision != .retry)) (hs : s.done = (s.decision != .retry)) :
    ∀ t ∈ stepsOf (log ++ [.step s]), t.done = (t.decision != .retry) := by
  intro t ht
  rw [stepsOf_append_step, List.mem_append, List.mem_singleton] at ht
  rcases ht with ht | rfl
  · exact h t ht
  · exact hs

/-- What a flow begun by `o` for request `r`, with the shared state `sh₀` at its start, is after
successful calls that answered `log`. -/
structure Tracks (o : Orchestrator) (r : Request) (sh₀ : Shared) (log : List Answer) (f : Flow)
    (sh : Shared) : Prop where
  /-- The answers spell a word of the protocol that leads to the flow's state. -/
  protocol : log.foldlM FlowState.answer .awaitSend = some f.state
  /-- One attempt per request handed out. -/
  attempts : f.attempts = log.countP Answer.isRequest
  /-- A send is awaited only before the first attempt. -/
  fresh : f.state = .awaitSend ↔ f.attempts = 0
  /-- The retries granted so far, by the state and the attempts. -/
  retries : ((stepsOf log).map Step.decision).count .retry = f.state.retriesAfter f.attempts
  /-- A step ends the flow exactly when its decision is not to retry. -/
  done : ∀ s ∈ stepsOf log, s.done = (s.decision != .retry)
  /-- The last outcome is the last one reported. -/
  last : f.last = ((stepsOf log).map Step.outcome).getLast?
  /-- The limiter has decided every reported outcome once, in turn, on `r` as the decisions
  before left it, and the steps carry its decisions. -/
  limiter : o.limiter.begin.decideAll r sh₀.keys ((stepsOf log).map Step.outcome) =
    ((stepsOf log).map Step.decision, f.limiter, f.request, sh.keys)
  /-- The schedule has given one delay per retry, after observing the retried outcome, and a
  retry waits that delay, or zero for a negative one. -/
  schedule : ∃ ds, o.schedule.begin.delaysAfter sh₀.generators
      ((retryStepsOf log).map Step.outcome) = (ds, f.schedule, sh.generators) ∧
    ds.map (max · 0) = (retryStepsOf log).map Step.delay

/-- How a successful call answers: `next` with the flow's request, a report with a step for the
outcome it reported. -/
def Answers : Call → Answer → Flow → Prop
  | .next, .request q, f => q = f.request
  | .report o, .step s, _ => o = some s.outcome
  | _, _, _ => False

/-! ### What one call keeps -/

section Steps

variable {orch : Orchestrator} {r : Request} {sh₀ : Shared} {log : List Answer} {f : Flow}
  {sh : Shared} {o : Outcome}

/-- A flow that has left its start has made an attempt. -/
theorem Tracks.attempts_ne_zero (h : Tracks orch r sh₀ log f sh) (hs : f.state ≠ .awaitSend) :
    f.attempts ≠ 0 :=
  fun h0 => hs (h.fresh.2 h0)

/-- Handing out the request keeps the flow tracked. -/
theorem Tracks.next (h : Tracks orch r sh₀ log f sh)
    (hs : f.state = .awaitSend ∨ f.state = .delaying) :
    Tracks orch r sh₀ (log ++ [.request f.request])
      { f with state := .awaitOutcome, attempts := f.attempts + 1 } sh where
  protocol := by
    rw [List.foldlM_append, h.protocol]
    rcases hs with hs | hs <;> simp [hs, FlowState.answer]
  attempts := by simp [h.attempts, Answer.isRequest]
  fresh := by simp
  retries := by
    rcases hs with hs | hs
    · -- the first attempt: no retry yet
      have h0 : f.attempts = 0 := h.fresh.1 hs
      simpa [FlowState.retriesAfter, hs, h0] using h.retries
    · simpa [FlowState.retriesAfter, hs] using h.retries
  done := by simpa using h.done
  last := by simpa using h.last
  limiter := by simpa using h.limiter
  schedule := by simpa using h.schedule

/-- A report that the limiter does not retry ends the flow and keeps it tracked. -/
theorem Tracks.final (h : Tracks orch r sh₀ log f sh) (hs : f.state = .awaitOutcome)
    (hd : (f.decideOn o sh).decision ≠ .retry) :
    Tracks orch r sh₀ (log ++ [.step ⟨true, o, (f.decideOn o sh).decision, 0⟩])
      { f with last := some o, limiter := (f.decideOn o sh).flow,
               request := (f.decideOn o sh).request.getD f.request, state := .terminated }
      { sh with keys := (f.decideOn o sh).keys } where
  protocol := by
    rw [List.foldlM_append, h.protocol, hs]
    simp [FlowState.answer]
  attempts := by simp [h.attempts, Answer.isRequest]
  fresh := by simp [h.attempts_ne_zero (by simp [hs])]
  retries := by
    have hr := h.retries
    rw [hs] at hr
    simp [hd, hr, FlowState.retriesAfter]
  done := done_append_step h.done (by simpa using hd)
  last := by simp
  limiter := by
    simp only [stepsOf_append_step, List.map_append, List.map_cons, List.map_nil]
    rw [Limiter.Flow.decideAll_concat h.limiter]
    rfl
  schedule := by simpa [retryStepsOf_append_step] using h.schedule

/-- A report that the limiter retries makes the flow wait and keeps it tracked. -/
theorem Tracks.retry (h : Tracks orch r sh₀ log f sh) (hs : f.state = .awaitOutcome)
    (hd : (f.decideOn o sh).decision = .retry) :
    Tracks orch r sh₀
      (log ++ [.step ⟨false, o, .retry, max (f.schedule.delayAfter o sh.generators).1 0⟩])
      { f with last := some o, limiter := (f.decideOn o sh).flow,
               request := (f.decideOn o sh).request.getD f.request, state := .delaying,
               schedule := (f.schedule.delayAfter o sh.generators).2.1 }
      { sh with keys := (f.decideOn o sh).keys,
                generators := (f.schedule.delayAfter o sh.generators).2.2 } where
  protocol := by
    rw [List.foldlM_append, h.protocol, hs]
    simp [FlowState.answer]
  attempts := by simp [h.attempts, Answer.isRequest]
  fresh := by simp [h.attempts_ne_zero (by simp [hs])]
  retries := by
    have hr := h.retries
    have h0 := h.attempts_ne_zero (by simp [hs])
    rw [hs] at hr
    simp [hr, FlowState.retriesAfter]
    omega
  done := done_append_step h.done rfl
  last := by simp
  limiter := by
    simp only [stepsOf_append_step, List.map_append, List.map_cons, List.map_nil]
    rw [Limiter.Flow.decideAll_concat h.limiter, ← hd]
    rfl
  schedule := by
    obtain ⟨ds, hds, hmax⟩ := h.schedule
    refine ⟨ds ++ [(f.schedule.delayAfter o sh.generators).1], ?_, ?_⟩
    · rw [retryStepsOf_append_step, if_neg Bool.false_ne_true]
      simp only [List.map_append, List.map_cons, List.map_nil]
      rw [Schedule.Cursor.delaysAfter_concat hds]
    · simp [retryStepsOf_append_step, hmax]

/-- A flow begun for `r` is tracked before any call. -/
theorem Tracks.start (hf : orch.begin (some r) = .ok f) (sh₀ : Shared) :
    Tracks orch r sh₀ [] f sh₀ := by
  simp only [Orchestrator.begin, Except.ok.injEq] at hf
  subst hf
  exact { protocol := rfl, attempts := rfl, fresh := by simp, retries := rfl,
          done := by simp, last := rfl, limiter := rfl, schedule := ⟨[], rfl, rfl⟩ }

/-- Every call keeps the flow tracked: a failed one changes nothing, a successful one adds its
answer. -/
theorem Tracks.call (h : Tracks orch r sh₀ log f sh) (c : Call) :
    Tracks orch r sh₀ (log ++ ((Flow.call f sh c).1.toOption).toList) (Flow.call f sh c).2.1
      (Flow.call f sh c).2.2 := by
  rcases call_cases f sh c with ⟨e, he⟩ | ⟨-, hs, he⟩ | ⟨o, -, hs, hd, he⟩ | ⟨o, -, hs, hd, he⟩ <;>
    rw [he]
  · simpa [Except.toOption] using h
  · exact h.next hs
  · exact h.final hs hd
  · exact h.retry hs hd

/-- A successful call answers as `Answers` says. -/
theorem answers_of_call {c : Call} {a : Answer} (h : (Flow.call f sh c).1 = .ok a) :
    Answers c a f := by
  rcases call_cases f sh c with ⟨e, he⟩ | ⟨rfl, -, he⟩ | ⟨o, rfl, -, -, he⟩ | ⟨o, rfl, -, -, he⟩ <;>
    rw [he] at h <;> cases h
  · -- the request handed out is the flow's own
    rfl
  · rfl
  · rfl

end Steps

/-- Every run of a flow begun for `r` is tracked. -/
theorem tracks_run {orch : Orchestrator} {r : Request} {f : Flow}
    (hf : orch.begin (some r) = .ok f) (sh₀ : Shared) (cs : List Call) :
    Tracks orch r sh₀ (run f sh₀ cs).log (run f sh₀ cs).flow (run f sh₀ cs).shared := by
  induction cs using List.reverseRecOn with
  | nil => exact Tracks.start hf sh₀
  | append_singleton cs c ih =>
    rw [run_append_singleton, Run.log_call]
    exact ih.call c

/-- Every run of a flow keeps the protocol, and its limiter and schedule follow from the outcomes
reported. -/
theorem flow_run_follows_protocol (orch : Orchestrator) (r : Request) (f : Flow)
    (hf : orch.begin (some r) = .ok f) (sh : Shared) (cs : List Call) :
    Tracks orch r sh (run f sh cs).log (run f sh cs).flow (run f sh cs).shared ∧
      ∀ c, ((∃ a, (call (run f sh cs).flow (run f sh cs).shared c).1 = .ok a) ↔
          c.InTurn (run f sh cs).flow.state) ∧
        ∀ a, (call (run f sh cs).flow (run f sh cs).shared c).1 = .ok a →
          Answers c a (run f sh cs).flow :=
  ⟨tracks_run hf sh cs, fun c => ⟨call_ok_iff_inTurn c, fun _ h => answers_of_call h⟩⟩

/-- The protocol for a GET request of the default orchestrator, after an attempt that failed to
connect and the request taken again. -/
theorem flow_run_follows_protocol_get :
    let r : Request := { method := "GET", target := "http://example.invalid/" }
    let f : Flow := { request := r, limiter := Orchestrator.default.limiter.begin,
                      schedule := Orchestrator.default.schedule.begin }
    let cs := [Call.next, .report (some (.transport .connect none)), .next]
    let sh : Shared := { keys := .counter }
    Orchestrator.default.begin (some r) = .ok f ∧
      (Tracks Orchestrator.default r sh (run f sh cs).log (run f sh cs).flow (run f sh cs).shared ∧
        ∀ c, ((∃ a, (call (run f sh cs).flow (run f sh cs).shared c).1 = .ok a) ↔
            c.InTurn (run f sh cs).flow.state) ∧
          ∀ a, (call (run f sh cs).flow (run f sh cs).shared c).1 = .ok a →
            Answers c a (run f sh cs).flow) :=
  ⟨rfl, flow_run_follows_protocol _ _ _ rfl _ _⟩

end Flow

end HttpRetry
