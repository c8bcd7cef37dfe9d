import Mathlib.Data.List.Induction
import HttpRetry.Orchestrator

/-!
Driving a flow by calls. `Flow.call` is one `next` or `report` on the flow and the shared state;
a call that fails fails with a `UsageError` and leaves both as they were, and `Flow.run` makes
calls in turn, collecting the answers. Main statement, `call_fails_iff_out_of_turn`.
-/

namespace HttpRetry

/-- A retry's delay as a flow takes it from its schedule: the cursor observes the outcome, if it
takes note of outcomes, and then gives its next delay. -/
def Schedule.Cursor.delayAfter (c : Schedule.Cursor) (o : Outcome) (g : Array Random.Generator) :
    Int × Schedule.Cursor × Array Random.Generator :=
  (if c.observes then c.observe (some o) else c).next g

namespace Flow

/-- A call a send loop makes on a flow. -/
inductive Call where
  | next
  | report (o : Option Outcome)

/-- What a successful call answers: the request to send, or the step a report decides. -/
inductive Answer where
  | request (r : Request)
  | step (s : Step)

/-- The answer hands out a request. -/
def Answer.isRequest : Answer → Bool
  | .request _ => true
  | .step _ => false

/-- The step of an answer to a report. -/
def Answer.step? : Answer → Option Step
  | .request _ => none
  | .step s => some s

/-- One call on a flow and the shared state; a failed call keeps both. -/
def call (f : Flow) (sh : Shared) : Call → Except UsageError Answer × Flow × Shared
  | .next =>
    match f.next with
    | .ok (r, f') => (.ok (.request r), f', sh)
    | .error e => (.error e, f, sh)
  | .report o =>
    match f.report o sh with
    | .ok (s, f', sh') => (.ok (.step s), f', sh')
    | .error e => (.error e, f, sh)

/-- Calls made so far: their answers in order, and the flow and the shared state after them. -/
structure Run where
  answers : List (Except UsageError Answer)
  flow : Flow
  shared : Shared

/-- One call more. -/
def Run.call (run : Run) (c : Call) : Run :=
  let (a, f, sh) := Flow.call run.flow run.shared c
  ⟨run.answers ++ [a], f, sh⟩

/-- The answers of the calls that succeeded, in order. -/
def Run.log (run : Run) : List Answer := run.answers.filterMap Except.toOption

/-- Makes the calls in turn. -/
def run (f : Flow) (sh : Shared) (cs : List Call) : Run := cs.foldl Run.call ⟨[], f, sh⟩

/-- What the flow's limiter decides on an outcome for the flow's request. -/
def decideOn (f : Flow) (o : Outcome) (sh : Shared) : Decided :=
  f.limiter.decide o (some f.request) sh.keys

/-! ### One call -/

/-- A state that neither awaits a send nor waits awaits an outcome or has ended. -/
theorem FlowState.busy_of_not_ready {st : FlowState} (h : ¬(st = .awaitSend ∨ st = .delaying)) :
    st = .awaitOutcome ∨ st = .terminated := by
  cases st <;> simp_all

/-- The calls the protocol expects in a state: the request while a send is awaited or a retry
waits, a report with an outcome while an outcome is awaited. -/
def Call.InTurn : Call → FlowState → Prop
  | .next, st => st = .awaitSend ∨ st = .delaying
  | .report (some _), st => st = .awaitOutcome
  | .report none, _ => False

section Call

variable {f : Flow} {sh : Shared} {o : Outcome}

theorem call_next_ready (h : f.state = .awaitSend ∨ f.state = .delaying) :
    call f sh .next =
      (.ok (.request f.request), { f with state := .awaitOutcome, attempts := f.attempts + 1 }, sh) := by
  rcases h with h | h <;> simp [call, Flow.next, h]

theorem call_next_busy (h : f.state = .awaitOutcome ∨ f.state = .terminated) :
    call f sh .next = (.error ⟨"Next", f.state⟩, f, sh) := by
  rcases h with h | h <;> simp [call, Flow.next, h]

theorem call_report_out_of_turn {o : Option Outcome} (h : f.state ≠ .awaitOutcome) :
    call f sh (.report o) = (.error ⟨"Report", f.state⟩, f, sh) := by
  simp [call, Flow.report, h]

theorem call_report_none (h : f.state = .awaitOutcome) :
    call f sh (.report none) = (.error ⟨"Report(nil)", .awaitOutcome⟩, f, sh) := by
  simp [call, Flow.report, h]

/-- A report whose outcome the limiter does not retry ends the flow. -/
theorem call_report_final (h : f.state = .awaitOutcome) (hd : (f.decideOn o sh).decision ≠ .retry) :
    call f sh (.report (some o)) =
      (.ok (.step ⟨true, o, (f.decideOn o sh).decision, 0⟩),
        { f with last := some o, limiter := (f.decideOn o sh).flow,
                 request := (f.decideOn o sh).request.getD f.request, state := .terminated },
        { sh with keys := (f.decideOn o sh).keys }) := by
  simp only [decideOn] at hd
  simp [call, Flow.report, decideOn, h, hd]

/-- A report whose outcome the limiter retries waits for the schedule's delay, taken after the
schedule has observed the outcome and never below zero. -/
theorem call_report_retry (h : f.state = .awaitOutcome) (hd : (f.decideOn o sh).decision = .retry) :
    call f sh (.report (some o)) =
      (.ok (.step ⟨false, o, .retry, max (f.schedule.delayAfter o sh.generators).1 0⟩),
        { f with last := some o, limiter := (f.decideOn o sh).flow,
                 request := (f.decideOn o sh).request.getD f.request, state := .delaying,
                 schedule := (f.schedule.delayAfter o sh.generators).2.1 },
        { sh with keys := (f.decideOn o sh).keys,
                  generators := (f.schedule.delayAfter o sh.generators).2.2 }) := by
  simp only [decideOn] at hd
  simp [call, Flow.report, decideOn, Schedule.Cursor.delayAfter, h, hd]

/-- A failed call keeps the flow and the shared state. -/
theorem call_keeps_of_error {c : Call} {e : UsageError} (h : (call f sh c).1 = .error e) :
    (call f sh c).2 = (f, sh) := by
  cases c with
  | next =>
    simp only [call] at h ⊢
    split <;> simp_all
  | report o =>
    simp only [call] at h ⊢
    split <;> simp_all

/-- Everything a call can do: fail and keep the flow and the shared state; hand out the request;
end the flow on a reported outcome the limiter does not retry; or make it wait on one it
retries. -/
theorem call_cases (f : Flow) (sh : Shared) (c : Call) :
    (∃ e, call f sh c = (.error e, f, sh)) ∨
    (c = .next ∧ (f.state = .awaitSend ∨ f.state = .delaying) ∧
      call f sh c =
        (.ok (.request f.request), { f with state := .awaitOutcome, attempts := f.attempts + 1 },
          sh)) ∨
    (∃ o, c = .report (some o) ∧ f.state = .awaitOutcome ∧ (f.decideOn o sh).decision ≠ .retry ∧
      call f sh c =
        (.ok (.step ⟨true, o, (f.decideOn o sh).decision, 0⟩),
          { f with last := some o, limiter := (f.decideOn o sh).flow,
                   request := (f.decideOn o sh).request.getD f.request, state := .terminated },
          { sh with keys := (f.decideOn o sh).keys })) ∨
    (∃ o, c = .report (some o) ∧ f.state = .awaitOutcome ∧ (f.decideOn o sh).decision = .retry ∧
      call f sh c =
        (.ok (.step ⟨false, o, .retry, max (f.schedule.delayAfter o sh.generators).1 0⟩),
          { f with last := some o, limiter := (f.decideOn o sh).flow,
                   request := (f.decideOn o sh).request.getD f.request, state := .delaying,
                   schedule := (f.schedule.delayAfter o sh.generators).2.1 },
          { sh with keys := (f.decideOn o sh).keys,
                    generators := (f.schedule.delayAfter o sh.generators).2.2 })) := by
  cases c with
  | next =>
    by_cases hs : f.state = .awaitSend ∨ f.state = .delaying
    · exact .inr (.inl ⟨rfl, hs, call_next_ready hs⟩)
    · exact .inl ⟨_, call_next_busy (FlowState.busy_of_not_ready hs)⟩
  | report o =>
    by_cases hs : f.state = .awaitOutcome
    · cases o with
      | none => exact .inl ⟨_, call_report_none hs⟩
      | some o =>
        by_cases hd : (f.decideOn o sh).decision = .retry
        · exact .inr (.inr (.inr ⟨o, rfl, hs, hd, call_report_retry hs hd⟩))
        · exact .inr (.inr (.inl ⟨o, rfl, hs, hd, call_report_final hs hd⟩))
    · exact .inl ⟨_, call_report_out_of_turn hs⟩

/-- A call succeeds exactly when the protocol expects it. -/
theorem call_ok_iff_inTurn (c : Call) : (∃ a, (call f sh c).1 = .ok a) ↔ c.InTurn f.state := by
  constructor
  · rintro ⟨a, h⟩
    rcases call_cases f sh c with ⟨e, he⟩ | ⟨rfl, hs, -⟩ | ⟨o, rfl, hs, -, -⟩ | ⟨o, rfl, hs, -, -⟩
    · rw [he] at h
      cases h
    · exact hs
    · exact hs
    · exact hs
  · intro hc
    cases c with
    | next => exact ⟨_, by rw [call_next_ready hc]⟩
    | report o =>
      cases o with
      | none => exact hc.elim
      | some o =>
        by_cases hd : (f.decideOn o sh).decision = .retry
        · exact ⟨_, by rw [call_report_retry hc hd]⟩
        · exact ⟨_, by rw [call_report_final hc hd]⟩

end Call

/-- A call fails exactly when out of turn, with a usage error naming the call and the state, and
changes nothing. -/
theorem call_fails_iff_out_of_turn (f : Flow) (sh : Shared) :
    (∀ e, (call f sh .next).1 = .error e ↔
      (f.state = .awaitOutcome ∨ f.state = .terminated) ∧ e = ⟨"Next", f.state⟩) ∧
    (∀ o e, (call f sh (.report o)).1 = .error e ↔
      (f.state ≠ .awaitOutcome ∧ e = ⟨"Report", f.state⟩) ∨
        (f.state = .awaitOutcome ∧ o = none ∧ e = ⟨"Report(nil)", .awaitOutcome⟩)) ∧
    (∀ c e, (call f sh c).1 = .error e → Fault.outOfOrder ∈ e.unwrap.chain) ∧
    (∀ c e, (call f sh c).1 = .error e → (call f sh c).2 = (f, sh)) := by
  refine ⟨fun e => ?_, fun o e => ?_, fun _ e _ => by simp [UsageError.unwrap, Fault.chain],
    fun c e => call_keeps_of_error⟩
  · -- `next`: ready in two states, busy in the other two
    by_cases hs : f.state = .awaitSend ∨ f.state = .delaying
    · rw [call_next_ready hs]
      refine ⟨fun h => (nomatch h), fun ⟨hb, _⟩ => ?_⟩
      rcases hs with hs | hs <;> rcases hb with hb | hb <;> rw [hs] at hb <;> cases hb
    · have hb := FlowState.busy_of_not_ready hs
      rw [call_next_busy hb]
      exact ⟨fun h => ⟨hb, (Except.error.inj h).symm⟩, fun ⟨_, he⟩ => by rw [he]⟩
  · -- `report`: the state is checked first, then the outcome
    by_cases hs : f.state = .awaitOutcome
    · cases o with
      | none =>
        rw [call_report_none hs]
        refine ⟨fun h => .inr ⟨hs, rfl, (Except.error.inj h).symm⟩, ?_⟩
        rintro (⟨hne, -⟩ | ⟨-, -, he⟩)
        · exact absurd hs hne
        · rw [he]
      | some o =>
        -- an outcome in turn is decided, never refused
        have hok : ∃ a, (call f sh (.report (some o))).1 = .ok a := (call_ok_iff_inTurn _).2 hs
        obtain ⟨a, ha⟩ := hok
        rw [ha]
        refine ⟨fun h => (nomatch h), ?_⟩
        rintro (⟨hne, -⟩ | ⟨-, hno, -⟩)
        · exact absurd hs hne
        · cases hno
    · rw [call_report_out_of_turn hs]
      refine ⟨fun h => .inl ⟨hs, (Except.error.inj h).symm⟩, ?_⟩
      rintro (⟨-, he⟩ | ⟨hs', -, -⟩)
      · rw [he]
      · exact absurd hs' hs

/-! ### Runs -/

section Runs

variable {f : Flow} {sh : Shared}

@[simp] theorem run_nil : run f sh [] = ⟨[], f, sh⟩ := rfl

@[simp] theorem run_append_singleton (cs : List Call) (c : Call) :
    run f sh (cs ++ [c]) = (run f sh cs).call c := by
  simp [run, List.foldl_append]

@[simp] theorem Run.call_flow (r : Run) (c : Call) :
    (r.call c).flow = (Flow.call r.flow r.shared c).2.1 :=
  rfl

@[simp] theorem Run.call_shared (r : Run) (c : Call) :
    (r.call c).shared = (Flow.call r.flow r.shared c).2.2 :=
  rfl

@[simp] theorem Run.log_call (r : Run) (c : Call) :
    (r.call c).log = r.log ++ ((Flow.call r.flow r.shared c).1.toOption).toList := by
  simp only [Run.log, Run.call, List.filterMap_append, List.filterMap_cons, List.filterMap_nil]
  cases (Flow.call r.flow r.shared c).1.toOption <;> rfl

/-- Calls made after earlier answers add their answers after those. -/
theorem foldl_call (as : List (Except UsageError Answer)) (g : Flow) (sh' : Shared)
    (cs : List Call) :
    cs.foldl Run.call ⟨as, g, sh'⟩ =
      ⟨as ++ (run g sh' cs).answers, (run g sh' cs).flow, (run g sh' cs).shared⟩ := by
  induction cs using List.reverseRecOn with
  | nil => simp [run]
  | append_singleton cs c ih =>
    rw [List.foldl_append, ih, run_append_singleton]
    simp [Run.call]

/-- A run that starts with a call goes on from where that call left the flow. -/
theorem run_cons (c : Call) (cs : List Call) :
    run f sh (c :: cs) =
      ⟨(call f sh c).1 :: (run (call f sh c).2.1 (call f sh c).2.2 cs).answers,
        (run (call f sh c).2.1 (call f sh c).2.2 cs).flow,
        (run (call f sh c).2.1 (call f sh c).2.2 cs).shared⟩ := by
  simp only [run, List.foldl_cons]
  exact foldl_call _ _ _ cs

/-- A flow that has ended stays ended: every later call fails and changes nothing. -/
theorem run_of_terminated (h : f.state = .terminated) (cs : List Call) :
    (run f sh cs).flow = f ∧ (run f sh cs).shared = sh ∧ (run f sh cs).log = [] := by
  induction cs using List.reverseRecOn with
  | nil => simp [Run.log]
  | append_singleton cs c ih =>
    obtain ⟨hf, hsh, hlog⟩ := ih
    -- the call finds the ended flow, so it fails and keeps the flow
    have hfail : (call f sh c).1.toOption = none ∧ (call f sh c).2 = (f, sh) := by
      cases c with
      | next => simp [call_next_busy (.inr h), Except.toOption]
      | report o =>
        have hs : f.state ≠ .awaitOutcome := by simp [h]
        simp [call_report_out_of_turn (o := o) hs, Except.toOption]
    simp [hf, hsh, hlog, hfail]

end Runs

end Flow

end HttpRetry
