import HttpRetry.Proofs.FlowCalls
import HttpRetry.Proofs.LimiterCompose

/-!
How many retries a limiter can grant, and so how many attempts a flow can make. No decision
raises a flow's budget and a retry lowers it by one (`decide_budget`), so the retries never pass
`Limiter.retryBound`; for the flow, attempts, budget and a pending request add up to no more than
at the start (`call_potential_le`). Main statement, `limiter_retries_within_bound`.
-/

namespace HttpRetry

/-- The retries a limiter's flow may still grant. -/
def Limiter.Flow.budget : Limiter.Flow → Nat
  | .giveUp => 0
  | .errorBudget n _ => n
  | .responseBudget n _ => n
  | .both a b => a.budget + b.budget
  | .either a b => a.budget + b.budget
  | .marking f _ _ => f.budget

/-- One for a retry, none for any other decision. -/
def Decision.retryCount (d : Decision) : Nat := if d == .retry then 1 else 0

theorem Limiter.begin_budget (l : Limiter) : l.begin.budget = l.retryBound := by
  induction l with
  | dontRetry => rfl
  | maxErrors n accepts => rfl
  | maxErrorResponses n codes => rfl
  | both a b iha ihb | either a b iha ihb =>
    simp [Limiter.begin, Limiter.Flow.budget, Limiter.retryBound, iha, ihb]
  | marking l m ih => simp [Limiter.begin, Limiter.Flow.budget, Limiter.retryBound, ih]

namespace Decision

/-- A combination that must agree retries only when one part retries. -/
theorem retryCount_both (x y : Decision) :
    (both x y).retryCount ≤ x.retryCount + y.retryCount := by
  cases x <;> cases y <;> decide

/-- A combination where one part suffices retries only when one part retries. -/
theorem retryCount_either (x y : Decision) :
    (either x y).retryCount ≤ x.retryCount + y.retryCount := by
  cases x <;> cases y <;> decide

end Decision

namespace Limiter.Flow

/-- A decision never raises the budget, and a retry lowers it by one. -/
theorem decide_budget (f : Limiter.Flow) (o : Outcome) (r : Option Request) (k : KeySource) :
    (f.decide o r k).flow.budget + (f.decide o r k).decision.retryCount ≤ f.budget := by
  induction f generalizing r k with
  | giveUp => simp [decide, budget, Decision.retryCount]
  | errorBudget n accepts =>
    simp only [decide]
    split
    · simp [budget, Decision.retryCount]
    · split
      · simp [budget, Decision.retryCount]
      · -- a retry is granted only from a budget that is not spent
        rename_i hn
        have hn0 : n ≠ 0 := by simp_all
        simp [budget, Decision.retryCount]
        omega
  | responseBudget n codes =>
    simp only [decide]
    split
    · simp [budget, Decision.retryCount]
    · split
      · split
        · simp [budget, Decision.retryCount]
        · rename_i hn
          have hn0 : n ≠ 0 := by simp_all
          simp [budget, Decision.retryCount]
          omega
      · simp [budget, Decision.retryCount]
  | both a b iha ihb =>
    have hx := iha r k
    have hy := ihb (a.decide o r k).request (a.decide o r k).keys
    have hc := Decision.retryCount_both (a.decide o r k).decision
      (b.decide o (a.decide o r k).request (a.decide o r k).keys).decision
    simp only [decide, budget] at hc ⊢
    omega
  | either a b iha ihb =>
    have hx := iha r k
    have hy := ihb (a.decide o r k).request (a.decide o r k).keys
    have hc := Decision.retryCount_either (a.decide o r k).decision
      (b.decide o (a.decide o r k).request (a.decide o r k).keys).decision
    simp only [decide, budget] at hc ⊢
    omega
  | marking inner m n ih =>
    -- a marking flow decides as its inner flow and keeps its budget
    obtain ⟨hd, hf⟩ := decide_marking inner m n o r k
    rw [hd, hf]
    exact ih r k

/-- Over any outcomes and requests, the retries granted and the budget left never pass the budget
at the start. -/
theorem runOn_retries_le (f : Limiter.Flow) (k : KeySource)
    (steps : List (Outcome × Option Request)) :
    (f.runOn k steps).1.count .retry + (f.runOn k steps).2.budget ≤ f.budget := by
  induction steps generalizing f k with
  | nil => simp [runOn]
  | cons step rest ih =>
    obtain ⟨o, r⟩ := step
    have hstep := decide_budget f o r k
    have hrest := ih (f.decide o r k).flow (f.decide o r k).keys
    simp only [runOn, List.count_cons] at hrest ⊢
    simp only [Decision.retryCount] at hstep
    omega

end Limiter.Flow

/-- The attempts a flow may still start without a retry: one while it awaits a send or waits,
none otherwise. -/
def FlowState.openAttempts : FlowState → Nat
  | .awaitSend | .delaying => 1
  | .awaitOutcome | .terminated => 0

namespace Flow

/-- What bounds a flow's attempts: those it made, the retries its limiter may still grant, and
the attempt it may still start without one. -/
def potential (f : Flow) : Nat := f.attempts + f.limiter.budget + f.state.openAttempts

/-- The calls of a send loop that meets the outcomes in turn: take the request, report the
outcome. -/
def Call.rounds (os : List Outcome) : List Call := os.flatMap fun o => [.next, .report (some o)]

/-- No call raises a flow's potential: an attempt uses up the one open attempt, and a retry that
opens another is paid from the limiter's budget. -/
theorem call_potential_le (f : Flow) (sh : Shared) (c : Call) :
    (call f sh c).2.1.potential ≤ f.potential := by
  rcases call_cases f sh c with ⟨e, he⟩ | ⟨-, hs, he⟩ | ⟨o, -, hs, hd, he⟩ | ⟨o, -, hs, hd, he⟩ <;>
    simp only [he]
  · exact Nat.le_refl _
  · -- the open attempt is taken
    rcases hs with hs | hs <;> simp [potential, FlowState.openAttempts, hs] <;> omega
  · -- the flow ends: no attempt opens, and the limiter's budget does not rise
    have hb := Limiter.Flow.decide_budget f.limiter o (some f.request) sh.keys
    simp [potential, FlowState.openAttempts, hs, decideOn] at hb ⊢
    omega
  · -- the retry opens an attempt, paid for by the budget
    have hb := Limiter.Flow.decide_budget f.limiter o (some f.request) sh.keys
    simp only [decideOn] at hd
    simp [potential, FlowState.openAttempts, hs, decideOn, Decision.retryCount, hd] at hb ⊢
    omega

/-- No run raises a flow's potential. -/
theorem run_potential_le (f : Flow) (sh : Shared) (cs : List Call) :
    (run f sh cs).flow.potential ≤ f.potential := by
  induction cs using List.reverseRecOn with
  | nil => simp
  | append_singleton cs c ih =>
    rw [run_append_singleton, Run.call_flow]
    exact Nat.le_trans (call_potential_le _ _ c) ih

/-- A flow that may take its request, with fewer retries left than outcomes to meet, ends within
the rounds of a send loop over those outcomes. -/
theorem run_rounds_terminated (os : List Outcome) (f : Flow) (sh : Shared)
    (hs : f.state = .awaitSend ∨ f.state = .delaying) (hlen : f.limiter.budget + 1 ≤ os.length) :
    (run f sh (Call.rounds os)).flow.state = .terminated := by
  induction os generalizing f sh with
  | nil => simp at hlen
  | cons o os ih =>
    have hcalls : Call.rounds (o :: os) = .next :: .report (some o) :: Call.rounds os := by
      simp [Call.rounds]
    -- the round's request is taken, then its outcome reported
    rw [hcalls, run_cons, run_cons, call_next_ready hs]
    simp only
    have hs1 : ({ f with state := .awaitOutcome, attempts := f.attempts + 1 } : Flow).state =
        .awaitOutcome := rfl
    have hb := Limiter.Flow.decide_budget f.limiter o (some f.request) sh.keys
    -- taking the request changes neither the limiter nor the request it decides on
    by_cases hd : (f.decideOn o sh).decision = .retry
    · -- a retry: the budget fell by one, and one outcome fewer is left
      rw [call_report_retry hs1 hd]
      apply ih _ _ (.inr rfl)
      simp only [decideOn] at hd
      simp [decideOn, Decision.retryCount, hd] at hb ⊢
      simp at hlen
      omega
    · -- the flow ends here and stays ended
      rw [call_report_final hs1 hd]
      rw [(run_of_terminated rfl _).1]

end Flow

/-- A limiter retries at most `retryBound` times, and a flow over it makes at most one attempt
more. -/
theorem limiter_retries_within_bound (l : Limiter) :
    (∀ (k : KeySource) (s : Nat → Outcome × Option Request) (n : Nat),
      (l.begin.runOn k ((List.range n).map s)).1.count .retry ≤ l.retryBound) ∧
    ∀ (sched : Schedule) (r : Request) (f : Flow), (Orchestrator.mk l sched).begin (some r) = .ok f →
      ∀ sh : Shared,
        (∀ cs, (Flow.run f sh cs).flow.attempts ≤ l.retryBound + 1 ∧
          ((Flow.run f sh cs).flow.state = .delaying →
            (Flow.run f sh cs).flow.attempts ≤ l.retryBound)) ∧
        ∀ os : List Outcome, l.retryBound + 1 ≤ os.length →
          (Flow.run f sh (Flow.Call.rounds os)).flow.state = .terminated := by
  refine ⟨fun k s n => ?_, fun sched r f hf sh => ⟨fun cs => ?_, fun os hlen => ?_⟩⟩
  · have h := Limiter.Flow.runOn_retries_le l.begin k ((List.range n).map s)
    rw [Limiter.begin_budget] at h
    omega
  · simp only [Orchestrator.begin, Except.ok.injEq] at hf
    subst hf
    have h := Flow.run_potential_le { request := r, limiter := l.begin, schedule := sched.begin } sh cs
    simp only [Flow.potential, Limiter.begin_budget] at h
    -- a waiting flow still has its open attempt counted
    cases hs : (Flow.run _ sh cs).flow.state <;>
      simp [hs, FlowState.openAttempts] at h ⊢ <;> omega
  · simp only [Orchestrator.begin, Except.ok.injEq] at hf
    subst hf
    exact Flow.run_rounds_terminated os _ sh (.inl rfl) (by rw [Limiter.begin_budget]; exact hlen)

end HttpRetry
