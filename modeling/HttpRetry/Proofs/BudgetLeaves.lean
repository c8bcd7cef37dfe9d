import HttpRetry.Limiter.Build
import HttpRetry.Proofs.LimiterCompose

/-!
The budgeted limiters, decision by decision. `maxErrors` and `maxErrorResponses` decide alike
(`Limiter.Flow.Budgeted`): an uncounted outcome passes, a counted one is retried while it may be
and budget is left, and only a retry spends budget (`runOn_budgeted`). Main statement,
`budgeted_limiters_decide`.
-/

namespace HttpRetry

namespace Limiter.Flow

/-- Flows `leaf m`, for `m` retries left, that pass on an outcome they do not count, retry a
counted one that is eligible while budget is left (leaving `m - 1`), and give up on any other,
keeping the request and the key source. -/
def Budgeted (leaf : Nat → Limiter.Flow) (counts eligible : Outcome → Option Request → Bool) :
    Prop :=
  ∀ m o r k, (leaf m).decide o r k =
    if counts o r = false then ⟨.pass, leaf m, r, k⟩
    else if eligible o r = true ∧ 0 < m then ⟨.retry, leaf (m - 1), r, k⟩
    else ⟨.giveUp, leaf m, r, k⟩

theorem budgeted_errorBudget (accepts : Outcome → Bool) :
    Budgeted (errorBudget · accepts) (fun o _ => o.isError) (fun o _ => accepts o) := by
  intro m o r k
  by_cases he : o.isError = false
  · simp [decide, he]
  · by_cases ha : accepts o = true <;> cases m <;> simp_all [decide]

theorem budgeted_responseBudget (codes : List Int) :
    Budgeted (responseBudget · codes) (fun o _ => !o.isError && codes.contains o.status)
      (fun _ r => r.any Request.idempotent) := by
  intro m o r k
  -- only a response with a listed status is counted, and only then is the request read
  cases he : o.isError <;> cases hc : codes.contains o.status <;> simp only [decide, he, hc] <;>
    try simp
  cases r with
  | none => simp
  | some req => by_cases hi : req.idempotent = true <;> cases m <;> simp_all

variable {leaf : Nat → Limiter.Flow} {counts eligible : Outcome → Option Request → Bool}

/-- A run of a budgeted flow with `m` retries left: one decision per step, each read off its step
and the retries granted before it; the flow ends with `m` less the retries, which never pass
`m`. -/
theorem runOn_budgeted (h : Budgeted leaf counts eligible) (m : Nat) (k : KeySource)
    (steps : List (Outcome × Option Request)) :
    ((leaf m).runOn k steps).1.length = steps.length ∧
    (∀ i (hi : i < steps.length), ((leaf m).runOn k steps).1[i]? = some
      (if counts steps[i].1 steps[i].2 = false then .pass
       else if eligible steps[i].1 steps[i].2 = true ∧
          (((leaf m).runOn k steps).1.take i).count .retry < m then .retry
       else .giveUp)) ∧
    ((leaf m).runOn k steps).2 = leaf (m - (((leaf m).runOn k steps).1.count .retry)) ∧
    ((leaf m).runOn k steps).1.count .retry ≤ m := by
  induction steps generalizing m k with
  | nil => simp [runOn]
  | cons step rest ih =>
    obtain ⟨o, r⟩ := step
    -- the first decision, then the rest of the run from the budget it leaves
    by_cases hc : counts o r = false
    · have hd : (leaf m).decide o r k = ⟨.pass, leaf m, r, k⟩ := by rw [h, if_pos hc]
      obtain ⟨hlen, hat, hflow, hle⟩ := ih m k
      simp only [runOn, hd]
      refine ⟨by simp [hlen], ?_, by simpa using hflow, by simpa using hle⟩
      intro i hi
      cases i with
      | zero => simp [hc]
      | succ i => simpa using hat i (by simpa using hi)
    · by_cases he : eligible o r = true ∧ 0 < m
      · have hd : (leaf m).decide o r k = ⟨.retry, leaf (m - 1), r, k⟩ := by
          rw [h, if_neg hc, if_pos he]
        obtain ⟨hlen, hat, hflow, hle⟩ := ih (m - 1) k
        simp only [runOn, hd]
        refine ⟨by simp [hlen], ?_, ?_, ?_⟩
        · intro i hi
          cases i with
          | zero => simp [hc, he]
          | succ i =>
            -- one retry granted already: below `m` exactly when the rest is below `m - 1`
            have hbelow : ∀ c, c + 1 < m ↔ c < m - 1 := fun c => by omega
            simpa [hbelow] using hat i (by simpa using hi)
        · rw [hflow, List.count_cons_self]
          congr 1
          omega
        · rw [List.count_cons_self]
          omega
      · have hd : (leaf m).decide o r k = ⟨.giveUp, leaf m, r, k⟩ := by
          rw [h, if_neg hc, if_neg he]
        obtain ⟨hlen, hat, hflow, hle⟩ := ih m k
        simp only [runOn, hd]
        refine ⟨by simp [hlen], ?_, by simpa using hflow, by simpa using hle⟩
        intro i hi
        cases i with
        | zero => simp [hc, he]
        | succ i => simpa using hat i (by simpa using hi)

/-- Once `m` retries were granted, a budgeted flow grants no more. -/
theorem runOn_budgeted_spent (h : Budgeted leaf counts eligible) (m : Nat) (k : KeySource)
    (steps : List (Outcome × Option Request)) (i : Nat)
    (hspent : m ≤ (((leaf m).runOn k steps).1.take i).count .retry) :
    ((leaf m).runOn k steps).1[i]? ≠ some .retry := by
  obtain ⟨hlen, hat, -, -⟩ := runOn_budgeted h m k steps
  by_cases hi : i < steps.length
  · rw [hat i hi]
    split
    · simp
    · split
      · omega
      · simp
  · -- past the last step there is no decision at all
    rw [List.getElem?_eq_none (by omega)]
    simp

end Limiter.Flow

open Limiter.Flow in
/-- `maxErrors` and `maxErrorResponses` build and decide each outcome from the retries granted
before it, as documented; only retries spend the budget. -/
theorem budgeted_limiters_decide (n : Int) (hn : 0 ≤ n) (c : Outcome → Bool) (codes : List Int)
    (hcodes : ∀ x ∈ codes, 100 ≤ x ∧ x ≤ 599) :
    Limiter.maxErrorsIf n (some c) = .ok (.maxErrors n.toNat c) ∧
    (∀ (k : KeySource) (steps : List (Outcome × Option Request)),
      let ds := ((Limiter.maxErrors n.toNat c).begin.runOn k steps).1
      ds.length = steps.length ∧
      (∀ i (hi : i < steps.length), ds[i]? = some
        (if steps[i].1.isError = false then .pass
         else if c steps[i].1 = true ∧ (ds.take i).count .retry < n.toNat then .retry
         else .giveUp)) ∧
      ((Limiter.maxErrors n.toNat c).begin.runOn k steps).2 =
        .errorBudget (n.toNat - ds.count .retry) c ∧
      ds.count .retry ≤ n.toNat ∧
      (∀ i, n.toNat ≤ (ds.take i).count .retry → ds[i]? ≠ some .retry)) ∧
    Limiter.maxErrorResponsesOf n codes = .ok (.maxErrorResponses n.toNat codes) ∧
    (∀ (k : KeySource) (steps : List (Outcome × Option Request)),
      let ds := ((Limiter.maxErrorResponses n.toNat codes).begin.runOn k steps).1
      ds.length = steps.length ∧
      (∀ i (hi : i < steps.length), ds[i]? = some
        (if steps[i].1.isError = true ∨ steps[i].1.status ∉ codes then .pass
         else if (steps[i].2.any fun q => q.method ∈ ["GET", "HEAD", "PUT", "DELETE", "OPTIONS",
              "TRACE"]) = true ∧ (ds.take i).count .retry < n.toNat then .retry
         else .giveUp)) ∧
      ((Limiter.maxErrorResponses n.toNat codes).begin.runOn k steps).2 =
        .responseBudget (n.toNat - ds.count .retry) codes ∧
      ds.count .retry ≤ n.toNat ∧
      (∀ i, n.toNat ≤ (ds.take i).count .retry → ds[i]? ≠ some .retry)) := by
  have herr := budgeted_errorBudget c
  have hresp := budgeted_responseBudget codes
  refine ⟨?_, fun k steps => ?_, ?_, fun k steps => ?_⟩
  · simp only [Limiter.maxErrorsIf, requireNonNegative_of_nonneg hn]
    rfl
  · obtain ⟨hlen, hat, hflow, hle⟩ := runOn_budgeted herr n.toNat k steps
    exact ⟨hlen, hat, hflow, hle, runOn_budgeted_spent herr n.toNat k steps⟩
  · -- no listed code is out of range, so none is refused
    have hnone : codes.find? (fun x => x < 100 || x > 599) = none := by
      rw [List.find?_eq_none]
      intro x hx
      have := hcodes x hx
      simp only [Bool.or_eq_true, decide_eq_true_eq, not_or, Int.not_lt]
      omega
    simp only [Limiter.maxErrorResponsesOf, requireNonNegative_of_nonneg hn, hnone]
    rfl
  · have hbegin : (Limiter.maxErrorResponses n.toNat codes).begin = .responseBudget n.toNat codes :=
      rfl
    obtain ⟨hlen, hat, hflow, hle⟩ := runOn_budgeted hresp n.toNat k steps
    refine ⟨hlen, fun i hi => ?_, hflow, hle, runOn_budgeted_spent hresp n.toNat k steps⟩
    rw [hbegin, hat i hi]
    -- a response is counted exactly when its status is listed
    have hcounted : ∀ o : Outcome, (!o.isError && codes.contains o.status) = false ↔
        o.isError = true ∨ o.status ∉ codes := by
      intro o
      cases o.isError <;> simp
    -- the request may be repeated exactly when its method is one of the six
    have hidem : ∀ r : Option Request, r.any Request.idempotent =
        r.any fun q => q.method ∈ ["GET", "HEAD", "PUT", "DELETE", "OPTIONS", "TRACE"] := by
      intro r
      cases r <;> simp [Request.idempotent, isIdempotent, idempotentMethods]
    simp only [hcounted, hidem]

/-- Two retries for refused connections: the third refusal in a row is not retried. -/
theorem budgeted_limiters_decide_two :
    let refused : Outcome := .transport .connect none
    (0 : Int) ≤ 2 ∧ (∀ x ∈ [503], 100 ≤ x ∧ x ≤ 599) ∧
      Limiter.maxErrorsIf 2 (some Outcome.retryable) = .ok (.maxErrors 2 Outcome.retryable) ∧
      ((Limiter.maxErrors 2 Outcome.retryable).begin.runOn .counter
        [(refused, none), (refused, none), (refused, none)]).1[2]? ≠ some .retry := by
  intro refused
  obtain ⟨hbuild, hrun, -⟩ :=
    budgeted_limiters_decide 2 (by decide) Outcome.retryable [503] (by decide)
  refine ⟨by decide, by decide, hbuild, ?_⟩
  exact (hrun .counter [(refused, none), (refused, none), (refused, none)]).2.2.2.2 2 (by decide)

end HttpRetry
