import HttpRetry.Proofs.EventSnapshots

/-!
The deadline each attempt gets. A timeout policy answers from the execution as the send loop
leaves it between attempts: the previous attempt's failure and the number of timed-out attempts
(`SendRun.Attempted.reads`), so the deadline follows the outcomes alone. Main statement,
`attempt_deadlines`.
-/

namespace HttpRetry

namespace TimeoutPolicy

variable (p : TimeoutPolicy)

/-- A policy is built exactly from deadlines that are all positive. -/
theorem of_eq_ok_iff (usual : Int) (after : List Int) :
    of usual after = .ok p ↔ (∀ d ∈ usual :: after, 0 < d) ∧ p = ⟨usual, after⟩ := by
  unfold of
  split
  · rename_i hpos
    simp only [List.all_eq_true, decide_eq_true_eq, gt_iff_lt] at hpos
    simp only [Except.ok.injEq]
    exact ⟨fun h => ⟨hpos, h.symm⟩, fun h => h.2.symm⟩
  · rename_i hpos
    simp only [List.all_eq_true, decide_eq_true_eq, gt_iff_lt, not_forall] at hpos
    obtain ⟨d, hd, hneg⟩ := hpos
    simp only [reduceCtorEq, false_iff, not_and]
    exact fun hall => absurd (hall d hd) hneg

/-- With a count that is not negative the policy answers: the usual deadline after anything but
a timeout, and after a timeout the deadline for that many timeouts, the last one for any more. -/
theorem deadlineFor_ofNat (err : Option Fault) (t : Nat) :
    p.deadlineFor err t = .ok (if err.any Fault.isTimeout then
      (p.usual :: p.after).getD (min t p.after.length) p.usual else p.usual) := by
  unfold deadlineFor
  by_cases ht : err.any Fault.isTimeout = true
  · have hmin : min (t : Int) p.after.length = ((min t p.after.length : Nat) : Int) := by omega
    simp only [ht, Bool.not_true, Bool.false_eq_true, ↓reduceIte, hmin]
    rw [if_neg (by omega), Int.toNat_natCast]
  · simp [ht]

/-- Called with any count, the policy answers one of its deadlines, and fails exactly when the
failure is a timeout and the count negative: an index out of range, naming the count. -/
theorem deadlineFor_cases (err : Option Fault) (t : Int) :
    (∀ d, p.deadlineFor err t = .ok d → d ∈ p.usual :: p.after) ∧
    ((∃ e, p.deadlineFor err t = .error e) ↔ err.any Fault.isTimeout ∧ t < 0) ∧
    (err.any Fault.isTimeout ∧ t < 0 →
      p.deadlineFor err t = .error (.crash ("runtime error: index out of range [" ++ toString t ++ "]"))) := by
  by_cases ht : err.any Fault.isTimeout = true
  · by_cases hneg : t < 0
    · -- a negative count stays below every index
      have hmin : min t p.after.length = t := by omega
      have hfail : p.deadlineFor err t =
          .error (.crash ("runtime error: index out of range [" ++ toString t ++ "]")) := by
        simp [deadlineFor, ht, hmin, hneg]
      refine ⟨fun d hd => ?_, ⟨fun _ => ⟨ht, hneg⟩, fun _ => ⟨_, hfail⟩⟩, fun _ => hfail⟩
      rw [hfail] at hd
      cases hd
    · obtain ⟨n, rfl⟩ := Int.eq_ofNat_of_zero_le (Int.not_lt.1 hneg)
      rw [deadlineFor_ofNat, if_pos ht]
      refine ⟨fun d hd => ?_, by simp [hneg], fun h => absurd h.2 hneg⟩
      cases hd
      have hlt : min n p.after.length < (p.usual :: p.after).length := by
        rw [List.length_cons]
        omega
      rw [List.getD_eq_getElem?_getD, List.getElem?_eq_getElem hlt, Option.getD_some]
      exact List.getElem_mem _
  · have husual : p.deadlineFor err t = .ok p.usual := by simp [deadlineFor, ht]
    refine ⟨fun d hd => ?_, by simp [husual, ht], fun h => absurd h.1 ht⟩
    rw [husual] at hd
    cases hd
    exact List.mem_cons_self

end TimeoutPolicy

open SendRun in
/-- Every attempt of every run gets `p.usual` first, then `P[min t m]` after a timeout, `t`
timeouts so far; the policy fails only on a timeout with a negative count. -/
theorem attempt_deadlines (p : TimeoutPolicy) :
    (∀ (o : Orchestrator) (ctx : CallerContext) (r : Request) (transport : Nat → Reply)
        (keys : KeySource) (clock : Nat → Int),
      let run := sendRequest o ctx r transport keys clock
      let outs := run.settledOutcomes ctx transport
      (run.deadlines p).length = run.sent.length ∧
      (run.deadlines p).head? = some (.ok p.usual) ∧
      ∀ j < run.sent.length, (run.deadlines p)[j]? = some (.ok
        (if (outs.take j).getLast?.any Outcome.timedOut then
          (p.usual :: p.after).getD (min ((outs.take j).countP Outcome.timedOut) p.after.length)
            p.usual
        else p.usual))) ∧
    ∀ (err : Option Fault) (t : Int),
      (∀ d, p.deadlineFor err t = .ok d → d ∈ p.usual :: p.after) ∧
      ((∃ e, p.deadlineFor err t = .error e) ↔ err.any Fault.isTimeout ∧ t < 0) ∧
      (err.any Fault.isTimeout ∧ t < 0 →
        p.deadlineFor err t =
          .error (.crash ("runtime error: index out of range [" ++ toString t ++ "]"))) := by
  refine ⟨fun o ctx r transport keys clock => ?_, p.deadlineFor_cases⟩
  intro run outs
  obtain ⟨s, hready, hh, hr, hstop⟩ := sendRequest_last_round
    (Recorded ctx transport { id := (keys.uuid).1, request := r, start := some (clock 0) }) o ctx
    r transport keys (clock 0) (Recorded.begin o r keys (clock 0))
    (fun _ _ hready hh hr hagain => hr.again hh hready hagain)
  have ha := (hr.stop hh hready hstop).toAttempted
  have hrun : run = (runAttempts ctx transport (o.limiter.retryBound + 1)
      (SendRun.begin o r keys (clock 0))).finish (clock 1) := rfl
  -- what the policy read before each attempt: the failure of the one before, and the timeouts
  have hreads := ha.reads
  rw [← finish_deadlineReads _ (clock 1), ← finish_sent _ (clock 1),
    ← finish_settledOutcomes ctx transport _ (clock 1), ← hrun] at hreads
  have hlen : run.deadlineReads.length = run.sent.length := by
    simpa using congrArg List.length hreads
  -- the deadline of the `j`-th attempt, from what the policy read before it
  have hat : ∀ j < run.sent.length, (run.deadlines p)[j]? = some (.ok
      (if (outs.take j).getLast?.any Outcome.timedOut then
        (p.usual :: p.after).getD (min ((outs.take j).countP Outcome.timedOut) p.after.length)
          p.usual
      else p.usual)) := by
    intro j hj
    have hj' : j < run.deadlineReads.length := by omega
    have hread := congrArg (·[j]?) hreads
    simp only [List.getElem?_map, List.getElem?_eq_getElem hj', List.getElem?_range hj,
      Option.map_some, Option.some.injEq, Prod.mk.injEq] at hread
    obtain ⟨herr, hcount⟩ := hread
    -- the previous attempt's failure is a timeout exactly when its outcome timed out
    have hany : ∀ last : Option Outcome,
        (last.bind Outcome.fault?).any Fault.isTimeout = last.any Outcome.timedOut := by
      intro last
      cases last <;> rfl
    simp only [deadlines, List.getElem?_map, List.getElem?_eq_getElem hj', Option.map_some,
      herr, hcount, TimeoutPolicy.deadlineFor_ofNat, hany]
    rfl
  refine ⟨by simp [deadlines, hlen], ?_, hat⟩
  -- the first attempt follows no outcome
  have hpos : 0 < run.sent.length := by
    have hnum := (sendRequest_ended o ctx r transport keys (clock 0)).numbered
    rw [hrun, finish_sent]
    omega
  rw [List.head?_eq_getElem?, hat 0 hpos]
  simp

end HttpRetry
