import Mathlib
import HttpRetry.DryRun.Simulate
import HttpRetry.Proofs.FlowProtocol
import HttpRetry.Proofs.SendLoop

/-!
Dry runs, attempt by attempt. A dry run makes the calls `Flow.Call.rounds` of the outcomes met
(`DryRun.driven`), and keeps the time elapsed as a signed 64-bit count, the sum of the delays so
far reduced to the word (`addWrapping_eq_bmod`). `Midway` holds when a round begins and the loop
ends as `Ends` says (`runAttempts_ends`). Main statement, `dry_run_report`.
-/

namespace HttpRetry

namespace Flow

variable {f : Flow} {sh : Shared}

/-- The delay of a step a report answers is not negative, and a step that ends the flow has
none. -/
theorem report_delay {o : Outcome} {step : Step} {f' : Flow} {sh' : Shared}
    (h : f.report (some o) sh = .ok (step, f', sh')) : 0 ≤ step.delay ∧ (step.done = true → step.delay = 0) := by
  have hstate : f.state = .awaitOutcome := by
    by_contra hne
    simp [Flow.report, hne] at h
  by_cases hd : (f.decideOn o sh).decision = .retry
  · rw [report_of_call (call_report_retry hstate hd)] at h
    simp only [Except.ok.injEq, Prod.mk.injEq] at h
    obtain ⟨rfl, -, -⟩ := h
    exact ⟨le_max_right _ _, fun hdone => absurd hdone Bool.false_ne_true⟩
  · rw [report_of_call (call_report_final hstate hd)] at h
    simp only [Except.ok.injEq, Prod.mk.injEq] at h
    obtain ⟨rfl, -, -⟩ := h
    exact ⟨le_refl 0, fun _ => rfl⟩

/-- The rounds of one attempt more: the request taken, then the outcome reported. -/
theorem run_rounds_concat (os : List Outcome) (o : Outcome) :
    run f sh (Call.rounds (os ++ [o])) = ((run f sh (Call.rounds os)).call .next).call (.report (some o)) := by
  have hcalls : Call.rounds (os ++ [o]) = (Call.rounds os ++ [.next]) ++ [.report (some o)] := by
    simp [Call.rounds]
  rw [hcalls, run_append_singleton, run_append_singleton]

end Flow

namespace DryRun

/-- Adding a delay in a signed 64-bit word reduces the exact sum to the word. -/
theorem addWrapping_eq_bmod (a b : Int) : addWrapping a b = Int.bmod (a + b) (2 ^ 64) := by
  have h64 : Int.pow 2 64 = 18446744073709551616 := rfl
  have h63 : Int.pow 2 63 = 9223372036854775808 := rfl
  have hm : ((2 ^ 64 : Nat) : Int) = 18446744073709551616 := by norm_num
  rw [addWrapping, Int.bmod_def, hm, h64, h63]
  split_ifs <;> omega

/-- A sum between zero and the longest duration fits the word unchanged. -/
theorem bmod_of_fits {x : Int} (h0 : 0 ≤ x) (h : x ≤ maxDuration) : Int.bmod x (2 ^ 64) = x := by
  have hmax : maxDuration = 9223372036854775807 := rfl
  apply Int.bmod_eq_of_le <;> norm_num <;> omega

/-- The outcomes the first `i` attempts meet: the script's in turn, then `last` again and
again. -/
def metOutcomes (script : List Outcome) (last : Outcome) (i : Nat) : List Outcome :=
  (List.range i).map fun j => script.getD j last

@[simp] theorem length_metOutcomes (script : List Outcome) (last : Outcome) (i : Nat) :
    (metOutcomes script last i).length = i := by
  simp [metOutcomes]

theorem metOutcomes_succ (script : List Outcome) (last : Outcome) (i : Nat) :
    metOutcomes script last (i + 1) = metOutcomes script last i ++ [script.getD i last] := by
  simp [metOutcomes, List.range_succ]

/-- Once a script that ends with `last` runs out, `last` is met again: attempt `i` meets the
outcome at `min i (length - 1)`. -/
theorem metOutcomes_eq_min {script : List Outcome} {last : Outcome}
    (hlast : script.getLast? = some last) (i : Nat) :
    metOutcomes script last i =
      (List.range i).map fun j => script.getD (min j (script.length - 1)) default := by
  have hne : script ≠ [] := by
    rintro rfl
    simp at hlast
  have hlen : 0 < script.length := List.length_pos_iff.2 hne
  have hget : script.getD (script.length - 1) default = last := by
    rw [List.getLast?_eq_getElem?] at hlast
    rw [List.getD_eq_getElem?_getD, hlast, Option.getD_some]
  refine List.map_congr_left fun j _ => ?_
  by_cases hj : j < script.length
  · rw [min_eq_left (by omega), List.getD_eq_getElem?_getD, List.getD_eq_getElem?_getD,
      List.getElem?_eq_getElem hj, Option.getD_some, Option.getD_some]
  · rw [min_eq_right (by omega), hget, List.getD_eq_getElem?_getD,
      List.getElem?_eq_none (by omega), Option.getD_none]

/-- What a report records of attempts that met `outs` and took `steps`: their numbers, the
outcomes met, the decisions and delays, and the time elapsed before each, the delays before it
summed in a signed 64-bit word. -/
structure Reported (rep : Report) (outs : List Outcome) (steps : List Step) : Prop where
  numbers : rep.attempts.map AttemptReport.attempt = List.range outs.length
  outcomes : rep.attempts.map AttemptReport.outcome = outs.map Outcome.text
  decisions : rep.attempts.map AttemptReport.decision = steps.map fun s => s.decision.name
  delays : rep.attempts.map AttemptReport.delay = steps.map Step.delay
  elapsed : rep.attempts.map AttemptReport.elapsed =
    (List.range outs.length).map fun j => Int.bmod ((steps.take j).map Step.delay).sum (2 ^ 64)

theorem Reported.length {rep : Report} {outs : List Outcome} {steps : List Step}
    (h : Reported rep outs steps) : rep.attempts.length = outs.length := by
  simpa using congrArg List.length h.numbers

/-- An attempt recorded after the others: its number, the outcome it met, its step's decision
and delay, and the word sum of the delays before it. -/
theorem Reported.concat {rep : Report} {outs : List Outcome} {steps : List Step}
    (h : Reported rep outs steps) (hlen : steps.length = outs.length) (o : Outcome) (s : Step)
    (a : AttemptReport) (ha : a.attempt = outs.length) (ho : a.outcome = o.text)
    (hd : a.decision = s.decision.name) (hdelay : a.delay = s.delay)
    (he : a.elapsed = Int.bmod (steps.map Step.delay).sum (2 ^ 64)) (rep' : Report)
    (hrep : rep'.attempts = rep.attempts ++ [a]) :
    Reported rep' (outs ++ [o]) (steps ++ [s]) where
  numbers := by simp [hrep, h.numbers, ha, List.range_succ]
  outcomes := by simp [hrep, h.outcomes, ho]
  decisions := by simp [hrep, h.decisions, hd]
  delays := by simp [hrep, h.delays, hdelay]
  elapsed := by
    simp only [hrep, List.map_append, h.elapsed, List.length_append, List.length_singleton,
      List.range_succ, List.map_cons, List.map_nil, he]
    congr 1
    · -- the earlier attempts see only the earlier delays
      refine List.map_congr_left fun j hj => ?_
      rw [List.take_append_of_le_length (by simp at hj; omega)]
    · rw [← hlen, List.take_append_of_le_length (le_refl _), List.take_length]

section Run

variable (script : List Outcome) (last : Outcome) (f₀ : Flow) (sh₀ : Shared)

/-- The flow after the rounds of the first `i` attempts. -/
def driven (i : Nat) : Flow.Run := Flow.run f₀ sh₀ (Flow.Call.rounds (metOutcomes script last i))

/-- The steps the flow answered in the first `i` attempts. -/
def drivenSteps (i : Nat) : List Step := Flow.stepsOf (driven script last f₀ sh₀ i).log

/-- What holds when the round of attempt `i` begins, every earlier round having retried: the flow
and the shared state are those the first `i` rounds left, the flow is ready for its request,
its steps answered the outcomes met with delays not below zero, and the report records them,
the time elapsed being the word sum of their delays. -/
structure Midway (i : Nat) (flow : Flow) (sh : Shared) (elapsed : Int) (rep : Report) : Prop where
  flow_eq : (driven script last f₀ sh₀ i).flow = flow
  shared_eq : (driven script last f₀ sh₀ i).shared = sh
  ready : flow.state = .awaitSend ∨ flow.state = .delaying
  outcomes : (drivenSteps script last f₀ sh₀ i).map Step.outcome = metOutcomes script last i
  nonneg : ∀ s ∈ drivenSteps script last f₀ sh₀ i, 0 ≤ s.delay
  retried : ∀ s ∈ drivenSteps script last f₀ sh₀ i, s.decision = .retry
  reported : Reported rep (metOutcomes script last i) (drivenSteps script last f₀ sh₀ i)
  elapsed_eq : elapsed = Int.bmod ((drivenSteps script last f₀ sh₀ i).map Step.delay).sum (2 ^ 64)

/-- How a dry run ends: with a report of `k` attempts, at least one and at most `maxAttempts`,
whose steps answered the outcomes met, all but the last retrying; either the flow is done, the
last step not retrying, the final outcome its outcome and the total delay the word sum of all
the delays, or the attempts ran out. -/
def Ends (res : Result) : Prop :=
  ∃ k rep, res.report = some rep ∧ 0 < k ∧ k ≤ maxAttempts ∧
    (drivenSteps script last f₀ sh₀ k).map Step.outcome = metOutcomes script last k ∧
    (∀ s ∈ drivenSteps script last f₀ sh₀ k, 0 ≤ s.delay) ∧
    (∀ s ∈ (drivenSteps script last f₀ sh₀ k).dropLast, s.decision = .retry) ∧
    Reported rep (metOutcomes script last k) (drivenSteps script last f₀ sh₀ k) ∧
    ((res.failure = none ∧
        (∃ s, (drivenSteps script last f₀ sh₀ k).getLast? = some s ∧ s.decision ≠ .retry ∧
          rep.final = s.outcome.text) ∧
        rep.totalDelay = Int.bmod ((drivenSteps script last f₀ sh₀ k).map Step.delay).sum (2 ^ 64)) ∨
      (res.failure = some .stillRetrying ∧ k = maxAttempts))

theorem drivenSteps_zero : drivenSteps script last f₀ sh₀ 0 = [] := rfl

/-- Before the first round nothing has been driven. -/
theorem midway_start (method : String) (hf : f₀.state = .awaitSend) :
    Midway script last f₀ sh₀ 0 f₀ sh₀ 0 ⟨method, [], "", 0⟩ where
  flow_eq := rfl
  shared_eq := rfl
  ready := .inl hf
  outcomes := rfl
  nonneg := by simp [drivenSteps_zero]
  retried := by simp [drivenSteps_zero]
  reported := ⟨rfl, rfl, rfl, rfl, rfl⟩
  elapsed_eq := rfl

variable {script last f₀ sh₀}

/-- The round of attempt `i` adds the request taken and the step answered to what the flow
answered before. -/
theorem driven_succ {i : Nat} {flow : Flow} {sh : Shared} {step : Step} {f' : Flow} {sh' : Shared}
    (hflow : (driven script last f₀ sh₀ i).flow = flow) (hsh : (driven script last f₀ sh₀ i).shared = sh)
    (hready : flow.state = .awaitSend ∨ flow.state = .delaying)
    (hrep : flow.taken.report (some (script.getD i last)) sh = .ok (step, f', sh')) :
    (driven script last f₀ sh₀ (i + 1)).flow = f' ∧ (driven script last f₀ sh₀ (i + 1)).shared = sh' ∧
      drivenSteps script last f₀ sh₀ (i + 1) = drivenSteps script last f₀ sh₀ i ++ [step] := by
  have hcall : Flow.call flow.taken sh (.report (some (script.getD i last))) = (.ok (.step step), f', sh') := by
    simp only [Flow.call, hrep]
  have hnext : Flow.call flow sh .next = (.ok (.request flow.request), flow.taken, sh) :=
    Flow.call_next_ready hready
  simp only [driven] at hflow hsh
  simp only [drivenSteps, driven, metOutcomes_succ, Flow.run_rounds_concat, Flow.Run.call_flow,
    Flow.Run.call_shared, Flow.Run.log_call, hflow, hsh, hnext, hcall, true_and]
  simp only [Except.toOption, Option.toList, Flow.stepsOf_append_step, Flow.stepsOf_append_request]

/-- A dry run from a round that begins midway, with as many rounds left as make up
`maxAttempts`, ends as `Ends` says. -/
theorem runAttempts_ends :
    ∀ (left i : Nat) (flow : Flow) (sh : Shared) (elapsed : Int) (rep : Report),
      Midway script last f₀ sh₀ i flow sh elapsed rep → i + left = maxAttempts →
        Ends script last f₀ sh₀ (runAttempts script last sh left i flow elapsed rep) := by
  intro left
  induction left with
  | zero =>
    -- the attempts ran out, every round having retried
    intro i flow sh elapsed rep hm hi
    refine ⟨i, rep, rfl, by simp [maxAttempts] at hi; omega, by omega, hm.outcomes, hm.nonneg,
      fun s hs => hm.retried s (List.mem_of_mem_dropLast hs), hm.reported, .inr ⟨rfl, by omega⟩⟩
  | succ left ih =>
    intro i flow sh elapsed rep hm hi
    -- the request is taken, and the scripted outcome reported and answered
    obtain ⟨step, f', sh', hrep, hout, -, hcase⟩ :=
      Flow.report_cases (f := flow.taken) rfl (script.getD i last) sh
    obtain ⟨hnonneg, hzero⟩ := Flow.report_delay hrep
    obtain ⟨hflow', hsh', hsteps⟩ := driven_succ hm.flow_eq hm.shared_eq hm.ready hrep
    have hlen : (drivenSteps script last f₀ sh₀ i).length = (metOutcomes script last i).length := by
      simpa using congrArg List.length hm.outcomes
    have houts : (drivenSteps script last f₀ sh₀ (i + 1)).map Step.outcome = metOutcomes script last (i + 1) := by
      rw [hsteps, metOutcomes_succ, List.map_append, hm.outcomes, List.map_singleton, hout]
    have hnonneg' : ∀ s ∈ drivenSteps script last f₀ sh₀ (i + 1), 0 ≤ s.delay := by
      rw [hsteps, List.forall_mem_append, List.forall_mem_singleton]
      exact ⟨hm.nonneg, hnonneg⟩
    simp only [runAttempts, Flow.next_of_ready hm.ready, hrep]
    rcases hcase with ⟨hdone, hd, -⟩ | ⟨hdone, hd, hstate, -⟩
    · -- the flow is done: the last attempt is recorded with its step
      rw [if_pos hdone]
      have hsum : ((drivenSteps script last f₀ sh₀ (i + 1)).map Step.delay).sum =
          ((drivenSteps script last f₀ sh₀ i).map Step.delay).sum := by
        simp [hsteps, hzero hdone]
      refine ⟨i + 1, _, rfl, by omega, by omega, houts, hnonneg', ?_, ?_, .inl ⟨rfl, ⟨step, ?_, hd, ?_⟩, ?_⟩⟩
      · rw [hsteps, List.dropLast_concat]
        exact hm.retried
      · rw [hsteps, metOutcomes_succ]
        exact hm.reported.concat hlen _ step _ (by simp)
          rfl rfl (by simp [hzero hdone]) hm.elapsed_eq _ rfl
      · rw [hsteps, List.getLast?_concat]
      · rw [hout]
      · rw [hsum]
        exact hm.elapsed_eq
    · -- the flow retries: the attempt is recorded with its delay, and the next round begins
      rw [if_neg (by simp [hdone])]
      apply ih _ _ _ _ _ ⟨hflow', hsh', .inr hstate, houts, hnonneg', ?_, ?_, ?_⟩ (by omega)
      · rw [hsteps, List.forall_mem_append, List.forall_mem_singleton]
        exact ⟨hm.retried, hd⟩
      · rw [hsteps, metOutcomes_succ]
        exact hm.reported.concat hlen _ step _ (by simp)
          rfl rfl rfl hm.elapsed_eq _ rfl
      · rw [hsteps, addWrapping_eq_bmod, hm.elapsed_eq, Int.bmod_add_bmod]
        simp

end Run

/-- Delays that are not negative have a sum that is not negative. -/
theorem sum_delays_nonneg {steps : List Step} (hnonneg : ∀ s ∈ steps, 0 ≤ s.delay) :
    0 ≤ (steps.map Step.delay).sum :=
  List.sum_nonneg fun d hd => by
    obtain ⟨s, hs, rfl⟩ := List.mem_map.1 hd
    exact hnonneg s hs

/-- A sum of delays that are not negative grows along the attempts. -/
theorem sum_take_mono {steps : List Step} (hnonneg : ∀ s ∈ steps, 0 ≤ s.delay) {i j : Nat}
    (hij : i ≤ j) : ((steps.take i).map Step.delay).sum ≤ ((steps.take j).map Step.delay).sum := by
  rw [List.map_take, List.map_take]
  refine (List.take_sublist_take_left hij).sum_le_sum fun d hd => ?_
  obtain ⟨s, hs, rfl⟩ := List.mem_map.1 (List.mem_of_mem_take hd)
  exact hnonneg s hs

section Elapsed

variable {rep : Report} {outs : List Outcome} {steps : List Step}

/-- The time recorded before attempt `i` is the exact sum of the delays before it, while that
sum fits the longest duration. -/
theorem Reported.elapsed_at (h : Reported rep outs steps) (hnonneg : ∀ s ∈ steps, 0 ≤ s.delay)
    {i : Nat} (hi : i < outs.length) (hfit : ((steps.take i).map Step.delay).sum ≤ maxDuration) :
    rep.attempts[i]?.map AttemptReport.elapsed = some ((steps.take i).map Step.delay).sum := by
  have h0 : 0 ≤ ((steps.take i).map Step.delay).sum :=
    sum_delays_nonneg fun s hs => hnonneg s (List.mem_of_mem_take hs)
  rw [← List.getElem?_map, h.elapsed, List.getElem?_map, List.getElem?_range hi, Option.map_some,
    bmod_of_fits h0 hfit]

/-- The time recorded does not fall from one attempt to a later one, while the sum of the delays
before the later one fits the longest duration. -/
theorem Reported.elapsed_mono (h : Reported rep outs steps) (hnonneg : ∀ s ∈ steps, 0 ≤ s.delay)
    {i j : Nat} {a b : AttemptReport} (hij : i ≤ j) (ha : rep.attempts[i]? = some a)
    (hb : rep.attempts[j]? = some b) (hfit : ((steps.take j).map Step.delay).sum ≤ maxDuration) :
    a.elapsed ≤ b.elapsed := by
  have hj : j < outs.length := h.length ▸ (List.getElem?_eq_some_iff.1 hb).1
  have hsum := sum_take_mono hnonneg hij
  have hb' := h.elapsed_at hnonneg hj hfit
  have ha' := h.elapsed_at hnonneg (by omega) (hsum.trans hfit)
  rw [hb, Option.map_some, Option.some_inj] at hb'
  rw [ha, Option.map_some, Option.some_inj] at ha'
  rw [ha', hb']
  exact hsum

end Elapsed

/-- A dry run of a script ending with `last`, for a request that was made, ends as `Ends` says
for the orchestrator's flow of that request. -/
theorem simulate_ends (o : Orchestrator) (method : String) (keys : KeySource) {script : List Outcome}
    {last : Outcome} {r : Request} (hlast : script.getLast? = some last)
    (hr : Request.new method dryRunTarget none = .ok r) :
    Ends script last { request := r, limiter := o.limiter.begin, schedule := o.schedule.begin }
      (o.shared keys) (simulate o method script keys) := by
  simp only [simulate, hlast, hr]
  exact runAttempts_ends maxAttempts 0 _ _ 0 _ (midway_start script last _ _ r.method rfl) (Nat.zero_add _)

end DryRun

/-- A request with a valid method and no body is made. -/
theorem Request.new_of_method {method : String} (target : String)
    (hm : method = "" ∨ isHeaderName method = true) : ∃ r, Request.new method target none = .ok r := by
  have hcheck : ∃ m, checkMethod method = .ok m := by
    by_cases he : method.isEmpty
    · exact ⟨"GET", by simp [checkMethod, he]⟩
    · have hname : isHeaderName method = true := by
        rcases hm with rfl | hm
        · simp at he
        · exact hm
      exact ⟨method, by simp [checkMethod, he, hname]⟩
  obtain ⟨m, hcheck⟩ := hcheck
  refine ⟨{ method := m, target := target }, ?_⟩
  simp only [Request.new, hcheck, bodyBytes]
  rfl

/-- A dry run reports, attempt by attempt, the outcome met and the step its flow answered, and the
time elapsed as the exact sum of delays while that fits. -/
theorem dry_run_report (o : Orchestrator) (method : String) (script : List Outcome) (keys : KeySource)
    (hm : method = "" ∨ isHeaderName method = true) (hs : script ≠ []) :
    ∃ r f rep, Request.new method DryRun.dryRunTarget none = .ok r ∧ o.begin (some r) = .ok f ∧
      (DryRun.simulate o method script keys).report = some rep ∧
      let k := rep.attempts.length
      let outs := (List.range k).map fun i => script.getD (min i (script.length - 1)) default
      let steps := Flow.stepsOf (Flow.run f (o.shared keys) (Flow.Call.rounds outs)).log
      0 < k ∧ k ≤ DryRun.maxAttempts ∧
      steps.map Step.outcome = outs ∧
      rep.attempts.map DryRun.AttemptReport.attempt = List.range k ∧
      rep.attempts.map DryRun.AttemptReport.outcome = outs.map Outcome.text ∧
      rep.attempts.map DryRun.AttemptReport.decision = steps.map (fun s => s.decision.name) ∧
      rep.attempts.map DryRun.AttemptReport.delay = steps.map Step.delay ∧
      (∀ s ∈ steps.dropLast, s.decision = .retry) ∧
      (((DryRun.simulate o method script keys).failure = none ∧
          ∃ s, steps.getLast? = some s ∧ s.decision ≠ .retry ∧ rep.final = s.outcome.text ∧
            ((steps.map Step.delay).sum ≤ maxDuration → rep.totalDelay = (steps.map Step.delay).sum)) ∨
        ((DryRun.simulate o method script keys).failure = some .stillRetrying ∧
          k = DryRun.maxAttempts)) ∧
      (∀ i < k, ((steps.take i).map Step.delay).sum ≤ maxDuration →
        rep.attempts[i]?.map DryRun.AttemptReport.elapsed = some ((steps.take i).map Step.delay).sum) ∧
      (∀ i j a b, i ≤ j → rep.attempts[i]? = some a → rep.attempts[j]? = some b →
        ((steps.take j).map Step.delay).sum ≤ maxDuration → a.elapsed ≤ b.elapsed) := by
  obtain ⟨r, hr⟩ := Request.new_of_method DryRun.dryRunTarget hm
  obtain ⟨last, hlast⟩ := Option.ne_none_iff_exists'.1 (mt List.getLast?_eq_none_iff.1 hs)
  obtain ⟨k, rep, hrep, hk0, hkmax, houts, hnonneg, hretried, hreported, hend⟩ :=
    DryRun.simulate_ends o method keys hlast hr
  -- the report has one attempt for each outcome met
  have hk : rep.attempts.length = k := by rw [hreported.length, DryRun.length_metOutcomes]
  subst hk
  refine ⟨r, _, rep, hr, rfl, hrep, ?_⟩
  dsimp only
  -- the outcomes met are the script's, the last one repeated
  rw [← DryRun.metOutcomes_eq_min hlast]
  simp only [DryRun.drivenSteps, DryRun.driven] at houts hnonneg hretried hreported hend
  refine ⟨hk0, hkmax, houts, by rw [hreported.numbers, DryRun.length_metOutcomes], hreported.outcomes,
    hreported.decisions, hreported.delays, hretried, ?_, ?_, ?_⟩
  · rcases hend with ⟨hnone, ⟨s, hlast', hd, hfinal⟩, htotal⟩ | hstill
    · exact .inl ⟨hnone, s, hlast', hd, hfinal,
        fun hfit => htotal.trans (DryRun.bmod_of_fits (DryRun.sum_delays_nonneg hnonneg) hfit)⟩
    · exact .inr hstill
  · intro i hi hfit
    exact hreported.elapsed_at hnonneg (by simpa using hi) hfit
  · intro i j a b hij ha hb hfit
    exact hreported.elapsed_mono hnonneg hij ha hb hfit

/-- Under the default orchestrator, a dry run of one connection failure records that failure at
every attempt. -/
theorem dry_run_report_connect :
    let connect := Outcome.transport .connect (some (.text "simulated connect failure"))
    ∃ rep, (DryRun.simulate Orchestrator.default "" [connect] .counter).report = some rep ∧
      0 < rep.attempts.length ∧ ∀ a ∈ rep.attempts, a.outcome = connect.text := by
  intro connect
  obtain ⟨-, -, rep, -, -, hrep, hk, -, -, -, houtcomes, -⟩ :=
    dry_run_report Orchestrator.default "" [connect] .counter (.inl rfl) (List.cons_ne_nil _ _)
  refine ⟨rep, hrep, hk, fun a ha => ?_⟩
  have hmem : a.outcome ∈ rep.attempts.map DryRun.AttemptReport.outcome := List.mem_map_of_mem ha
  rw [houtcomes] at hmem
  -- every outcome met is the one scripted
  simp only [List.map_map, List.mem_map, List.mem_range] at hmem
  obtain ⟨i, -, hi⟩ := hmem
  simpa using hi.symm

/-- The time elapsed is a signed 64-bit word: with the longest duration as a constant delay and
a budget of two retries, the delays are the longest duration twice, and the time before the third
attempt, like the total delay, has wrapped around to `-2`, not their sum. -/
theorem dry_run_elapsed_wraps :
    let o : Orchestrator := ⟨.maxErrors 2 Outcome.retryable, .constant maxDuration⟩
    let connect := Outcome.transport .connect (some (.text "simulated connect failure"))
    ((DryRun.simulate o "" [connect] .counter).report.map fun rep =>
      (rep.attempts.map DryRun.AttemptReport.delay, rep.attempts.map DryRun.AttemptReport.elapsed,
        rep.totalDelay)) =
      some ([maxDuration, maxDuration, 0], [0, maxDuration, -2], -2) := by
  decide +kernel



end HttpRetry
