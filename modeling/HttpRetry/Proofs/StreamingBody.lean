import Mathlib.Data.List.Basic
import HttpRetry.Proofs.EventSnapshots

/-!
A streaming body is sent at most once. Converting a request for the wire takes its stream, for
the request and its copies alike (`Request.toWire_taken`), and sending with the stream taken fails
with a failure no built-in limiter retries (`sendOverHttp_of_taken`). Main statement,
`streaming_body_sent_once`.
-/

namespace HttpRetry

/-- Limiters built from the library's own parts: never retrying, the failure budget counting the
failures worth retrying, the response budget, their combinations, and request markings. -/
inductive Limiter.BuiltIn : Limiter → Prop
  | dontRetry : BuiltIn .dontRetry
  | maxErrors (n : Nat) : BuiltIn (.maxErrors n Outcome.retryable)
  | maxErrorResponses (n : Nat) (codes : List Int) : BuiltIn (.maxErrorResponses n codes)
  | both {a b : Limiter} : BuiltIn a → BuiltIn b → BuiltIn (.both a b)
  | either {a b : Limiter} : BuiltIn a → BuiltIn b → BuiltIn (.either a b)
  | marking {l : Limiter} (m : Marking) : BuiltIn l → BuiltIn (.marking l m)

/-- The states of flows of built-in limiters. -/
inductive Limiter.Flow.BuiltIn : Limiter.Flow → Prop
  | giveUp : BuiltIn .giveUp
  | errorBudget (n : Nat) : BuiltIn (.errorBudget n Outcome.retryable)
  | responseBudget (n : Nat) (codes : List Int) : BuiltIn (.responseBudget n codes)
  | both {a b : Limiter.Flow} : BuiltIn a → BuiltIn b → BuiltIn (.both a b)
  | either {a b : Limiter.Flow} : BuiltIn a → BuiltIn b → BuiltIn (.either a b)
  | marking {f : Limiter.Flow} (m : Marking) (n : Nat) : BuiltIn f → BuiltIn (.marking f m n)

theorem Limiter.BuiltIn.begin {l : Limiter} (h : l.BuiltIn) : l.begin.BuiltIn := by
  induction h with
  | dontRetry => exact .giveUp
  | maxErrors n => exact .errorBudget n
  | maxErrorResponses n codes => exact .responseBudget n codes
  | both _ _ iha ihb => exact .both iha ihb
  | either _ _ iha ihb => exact .either iha ihb
  | marking m _ ih => exact .marking m 0 ih

namespace Decision

/-- Both agreeing retry only if one of them retries. -/
theorem retry_of_both {x y : Decision} (h : both x y = .retry) : x = .retry ∨ y = .retry := by
  cases x <;> cases y <;> simp_all [both]

/-- One sufficing retries only if one of them retries. -/
theorem retry_of_either {x y : Decision} (h : either x y = .retry) : x = .retry ∨ y = .retry := by
  cases x <;> cases y <;> simp_all [either]

end Decision

/-- A flow of a built-in limiter stays one after deciding, and never retries a failure that is
not worth retrying. -/
theorem Limiter.Flow.BuiltIn.decide {f : Limiter.Flow} (h : f.BuiltIn) (o : Outcome)
    (r : Option Request) (k : KeySource) :
    (f.decide o r k).flow.BuiltIn ∧
      (o.isError = true → o.retryable = false → (f.decide o r k).decision ≠ .retry) := by
  induction h generalizing r k with
  | giveUp => exact ⟨.giveUp, by simp [Limiter.Flow.decide]⟩
  | errorBudget n =>
    simp only [Limiter.Flow.decide]
    split
    · exact ⟨.errorBudget n, by simp⟩
    · split
      · exact ⟨.errorBudget n, by simp⟩
      · rename_i hgive
        refine ⟨.errorBudget (n - 1), fun _ hno => ?_⟩
        simp [hno] at hgive
  | responseBudget n codes =>
    simp only [Limiter.Flow.decide]
    split
    · exact ⟨.responseBudget n codes, by simp⟩
    · rename_i hcounted
      -- a counted outcome is a response, never a failure
      refine ⟨?_, fun herr => by simp [herr] at hcounted⟩
      split
      · split
        · exact .responseBudget n codes
        · exact .responseBudget (n - 1) codes
      · exact .responseBudget n codes
  | @both a b _ _ iha ihb =>
    obtain ⟨ha, hda⟩ := iha r k
    obtain ⟨hb, hdb⟩ := ihb (a.decide o r k).request (a.decide o r k).keys
    refine ⟨.both ha hb, fun herr hno hretry => ?_⟩
    rcases Decision.retry_of_both hretry with h | h
    · exact hda herr hno h
    · exact hdb herr hno h
  | @either a b _ _ iha ihb =>
    obtain ⟨ha, hda⟩ := iha r k
    obtain ⟨hb, hdb⟩ := ihb (a.decide o r k).request (a.decide o r k).keys
    refine ⟨.either ha hb, fun herr hno hretry => ?_⟩
    rcases Decision.retry_of_either hretry with h | h
    · exact hda herr hno h
    · exact hdb herr hno h
  | @marking f m n _ ih =>
    obtain ⟨hf, hdf⟩ := ih r k
    obtain ⟨hd, hflow⟩ := Limiter.Flow.decide_marking f m n o r k
    rw [hd, hflow]
    exact ⟨.marking m _ hf, hdf⟩

/-! ### Sending a request twice -/

namespace Request

/-- What sending `q` fails with once its stream is taken: kind `Other`, the stream's
unavailability in front of the request's operation and address. -/
def resendFailure (q : Request) : Outcome :=
  .failed .other (.request (requestOperation q.method) q.target .bodyUnavailable)

variable {q : Request} {s : Stream}

/-- Converting a request with a stream takes the stream, whether or not its address can be
read. -/
theorem toWire_taken (h : q.stream = some s) (taken : Bool) : (q.toWire taken).2 = true := by
  cases taken
  · simp only [toWire, h, Bool.false_eq_true, ↓reduceIte]
    split <;> rfl
  · simp [toWire, h]

/-- A taken stream cannot be converted again. -/
theorem toWire_of_taken (h : q.stream = some s) : q.toWire true = (.error .bodyUnavailable, true) := by
  simp [toWire, h]

/-- A copy shares the request's stream: once one of them is converted for the wire, converting
the other finds the stream taken. -/
theorem clone_toWire_after (h : q.stream = some s) (taken : Bool) :
    q.clone.toWire (q.toWire taken).2 = (.error .bodyUnavailable, true) ∧
      q.toWire (q.clone.toWire taken).2 = (.error .bodyUnavailable, true) := by
  have hclone : q.clone.stream = some s := by
    unfold clone
    split <;> exact h
  rw [toWire_taken h, toWire_taken hclone]
  exact ⟨toWire_of_taken hclone, toWire_of_taken h⟩

/-- A request made with a stream carries it. -/
theorem newStreaming_stream {method target : String} {body : Stream}
    (h : newStreaming method target (some body) = .ok q) : q.stream = some body := by
  simp only [newStreaming, new, bind, Except.bind] at h
  split at h
  · cases h
  · simp only [pure, Except.pure, Except.ok.injEq] at h
    subst h
    rfl

/-- A change of header map keeps what failures name. -/
@[simp] theorem resendFailure_header (h : Option Header) :
    ({ q with header := h } : Request).resendFailure = q.resendFailure := rfl

end Request

/-- Sending a request whose stream is taken fails before the peer is asked, whatever it would
answer, and the stream stays taken. -/
theorem sendOverHttp_of_taken {q : Request} {s : Stream} (h : q.stream = some s) (x : Exchange) :
    sendOverHttp q true x = (q.resendFailure, true) := by
  unfold sendOverHttp
  rw [Request.toWire_of_taken h]
  rfl

/-- Sending a request with a stream takes it. -/
theorem sendOverHttp_taken {q : Request} {s : Stream} (h : q.stream = some s) (taken : Bool)
    (x : Exchange) : (sendOverHttp q taken x).2 = true := by
  unfold sendOverHttp
  have ht := Request.toWire_taken h taken
  rcases hw : q.toWire taken with ⟨wire, after⟩
  rw [hw] at ht
  dsimp only at ht ⊢
  split <;> exact ht

/-- Over HTTP an attempt ends as sending does: its own deadline never passes first. -/
theorem Reply.answer_http (x : Exchange) (done : Option ContextEnd) (q : Request) (taken : Bool)
    (done' : Option ContextEnd) :
    ((Reply.http x).answer done q taken).settled done' = (sendOverHttp q taken x).1 ∧
      ((Reply.http x).answer done q taken).taken = (sendOverHttp q taken x).2 := by
  refine ⟨?_, rfl⟩
  simp only [Reply.answer, AttemptEnd.settled]
  split <;> simp_all

/-- The failure of a second send is not worth retrying, and it wraps the stream's
unavailability. -/
theorem Request.resendFailure_refused (q : Request) :
    q.resendFailure.isError = true ∧ q.resendFailure.retryable = false ∧
      ∃ f, q.resendFailure.fault? = some f ∧ Fault.bodyUnavailable ∈ f.chain :=
  ⟨rfl, rfl, _, rfl, by simp [Fault.chain]⟩

/-! ### The rounds of a streaming request -/

namespace SendRun

variable {ctx : CallerContext} {peer : Nat → Exchange} {r₀ : Request} {body : Stream}
  {s s' : SendRun}

/-- Once the stream is taken, every attempt over HTTP of a request carrying it fails alike,
whatever the peers answer. -/
theorem answers_of_taken (hr : r₀.stream = some body) (qs : List Request)
    (hqs : ∀ q ∈ qs, ∃ h, q = { r₀ with header := h }) (i : Nat) :
    answers ctx (fun i => .http (peer i)) i true qs = (qs.map fun _ => r₀.resendFailure, true) := by
  induction qs generalizing i with
  | nil => rfl
  | cons q qs ih =>
    obtain ⟨h, rfl⟩ := hqs q (by simp)
    have hq : ({ r₀ with header := h } : Request).stream = some body := hr
    have hans := Reply.answer_http (peer i) (ctx.doneAt? (.sending i)) { r₀ with header := h } true
      (ctx.doneAt? (.classifying i))
    rw [sendOverHttp_of_taken hq] at hans
    simp only [answers, hans.1, hans.2, ih fun q hq => hqs q (by simp [hq]), List.map_cons,
      Request.resendFailure_header]

/-- What holds when a round begins, in a run of the streaming request `r₀` whose attempts all go
over HTTP. -/
structure Streamed (r₀ : Request) (s : SendRun) : Prop where
  builtIn : s.flow.limiter.BuiltIn
  /-- The flow's request, and every request sent, is `r₀` but for its header map. -/
  request : ∃ h, s.flow.request = { r₀ with header := h }
  sent : ∀ q ∈ s.sent, ∃ h, q = { r₀ with header := h }
  /-- The first attempt took the stream. -/
  taken : s.sent ≠ [] → s.streamTaken = true
  once : s.sent.length ≤ 1
  /-- The flow retried no failure that is not worth retrying. -/
  refused : ∀ st ∈ s.steps, st.outcome.isError = true → st.outcome.retryable = false →
    st.decision ≠ .retry

/-- Before the first round the flow asks the orchestrator's limiter, fresh, about `r₀` itself. -/
theorem Streamed.begin {o : Orchestrator} {keys : KeySource} {now : Int} (ho : o.limiter.BuiltIn) :
    (SendRun.begin o r₀ keys now).Streamed r₀ where
  builtIn := ho.begin
  request := ⟨r₀.header, rfl⟩
  sent := by simp [SendRun.begin, fire, update]
  taken := by simp [SendRun.begin, fire, update]
  once := by simp [SendRun.begin, fire, update]
  refused := by simp [SendRun.begin, fire, update]

/-- A round's attempt takes the stream; an attempt after the first fails for the taken stream. -/
theorem Streamed.roundAttempt (hs : s.Streamed r₀) (hr : r₀.stream = some body)
    (ctx : CallerContext) (peer : Nat → Exchange) :
    (s.roundAttempt ctx fun i => .http (peer i)).1.streamTaken = true ∧
    (s.sent ≠ [] → (s.roundAttempt ctx fun i => .http (peer i)).2 = r₀.resendFailure) := by
  obtain ⟨h, hreq⟩ := hs.request
  have hstream : s.flow.request.stream = some body := by rw [hreq]; exact hr
  have hans := Reply.answer_http (peer s.sent.length) (ctx.doneAt? (.sending s.sent.length))
    s.flow.request s.streamTaken (ctx.doneAt? (.classifying s.sent.length))
  refine ⟨?_, fun hne => ?_⟩
  · rw [SendRun.roundAttempt, attempt_streamTaken]
    exact hans.2.trans (sendOverHttp_taken hstream _ _)
  · rw [SendRun.roundAttempt, attempt_snd]
    simp only
    rw [hans.1, hs.taken hne, sendOverHttp_of_taken hstream, hreq]
    rfl

/-- The step a round's flow answers: its limiter stays built in, its request stays `r₀` but for
the header map, and a failure not worth retrying is not retried. -/
theorem Streamed.report (hs : s.Streamed r₀) {step : Step} {f : Flow} {sh : Shared}
    (hrep : s.flow.taken.report (some (s.roundAttempt ctx fun i => .http (peer i)).2) s.shared =
      .ok (step, f, sh)) :
    f.limiter.BuiltIn ∧ (∃ h, f.request = { r₀ with header := h }) ∧
    (step.outcome.isError = true → step.outcome.retryable = false → step.decision ≠ .retry) := by
  obtain ⟨h, hreq⟩ := hs.request
  obtain ⟨hout, hdec, -, hflow, -⟩ := Flow.report_eq_ok hrep
  -- the decision is the built-in limiter's, about the request the flow handed out
  obtain ⟨hbuilt, hnever⟩ := hs.builtIn.decide (s.roundAttempt ctx fun i => .http (peer i)).2
    (some s.flow.request) s.shared.keys
  have hfreq := Flow.taken_report_request hrep
  simp only [Flow.decideOn, Flow.taken_limiter, Flow.taken_request] at hdec hflow
  refine ⟨hflow ▸ hbuilt, ⟨f.request.header, ?_⟩, ?_⟩
  · rw [hfreq, hreq]
  · rw [hout, hdec]
    exact hnever

/-- A round that goes on keeps `Streamed`: it was the first, since a second attempt fails in a
way no built-in limiter retries. -/
theorem Streamed.again (hs : s.Streamed r₀) (hr : r₀.stream = some body) (hready : s.Ready)
    (hagain : s.round ctx (fun i => .http (peer i)) = .again s') : s'.Streamed r₀ := by
  have hends := round_ends ctx (fun i => .http (peer i)) hready
  rw [hagain] at hends
  cases hends with
  | @retry step f sh _ hrep hdone _ =>
    obtain ⟨hout, -, hretry, -, -⟩ := Flow.taken_report_retry hrep hdone
    obtain ⟨hbuilt, ⟨h, hfreq⟩, hnever⟩ := hs.report hrep
    obtain ⟨htaken, hresent⟩ := hs.roundAttempt hr ctx peer
    -- a second attempt would have failed for the taken stream, and not been retried
    have hfirst : s.sent = [] := by
      by_contra hne
      have hstep : step.outcome = r₀.resendFailure := hout.trans (hresent hne)
      obtain ⟨hisError, hretryable, -⟩ := r₀.resendFailure_refused
      exact hnever (by rw [hstep]; exact hisError) (by rw [hstep]; exact hretryable) hretry
    obtain ⟨h₀, hreq⟩ := hs.request
    refine ⟨by simpa using hbuilt, ⟨h, by simpa using hfreq⟩, ?_, fun _ => by simpa using htaken,
      by simp [hfirst], ?_⟩
    · intro q hq
      simp only [nextAttempt_sent, waitFor_sent, record_sent, roundAttempt_sent, hfirst,
        List.nil_append, List.mem_singleton] at hq
      exact ⟨h₀, hq.trans hreq⟩
    · intro st hst
      simp only [nextAttempt_steps, waitFor_steps, record_steps, roundAttempt_steps,
        List.mem_append, List.mem_singleton] at hst
      rcases hst with hst | rfl
      · exact hs.refused st hst
      · exact hnever

/-- The last round of a streaming request: at most two attempts in all, every request sent is
`r₀` but for its header map, the stream is taken, and no failure that is not worth retrying was
retried. -/
theorem Streamed.stop {last : SendRun} (hs : s.Streamed r₀)
    (hready : s.Ready) (hstop : s.round ctx (fun i => .http (peer i)) = .stop last) :
    last.sent.length ≤ 2 ∧ (∀ q ∈ last.sent, ∃ h, q = { r₀ with header := h }) ∧
    (∀ st ∈ last.steps, st.outcome.isError = true → st.outcome.retryable = false →
      st.decision ≠ .retry) := by
  obtain ⟨h₀, hreq⟩ := hs.request
  -- every round's attempt sends the flow's request, one more than before
  have hsent : ∀ q ∈ (s.roundAttempt ctx fun i => .http (peer i)).1.sent,
      ∃ h, q = { r₀ with header := h } := by
    intro q hq
    simp only [roundAttempt_sent, List.mem_append, List.mem_singleton] at hq
    rcases hq with hq | rfl
    · exact hs.sent q hq
    · exact ⟨h₀, hreq⟩
  have hlen : (s.roundAttempt ctx fun i => .http (peer i)).1.sent.length ≤ 2 := by
    simp only [roundAttempt_sent, List.length_append, List.length_singleton]
    have := hs.once
    omega
  have hends := round_ends ctx (fun i => .http (peer i)) hready
  rw [hstop] at hends
  cases hends with
  | cutAfter =>
    exact ⟨by simpa using hlen, by simpa using hsent, by simpa using hs.refused⟩
  | final _ hrep =>
    obtain ⟨-, -, hnever⟩ := hs.report hrep
    refine ⟨by simpa using hlen, by simpa using hsent, fun st hst => ?_⟩
    simp only [record_steps, roundAttempt_steps, List.mem_append, List.mem_singleton] at hst
    rcases hst with hst | rfl
    · exact hs.refused st hst
    · exact hnever
  | cutWaiting _ hrep =>
    obtain ⟨-, -, hnever⟩ := hs.report hrep
    refine ⟨by simpa using hlen, by simpa using hsent, fun st hst => ?_⟩
    simp only [cutShort_steps, waitFor_steps, record_steps, roundAttempt_steps, List.mem_append,
      List.mem_singleton] at hst
    rcases hst with hst | rfl
    · exact hs.refused st hst
    · exact hnever

/-- Two transports that answer a round's attempt alike end the round alike. -/
theorem round_congr {t t' : Nat → Reply} (hready : s.Ready)
    (h : (t s.sent.length).answer (ctx.doneAt? (.sending s.sent.length)) s.flow.request
      s.streamTaken = (t' s.sent.length).answer (ctx.doneAt? (.sending s.sent.length))
        s.flow.request s.streamTaken) :
    s.round ctx t = s.round ctx t' := by
  have hattempt : s.roundAttempt ctx t = s.roundAttempt ctx t' := by
    simp only [roundAttempt, attempt, update, fire, h]
  rw [round_of_ready hready, round_of_ready hready, hattempt]

/-- Once the first attempt has taken the stream, a round ends alike whatever the peers answer
but the first. -/
theorem Streamed.round_congr_peer (hs : s.Streamed r₀) (hr : r₀.stream = some body)
    (hready : s.Ready) {peer' : Nat → Exchange} (h0 : peer' 0 = peer 0) :
    s.round ctx (fun i => .http (peer' i)) = s.round ctx (fun i => .http (peer i)) := by
  obtain ⟨h, hreq⟩ := hs.request
  apply round_congr hready
  by_cases hfirst : s.sent = []
  · simp only [hfirst, List.length_nil, h0]
  · -- the stream is taken, so neither peer is asked
    have hst : s.flow.request.stream = some body := by rw [hreq]; exact hr
    simp only [Reply.answer, hs.taken hfirst, sendOverHttp_of_taken hst]

/-- A loop whose rounds end alike under two transports, from runs with a property that every
round going on keeps, runs alike under both. -/
theorem runAttempts_congr {t t' : Nat → Reply} (Inv : SendRun → Prop)
    (hround : ∀ s, Inv s → s.round ctx t' = s.round ctx t)
    (hkeep : ∀ s s', Inv s → s.round ctx t = .again s' → Inv s') :
    ∀ (fuel : Nat) (s : SendRun), Inv s → runAttempts ctx t' fuel s = runAttempts ctx t fuel s := by
  intro fuel
  induction fuel with
  | zero => intro s _; rfl
  | succ fuel ih =>
    intro s hs
    simp only [runAttempts, hround s hs]
    cases hr : s.round ctx t with
    | stop r => rfl
    | again s' => exact ih s' (hkeep s s' hs hr)

/-- A run that sent only `r₀` under some header map met, after its first outcome, only the
failure of the taken stream. -/
theorem settledOutcomes_tail {m : SendRun} (hr : r₀.stream = some body)
    (hsent : ∀ q ∈ m.sent, ∃ h, q = { r₀ with header := h }) :
    ∀ out ∈ (m.settledOutcomes ctx fun i => .http (peer i)).drop 1, out = r₀.resendFailure := by
  intro out hout
  simp only [settledOutcomes] at hout
  cases hq : m.sent with
  | nil => simp [hq, answers] at hout
  | cons q rest =>
    obtain ⟨h, rfl⟩ := hsent q (by simp [hq])
    have hq' : ({ r₀ with header := h } : Request).stream = some body := hr
    -- the first attempt takes the stream, whatever the peer answers
    have htaken := (Reply.answer_http (peer 0) (ctx.doneAt? (.sending 0)) { r₀ with header := h }
      false (ctx.doneAt? (.classifying 0))).2
    rw [sendOverHttp_taken hq'] at htaken
    simp only [hq, answers, Nat.zero_add, htaken, List.drop_one, List.tail_cons] at hout
    rw [answers_of_taken hr rest (fun q hq'' => hsent q (by simp [hq, hq''])) 1] at hout
    obtain ⟨-, -, rfl⟩ := List.mem_map.1 hout
    rfl

/-- An ended run of two attempts that retried no failure not worth retrying, its second outcome
`out` such a failure: it failed with `out`'s failure, unless the context was done once the second
attempt was recorded, when it failed with the context's reason. -/
theorem Ended.err_of_two {transport : Nat → Reply} {m : SendRun} (hend : m.Ended ctx transport)
    (htwo : m.sent.length = 2) {out : Outcome} (herror : out.isError = true)
    (hretryable : out.retryable = false)
    (hsecond : ∀ o ∈ (m.settledOutcomes ctx transport).drop 1, o = out)
    (hrefused : ∀ st ∈ m.steps, st.outcome.isError = true → st.outcome.retryable = false →
      st.decision ≠ .retry) :
    (ctx.doneAt? (.recorded 1) = none → m.execution.err = out.fault?) ∧
      ∀ reason, ctx.doneAt? (.recorded 1) = some reason → m.execution.err = some reason.fault := by
  have hcut := hend.cut_eq
  simp only [htwo, Nat.add_one_sub_one] at hcut
  refine ⟨fun hlive => ?_, fun reason hdone => ?_⟩
  · have htold := hend.told
    simp only [htwo, Nat.add_one_sub_one, hlive, ↓reduceIte] at htold
    have hlen2 : (m.settledOutcomes ctx transport).length = 2 := by
      simp [settledOutcomes, answers_length, htwo]
    obtain ⟨a, b, hab⟩ := List.length_eq_two.1 hlen2
    have hb : b = out := hsecond b (by rw [hab]; simp)
    -- the flow was told the second outcome last
    have hlast : (m.steps.map Step.outcome).getLast? = some out := by
      rw [htold, hab, hb]
      rfl
    rw [List.getLast?_map] at hlast
    obtain ⟨last, hl, hout⟩ := Option.map_eq_some_iff.1 hlast
    rcases hm : m.cut with _ | reason
    · obtain ⟨last', hl', -, -, herr⟩ := hend.flowEnd hm
      rw [hl, Option.mem_def, Option.some.injEq] at hl'
      subst hl'
      rw [herr, hout]
    · -- a context done in the wait would have followed a retry of the second failure
      have hmem : last ∈ m.steps := List.mem_of_getLast? hl
      have hretried := (hend.cutEnd reason hm).2 last hmem
      exact absurd hretried.2 (hrefused last hmem (by rw [hout]; exact herror)
        (by rw [hout]; exact hretryable))
  · rcases hcut with hcut | ⟨hlive, -⟩
    · exact (hend.cutEnd reason (hcut.trans hdone)).1
    · rw [hdone] at hlive
      cases hlive

end SendRun

end HttpRetry
