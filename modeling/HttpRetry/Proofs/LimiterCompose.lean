import HttpRetry.Limiter

/-!
Combined limiters decide as their parts would alone. A decision depends on the request only
through its method and not on the key source (`decide_congr`), and marking keeps the method
(`decide_method`), so the second part of `both a b` or `either a b` decides as it would alone.
Main statement, `combined_limiters_decide_pointwise`.
-/

namespace HttpRetry

/-- Marking a request changes only its header: the method stays. -/
theorem Marking.apply_method (m : Marking) (r : Request) (n : Nat) (k : KeySource) :
    (m.apply r n k).1.method = r.method := by
  cases m with
  | appendCount name => rfl
  | countHeader name => rfl
  | idempotencyKey name =>
    simp only [Marking.apply]
    split <;> rfl

namespace Decision

/-- Both must agree to retry: giving up wins, then retrying, else pass. -/
theorem both_eq_ite (x y : Decision) :
    both x y =
      if x = .giveUp ∨ y = .giveUp then .giveUp else if x = .retry ∨ y = .retry then .retry
      else .pass := by
  cases x <;> cases y <;> decide

/-- One suffices to retry: retrying wins, then giving up, else pass. -/
theorem either_eq_ite (x y : Decision) :
    either x y =
      if x = .retry ∨ y = .retry then .retry else if x = .giveUp ∨ y = .giveUp then .giveUp
      else .pass := by
  cases x <;> cases y <;> decide

end Decision

namespace Limiter.Flow

/-- Decides the outcomes, each for its own request, in turn, the key source carried from one
decision to the next: the decisions, and the flow after them. -/
def runOn : Limiter.Flow → KeySource → List (Outcome × Option Request) →
    List Decision × Limiter.Flow
  | f, _, [] => ([], f)
  | f, k, (o, r) :: rest =>
    let d := f.decide o r k
    (d.decision :: (d.flow.runOn d.keys rest).1, (d.flow.runOn d.keys rest).2)

/-- A decision keeps the request's presence and method. -/
theorem decide_method (f : Limiter.Flow) (o : Outcome) (r : Option Request) (k : KeySource) :
    (f.decide o r k).request.map Request.method = r.map Request.method := by
  induction f generalizing r k with
  | giveUp => rfl
  | errorBudget n accepts =>
    simp only [decide]
    split
    · rfl
    · split <;> rfl
  | responseBudget n codes =>
    simp only [decide]
    split
    · rfl
    · split
      · split <;> rfl
      · rfl
  | both a b iha ihb | either a b iha ihb => simp only [decide]; rw [ihb, iha]
  | marking inner m retries ih =>
    simp only [decide]
    split
    · rename_i req hd hr
      have h := ih r k
      rw [hr] at h
      simp [← h, Marking.apply_method]
    · exact ih r k

/-- What a marking flow decides: what its inner flow decides, counting the retry when there is a
request to mark. -/
theorem decide_marking (inner : Limiter.Flow) (m : Marking) (n : Nat) (o : Outcome)
    (r : Option Request) (k : KeySource) :
    ((Limiter.Flow.marking inner m n).decide o r k).decision = (inner.decide o r k).decision ∧
    ((Limiter.Flow.marking inner m n).decide o r k).flow =
      .marking (inner.decide o r k).flow m
        (if (inner.decide o r k).decision = .retry ∧ (inner.decide o r k).request.isSome
          then n + 1 else n) := by
  simp only [decide]
  split
  · rename_i req hd hr
    simp [hd, hr]
  · rename_i d r' hnot
    refine ⟨rfl, ?_⟩
    -- no retry to count: the decision is not a retry, or there is no request
    have : ¬((inner.decide o r k).decision = .retry ∧ (inner.decide o r k).request.isSome) := by
      rintro ⟨hd, hr⟩
      obtain ⟨req, hreq⟩ := Option.isSome_iff_exists.1 hr
      exact hnot req hd hreq
    simp [this]

/-- A decision, and the flow after it, depend on the request only through its presence and its
method, and not on the key source. -/
theorem decide_congr (f : Limiter.Flow) (o : Outcome) {r r' : Option Request}
    (hr : r.map Request.method = r'.map Request.method) (k k' : KeySource) :
    (f.decide o r k).decision = (f.decide o r' k').decision ∧
      (f.decide o r k).flow = (f.decide o r' k').flow := by
  induction f generalizing r r' k k' with
  | giveUp => exact ⟨rfl, rfl⟩
  | errorBudget n accepts =>
    simp only [decide]
    split
    · exact ⟨rfl, rfl⟩
    · split <;> exact ⟨rfl, rfl⟩
  | responseBudget n codes =>
    -- only a status the limiter counts reads the request, and then only its method
    cases r with
    | none =>
      cases r' with
      | none =>
        simp only [decide]
        split <;> exact ⟨rfl, rfl⟩
      | some _ => simp at hr
    | some req =>
      cases r' with
      | none => simp at hr
      | some req' =>
        simp only [Option.map_some, Option.some.injEq] at hr
        simp only [decide, Request.idempotent, ← hr]
        by_cases hc : (o.isError || !codes.contains o.status) = true <;>
          by_cases hi : (!isIdempotent req.method || n == 0) = true <;>
          simp only [hc, hi, ↓reduceIte] <;> simp
  | both a b iha ihb | either a b iha ihb =>
    obtain ⟨hxd, hxf⟩ := iha hr k k'
    -- the second part sees what the first left: the same method, or no request alike
    have hm : (a.decide o r k).request.map Request.method =
        (a.decide o r' k').request.map Request.method := by
      rw [decide_method, decide_method, hr]
    obtain ⟨hyd, hyf⟩ := ihb hm (a.decide o r k).keys (a.decide o r' k').keys
    simp [decide, hxd, hxf, hyd, hyf]
  | marking inner m n ih =>
    obtain ⟨hd, hf⟩ := ih hr k k'
    -- the retry is counted alike, since both requests are there or both are missing
    have hsome : (inner.decide o r k).request.isSome = (inner.decide o r' k').request.isSome := by
      have h := congrArg Option.isSome
        ((decide_method inner o r k).trans (hr.trans (decide_method inner o r' k').symm))
      simpa using h
    obtain ⟨hd₁, hf₁⟩ := decide_marking inner m n o r k
    obtain ⟨hd₂, hf₂⟩ := decide_marking inner m n o r' k'
    rw [hd₁, hd₂, hf₁, hf₂, hd, hf, hsome]
    exact ⟨rfl, rfl⟩

/-- A run's decisions and the flow after it do not depend on the key source. -/
theorem runOn_keys (f : Limiter.Flow) (k k' : KeySource) (steps : List (Outcome × Option Request)) :
    f.runOn k steps = f.runOn k' steps := by
  induction steps generalizing f k k' with
  | nil => rfl
  | cons step rest ih =>
    obtain ⟨o, r⟩ := step
    have hr : r.map Request.method = r.map Request.method := rfl
    obtain ⟨hd, hf⟩ := decide_congr f o hr k k'
    simp only [runOn]
    rw [hd, hf, ih _ (f.decide o r k).keys (f.decide o r k').keys]

/-- A flow that asks its first part, then its second on the request and the key source the first
left, combines their decisions by `op` and keeps both parts' flows, runs as its parts do alone,
side by side. -/
theorem runOn_pair (pair : Limiter.Flow → Limiter.Flow → Limiter.Flow)
    (op : Decision → Decision → Decision)
    (hpair : ∀ fa fb o r k, (pair fa fb).decide o r k =
      ⟨op (fa.decide o r k).decision
          (fb.decide o (fa.decide o r k).request (fa.decide o r k).keys).decision,
        pair (fa.decide o r k).flow
          (fb.decide o (fa.decide o r k).request (fa.decide o r k).keys).flow,
        (fb.decide o (fa.decide o r k).request (fa.decide o r k).keys).request,
        (fb.decide o (fa.decide o r k).request (fa.decide o r k).keys).keys⟩)
    (fa fb : Limiter.Flow) (k : KeySource) (steps : List (Outcome × Option Request)) :
    (pair fa fb).runOn k steps =
      (List.zipWith op (fa.runOn k steps).1 (fb.runOn k steps).1,
        pair (fa.runOn k steps).2 (fb.runOn k steps).2) := by
  induction steps generalizing fa fb k with
  | nil => rfl
  | cons step rest ih =>
    obtain ⟨o, r⟩ := step
    -- the second part decides on what the first left as it would on the step's own request
    obtain ⟨hd, hf⟩ := decide_congr fb o (decide_method fa o r k) (fa.decide o r k).keys k
    have hx := runOn_keys (fa.decide o r k).flow
      (fb.decide o (fa.decide o r k).request (fa.decide o r k).keys).keys (fa.decide o r k).keys rest
    have hy := runOn_keys (fb.decide o r k).flow
      (fb.decide o (fa.decide o r k).request (fa.decide o r k).keys).keys (fb.decide o r k).keys rest
    simp only [runOn, hpair, ih, List.zipWith_cons_cons]
    rw [hd, hf, hx, hy]

end Limiter.Flow

open Limiter.Flow in
/-- `both a b` and `either a b` decide at each step as their parts decide alone, combined, and end as
the pair of the parts' flows. -/
theorem combined_limiters_decide_pointwise (a b : Limiter) (k : KeySource)
    (steps : List (Outcome × Option Request)) :
    (Limiter.both a b).begin.runOn k steps =
      (List.zipWith (fun x y => if x = .giveUp ∨ y = .giveUp then .giveUp
          else if x = .retry ∨ y = .retry then .retry else .pass)
        (a.begin.runOn k steps).1 (b.begin.runOn k steps).1,
       .both (a.begin.runOn k steps).2 (b.begin.runOn k steps).2) ∧
    (Limiter.either a b).begin.runOn k steps =
      (List.zipWith (fun x y => if x = .retry ∨ y = .retry then .retry
          else if x = .giveUp ∨ y = .giveUp then .giveUp else .pass)
        (a.begin.runOn k steps).1 (b.begin.runOn k steps).1,
       .either (a.begin.runOn k steps).2 (b.begin.runOn k steps).2) ∧
    ∀ (fa fb : Limiter.Flow) (o : Outcome) (r : Option Request) (k : KeySource),
      ((Limiter.Flow.both fa fb).decide o r k).request =
          (fb.decide o (fa.decide o r k).request (fa.decide o r k).keys).request ∧
        ((Limiter.Flow.both fa fb).decide o r k).keys =
          (fb.decide o (fa.decide o r k).request (fa.decide o r k).keys).keys ∧
        ((Limiter.Flow.either fa fb).decide o r k).request =
          (fb.decide o (fa.decide o r k).request (fa.decide o r k).keys).request ∧
        ((Limiter.Flow.either fa fb).decide o r k).keys =
          (fb.decide o (fa.decide o r k).request (fa.decide o r k).keys).keys := by
  have hboth : Decision.both = fun x y => if x = .giveUp ∨ y = .giveUp then .giveUp
      else if x = .retry ∨ y = .retry then .retry else .pass := by
    funext x y; exact Decision.both_eq_ite x y
  have heither : Decision.either = fun x y => if x = .retry ∨ y = .retry then .retry
      else if x = .giveUp ∨ y = .giveUp then .giveUp else .pass := by
    funext x y; exact Decision.either_eq_ite x y
  refine ⟨?_, ?_, fun fa fb o r k => ⟨rfl, rfl, rfl, rfl⟩⟩
  · rw [← hboth]
    exact runOn_pair Limiter.Flow.both Decision.both (fun _ _ _ _ _ => rfl) _ _ k steps
  · rw [← heither]
    exact runOn_pair Limiter.Flow.either Decision.either (fun _ _ _ _ _ => rfl) _ _ k steps

/-- `both` is held to its stricter part: failures worth retrying and responses with a listed
status share no budget, and the fourth such failure is one too many for three. -/
example :
    let get : Option Request := some { method := "GET", target := "http://example.invalid/" }
    let refused : Outcome := .transport .connect none
    ((Limiter.both (.maxErrors 3 Outcome.retryable) (.maxErrorResponses 5 [503])).begin.runOn .counter
      [(.ofStatus 503 none, get), (refused, get), (refused, get), (.ofStatus 503 none, get),
        (refused, get), (refused, get)]).1 =
      [.retry, .retry, .retry, .retry, .retry, .giveUp] := by
  decide

end HttpRetry
