import HttpRetry.Proofs.FlowIsolation

/-!
Decorators that mark a request on each retry. A decision reads the request only through its
method, which marking keeps, so the decorator decides as the limiter inside
(`Limiter.Flow.decideAll_marking`); over a limiter that marks nothing it changes the request only
on a retry (`Marking.marked`). Main statement, `retry_marking_decorators`; nested decorators each
mark (`nested_attempt_headers_mark_both`).
-/

namespace HttpRetry
namespace Header

variable (h : Header)

/-- The entry found under a name, once the entries under another name are replaced. -/
theorem find?_putRaw_of_ne {key n : String} (hne : n ≠ key) (vs : List String) :
    (h.putRaw key vs).entries.find? (·.1 == n) = h.entries.find? (·.1 == n) := by
  unfold putRaw
  split
  · -- the replaced entries are not under `n`, and every other entry stays as it was
    dsimp only
    rw [List.find?_map]
    have hsame : ((fun x : String × List String => x.1 == n) ∘
        fun e => if (e.1 == key) = true then (key, vs) else e) = (·.1 == n) := by
      funext x
      by_cases hx : x.1 = key <;> simp [hx]
    rw [hsame]
    cases hf : h.entries.find? (·.1 == n) with
    | none => rfl
    | some e =>
      have he : e.1 = n := by simpa using List.find?_some hf
      simp [he, hne]
  · simp [List.find?_append, Ne.symm hne]

theorem valuesRaw_putRaw (key : String) (vs : List String) :
    (h.putRaw key vs).valuesRaw key = vs := by
  by_cases hany : h.entries.any (·.1 == key) = true
  · obtain ⟨e, he, hkey⟩ := List.any_eq_true.1 hany
    obtain ⟨e', he'⟩ : ∃ e', h.entries.find? (·.1 == key) = some e' :=
      Option.isSome_iff_exists.1 (List.find?_isSome.2 ⟨e, he, hkey⟩)
    have hkey' : e'.1 = key := by simpa using List.find?_some he'
    -- the entries under the name are found where they were, now holding `vs`
    have hsame : ((fun x : String × List String => x.1 == key) ∘
        fun e => if (e.1 == key) = true then (key, vs) else e) = (·.1 == key) := by
      funext x
      by_cases hx : x.1 = key <;> simp [hx]
    simp only [valuesRaw, putRaw, hany, if_true, List.find?_map, hsame, he', Option.map_some,
      hkey', beq_self_eq_true]
  · have hnone : h.entries.find? (·.1 == key) = none := by
      rw [List.find?_eq_none]
      intro e he hkey
      exact hany (List.any_eq_true.2 ⟨e, he, hkey⟩)
    simp [valuesRaw, putRaw, hany, List.find?_append, hnone]

theorem valuesRaw_putRaw_of_ne {key n : String} (hne : n ≠ key) (vs : List String) :
    (h.putRaw key vs).valuesRaw n = h.valuesRaw n := by
  unfold valuesRaw
  rw [find?_putRaw_of_ne h hne]

/-- Storing under a name twice keeps only the second values. -/
theorem putRaw_putRaw (key : String) (vs ws : List String) :
    (h.putRaw key vs).putRaw key ws = h.putRaw key ws := by
  by_cases hany : h.entries.any (·.1 == key) = true
  · have hany' : (h.entries.map fun e => if (e.1 == key) = true then (key, vs) else e).any
        (·.1 == key) = true := by
      obtain ⟨e, he, hkey⟩ := List.any_eq_true.1 hany
      exact List.any_eq_true.2 ⟨(key, vs), List.mem_map.2 ⟨e, he, by simp [hkey]⟩, by simp⟩
    simp only [putRaw, hany, hany', if_true, List.map_map, Header.mk.injEq]
    apply List.map_congr_left
    intro e _
    by_cases he : e.1 = key <;> simp [he]
  · have hnone : ∀ e ∈ h.entries, e.1 ≠ key := fun e he hkey =>
      hany (List.any_eq_true.2 ⟨e, he, by simp [hkey]⟩)
    have hlast : (h.entries ++ [(key, vs)]).any (·.1 == key) = true := by simp
    simp only [putRaw, hany, hlast, if_true, Bool.false_eq_true, if_false, List.map_append,
      List.map_cons, List.map_nil, beq_self_eq_true, Header.mk.injEq]
    congr 1
    -- no entry before the new one is under the name
    conv_rhs => rw [← List.map_id h.entries]
    apply List.map_congr_left
    intro e he
    simp [hnone e he]

variable (name v : String)

/-- A value set under a name is its only value. -/
@[simp] theorem values_set : (h.set name v).values name = [v] := valuesRaw_putRaw h _ _

@[simp] theorem get_set : (h.set name v).get name = v := by simp [get]

/-- Setting a value leaves every other name's values as they were. -/
theorem valuesRaw_set_of_ne {n : String} (hne : n ≠ canonicalName name) :
    (h.set name v).valuesRaw n = h.valuesRaw n := valuesRaw_putRaw_of_ne h hne _

/-- Setting a name twice keeps only the second value. -/
@[simp] theorem set_set (w : String) : (h.set name v).set name w = h.set name w :=
  putRaw_putRaw h _ _ _

end Header

/-- Whether some part of a limiter marks requests. -/
def Limiter.marks : Limiter → Bool
  | .both a b | .either a b => a.marks || b.marks
  | .marking .. => true
  | _ => false

/-- Whether some part of a limiter's flow marks requests. -/
def Limiter.Flow.marks : Limiter.Flow → Bool
  | .both a b | .either a b => a.marks || b.marks
  | .marking .. => true
  | _ => false

@[simp] theorem Limiter.marks_begin (l : Limiter) : l.begin.marks = l.marks := by
  induction l with
  | both a b iha ihb | either a b iha ihb =>
    simp [Limiter.begin, Limiter.marks, Limiter.Flow.marks, iha, ihb]
  | _ => rfl

/-- The request and the key source after the marking of the retries `1` to `n` in turn, with
nothing else changing the request. -/
def Marking.marked (m : Marking) (r : Request) (k : KeySource) : Nat → Request × KeySource
  | 0 => (r, k)
  | n + 1 => m.apply (m.marked r k n).1 (n + 1) (m.marked r k n).2

/-- Marking keeps the method. -/
theorem Marking.marked_method (m : Marking) (r : Request) (k : KeySource) (n : Nat) :
    (m.marked r k n).1.method = r.method := by
  induction n with
  | zero => rfl
  | succ n ih => rw [marked, Marking.apply_method, ih]

@[simp] theorem Request.withHeader_some (r : Request) (h : Header) :
    ({ r with header := some h } : Request).withHeader = h := rfl

/-- Retries counted into a header leave only the last retry's number there. -/
theorem Marking.marked_countHeader (name : String) (r : Request) (k : KeySource) (n : Nat) :
    (Marking.countHeader name).marked r k (n + 1) =
      ({ r with header := some (r.withHeader.set name (toString (n + 1))) }, k) := by
  induction n with
  | zero => rfl
  | succ n ih =>
    rw [marked, ih]
    simp [Marking.apply]

/-- A key once given stays: every later retry leaves the request as the first retry left it. -/
theorem Marking.marked_idempotencyKey (name : String) (r : Request) (k : KeySource) (n : Nat) :
    (Marking.idempotencyKey name).marked r k (n + 1) = (Marking.idempotencyKey name).apply r 1 k := by
  induction n with
  | zero => rfl
  | succ n ih =>
    rw [marked, ih]
    by_cases hempty : (r.withHeader.get name).isEmpty = true
    · -- the first retry set a fresh key, which is not empty
      simp [Marking.apply, hempty, KeySource.uuid_isEmpty]
    · simp [Marking.apply, hempty]

namespace Limiter.Flow

variable {o : Outcome}

/-- A flow that marks nothing leaves the request and the key source as they were, and still
marks nothing after deciding. -/
theorem decide_of_not_marks {f : Limiter.Flow} (hf : f.marks = false) (r : Option Request)
    (k : KeySource) :
    (f.decide o r k).request = r ∧ (f.decide o r k).keys = k ∧ (f.decide o r k).flow.marks = false := by
  induction f generalizing r k with
  | giveUp => exact ⟨rfl, rfl, rfl⟩
  | errorBudget n accepts =>
    simp only [decide]
    split
    · exact ⟨rfl, rfl, rfl⟩
    · split <;> exact ⟨rfl, rfl, rfl⟩
  | responseBudget n codes =>
    simp only [decide]
    split
    · exact ⟨rfl, rfl, rfl⟩
    · split
      · split <;> exact ⟨rfl, rfl, rfl⟩
      · exact ⟨rfl, rfl, rfl⟩
  | both a b iha ihb | either a b iha ihb =>
    simp only [marks, Bool.or_eq_false_iff] at hf
    obtain ⟨hra, hka, hfa⟩ := iha hf.1 r k
    -- the second part decides on what the first left untouched
    simp only [decide, marks, hfa, Bool.false_or]
    rw [hra, hka]
    exact ihb hf.2 r k
  | marking => simp [marks] at hf

/-- A decision on a request hands back a request of the same method. -/
theorem decide_some (f : Limiter.Flow) (r : Request) (k : KeySource) :
    ∃ q, (f.decide o (some r) k).request = some q ∧ q.method = r.method := by
  have h := decide_method f o (some r) k
  cases hq : (f.decide o (some r) k).request with
  | none => simp [hq] at h
  | some q => exact ⟨q, rfl, by simpa [hq] using h⟩

/-- A marking flow whose inner flow retries a request marks it and counts the retry. -/
theorem decide_marking_retry {inner : Limiter.Flow} {m : Marking} {n : Nat} {r : Option Request}
    {k : KeySource} {q : Request} (hd : (inner.decide o r k).decision = .retry)
    (hq : (inner.decide o r k).request = some q) :
    (Limiter.Flow.marking inner m n).decide o r k =
      ⟨.retry, .marking (inner.decide o r k).flow m (n + 1),
        some (m.apply q (n + 1) (inner.decide o r k).keys).1,
        (m.apply q (n + 1) (inner.decide o r k).keys).2⟩ := by
  simp only [decide, hd, hq]

/-- A marking flow whose inner flow does not retry passes on what the inner flow decided. -/
theorem decide_marking_of_ne_retry {inner : Limiter.Flow} {m : Marking} {n : Nat}
    {r : Option Request} {k : KeySource} (hd : (inner.decide o r k).decision ≠ .retry) :
    (Limiter.Flow.marking inner m n).decide o r k =
      ⟨(inner.decide o r k).decision, .marking (inner.decide o r k).flow m n,
        (inner.decide o r k).request, (inner.decide o r k).keys⟩ := by
  simp only [decide]
  split
  · rename_i hretry _
    exact absurd hretry hd
  · rfl

/-- Deciding outcomes in turn hands back a request of the same method. -/
theorem decideAll_method (f : Limiter.Flow) (r : Request) (k : KeySource) (os : List Outcome) :
    (f.decideAll r k os).2.2.1.method = r.method := by
  induction os using List.reverseRecOn with
  | nil => rfl
  | append_singleton os o ih =>
    rcases h : f.decideAll r k os with ⟨ds, f', q, k'⟩
    rw [h] at ih
    rw [decideAll_concat h]
    obtain ⟨q', hq', hm⟩ := decide_some f' q k' (o := o)
    simp only [hq', Option.getD_some, hm]
    exact ih

/-- A marking flow decides outcomes in turn as its inner flow does alone, on any request of the
same method, and counts the retries. -/
theorem decideAll_marking (f : Limiter.Flow) (m : Marking) (n : Nat) {r r' : Request}
    (hr : r.method = r'.method) (k k' : KeySource) (os : List Outcome) :
    ((Limiter.Flow.marking f m n).decideAll r k os).1 = (f.decideAll r' k' os).1 ∧
      ((Limiter.Flow.marking f m n).decideAll r k os).2.1 =
        .marking (f.decideAll r' k' os).2.1 m (n + (f.decideAll r' k' os).1.count .retry) := by
  induction os using List.reverseRecOn with
  | nil => exact ⟨rfl, rfl⟩
  | append_singleton os o ih =>
    rcases hA : (Limiter.Flow.marking f m n).decideAll r k os with ⟨ds, F, q, kq⟩
    rcases hB : f.decideAll r' k' os with ⟨ds', F', q', kq'⟩
    have hq := decideAll_method (.marking f m n) r k os
    have hq' := decideAll_method f r' k' os
    rw [hA] at ih hq
    rw [hB] at ih hq'
    dsimp only at ih hq hq'
    obtain ⟨rfl, rfl⟩ := ih
    rw [decideAll_concat hA, decideAll_concat hB]
    -- the inner flow decides alike on both requests, which have one method
    have hm : (some q).map Request.method = (some q').map Request.method := by simp [hq, hq', hr]
    obtain ⟨hd, hfl⟩ := decide_congr F' o hm kq kq'
    obtain ⟨hmd, hmf⟩ := decide_marking F' m (n + ds.count .retry) o (some q) kq
    obtain ⟨q₁, hq₁, -⟩ := decide_some F' q kq (o := o)
    refine ⟨by simp [hmd, hd], ?_⟩
    simp only [hmf, hfl, hq₁, Option.isSome_some, and_true, List.count_append, hd]
    split <;> simp_all [Nat.add_assoc]

/-- A flow that marks nothing decides outcomes in turn without touching the request or the key
source, and still marks nothing after them. -/
theorem decideAll_of_not_marks {f : Limiter.Flow} (hf : f.marks = false) (r : Request)
    (k : KeySource) (os : List Outcome) :
    (f.decideAll r k os).2.2 = (r, k) ∧ (f.decideAll r k os).2.1.marks = false := by
  induction os using List.reverseRecOn with
  | nil => exact ⟨rfl, hf⟩
  | append_singleton os o ih =>
    rcases h : f.decideAll r k os with ⟨ds, f', q, k'⟩
    rw [h] at ih
    obtain ⟨hqk, hf'⟩ := ih
    obtain ⟨hr, hk, hm⟩ := decide_of_not_marks hf' (some q) k' (o := o)
    rw [decideAll_concat h]
    simpa [hr, hk, hm] using hqk

/-- A marking flow over a flow that marks nothing leaves the request and the key source as the
marking of its retries, one after the other, leaves them. -/
theorem decideAll_marking_of_not_marks {f : Limiter.Flow} (hf : f.marks = false) (m : Marking)
    (r : Request) (k : KeySource) (os : List Outcome) :
    ((Limiter.Flow.marking f m 0).decideAll r k os).2.2 =
      m.marked r k ((f.decideAll r k os).1.count .retry) := by
  induction os using List.reverseRecOn with
  | nil => rfl
  | append_singleton os o ih =>
    obtain ⟨hds, hflow⟩ := decideAll_marking f m 0 (rfl : r.method = r.method) k k os
    obtain ⟨hrk, hf'⟩ := decideAll_of_not_marks hf r k os
    rcases hA : (Limiter.Flow.marking f m 0).decideAll r k os with ⟨ds, F, q, kq⟩
    rcases hB : f.decideAll r k os with ⟨ds', F', q', kq'⟩
    rw [hA, hB] at hds hflow ih
    rw [hB] at hrk hf'
    dsimp only at hds hflow ih hrk hf'
    subst hds hflow
    rw [decideAll_concat hA, decideAll_concat hB]
    simp only [Prod.mk.injEq] at hrk
    obtain ⟨rfl, rfl⟩ := hrk
    -- the marked request keeps the method, so the inner flow decides on it as on the original
    have hq : q.method = q'.method := by
      have h := Marking.marked_method m q' kq' (ds.count .retry)
      rwa [← ih] at h
    have hm : (some q).map Request.method = (some q').map Request.method := by simp [hq]
    obtain ⟨hd, -⟩ := decide_congr F' o hm kq kq'
    obtain ⟨hrq, hkq, -⟩ := decide_of_not_marks hf' (some q) kq (o := o)
    by_cases hretry : (F'.decide o (some q) kq).decision = .retry
    · rw [decide_marking_retry hretry hrq]
      simp [List.count_append, ← hd, hretry, Marking.marked, ← ih, hkq]
    · rw [decide_marking_of_ne_retry hretry]
      simp [List.count_append, ← hd, hretry, ih, hrq, hkq]

/-- After a retry, a flow counting retries into a header leaves exactly the retry's number under
it, whatever its inner flow did to the request. -/
theorem decideAll_countHeader (f : Limiter.Flow) (name : String) (r : Request) (k : KeySource)
    (os : List Outcome)
    (hlast : ((Limiter.Flow.marking f (.countHeader name) 0).decideAll r k os).1.getLast? =
      some .retry) :
    ((Limiter.Flow.marking f (.countHeader name) 0).decideAll r k os).2.2.1.withHeader.values name =
      [toString (((Limiter.Flow.marking f (.countHeader name) 0).decideAll r k os).1.count .retry)] := by
  rcases List.eq_nil_or_concat os with rfl | ⟨os, o, rfl⟩
  · simp [decideAll] at hlast
  rw [List.concat_eq_append] at hlast ⊢
  obtain ⟨hds, hflow⟩ := decideAll_marking f (.countHeader name) 0 (rfl : r.method = r.method) k k os
  rcases hA : (Limiter.Flow.marking f (.countHeader name) 0).decideAll r k os with ⟨ds, F, q, kq⟩
  rw [hA] at hds hflow
  dsimp only at hds hflow
  subst hds hflow
  rw [decideAll_concat hA] at hlast ⊢
  simp only [List.getLast?_append, List.getLast?_singleton, Option.some_or,
    Option.some.injEq] at hlast
  -- the last decision is the inner flow's, and it retried the request it handed back
  rw [(decide_marking _ _ _ o (some q) kq).1] at hlast
  obtain ⟨q₁, hq₁, -⟩ := decide_some (f.decideAll r k os).2.1 q kq (o := o)
  rw [decide_marking_retry hlast hq₁]
  simp [Marking.apply, List.count_append]

/-- A marking flow over a flow that marks nothing changes the request and the key source only on
a decision to retry. -/
theorem decideAll_marking_of_ne_retry {f : Limiter.Flow} (hf : f.marks = false) (m : Marking)
    (r : Request) (k : KeySource) (os : List Outcome) (o : Outcome)
    (hd : ((Limiter.Flow.marking f m 0).decideAll r k (os ++ [o])).1.getLast? ≠ some .retry) :
    ((Limiter.Flow.marking f m 0).decideAll r k (os ++ [o])).2.2 =
      ((Limiter.Flow.marking f m 0).decideAll r k os).2.2 := by
  rw [(decideAll_marking f m 0 (rfl : r.method = r.method) k k (os ++ [o])).1] at hd
  rw [decideAll_marking_of_not_marks hf, decideAll_marking_of_not_marks hf]
  rcases hB : f.decideAll r k os with ⟨ds, F, q, kq⟩
  rw [decideAll_concat hB] at hd ⊢
  simp only [List.getLast?_append, List.getLast?_singleton, Option.some_or, ne_eq,
    Option.some.injEq] at hd
  simp [List.count_append, hd]

end Limiter.Flow



namespace Flow

/-- A flow waits only right after a step that did not end it. -/
theorem waits_after_step {log : List Answer}
    (h : log.foldlM FlowState.answer .awaitSend = some .delaying) :
    ∃ log' s, log = log' ++ [.step s] ∧ s.done = false := by
  rcases List.eq_nil_or_concat log with rfl | ⟨log', a, rfl⟩
  · simp at h
  · rw [List.concat_eq_append, List.foldlM_append] at h
    cases hst : log'.foldlM FlowState.answer .awaitSend with
    | none => simp [hst] at h
    | some st =>
      cases a with
      | request q => cases st <;> simp [hst, FlowState.answer] at h
      | step s =>
        refine ⟨log', s, List.concat_eq_append, ?_⟩
        cases st <;> simp [hst, FlowState.answer] at h
        simpa using h

variable {orch : Orchestrator} {r : Request} {sh₀ : Shared} {log : List Answer} {f : Flow}
  {sh : Shared}

/-- A waiting flow's last decision was to retry, and it has been granted one retry per attempt. -/
theorem Tracks.retried (h : Tracks orch r sh₀ log f sh) (hs : f.state = .delaying) :
    ((stepsOf log).map Step.decision).getLast? = some .retry ∧
      ((stepsOf log).map Step.decision).count .retry = f.attempts := by
  obtain ⟨log', s, rfl, hdone⟩ := waits_after_step (hs ▸ h.protocol)
  have hd : s.decision = .retry := by
    have h' := h.done s (by simp)
    rw [hdone] at h'
    simpa using h'
  refine ⟨by simp [hd], ?_⟩
  have hr := h.retries
  rwa [hs] at hr

/-- A Next after the first attempt hands out the flow's request, while the flow waits to retry. -/
theorem Tracks.next_after_first (h : Tracks orch r sh₀ log f sh) {q : Request}
    (hq : (Flow.call f sh .next).1 = .ok (.request q)) (ha : f.attempts ≠ 0) :
    q = f.request ∧ f.state = .delaying := by
  refine ⟨answers_of_call hq, ?_⟩
  rcases (call_ok_iff_inTurn .next).1 ⟨_, hq⟩ with hs | hs
  · exact absurd (h.fresh.1 hs) ha
  · exact hs

/-- The request a Next hands out after the first attempt, on any run of a flow begun for `r`, is
the request as the limiter left it deciding the outcomes reported so far, in turn, on `r`: the last
decision was to retry, one retry was granted per attempt, and the key source is the run's. -/
theorem retried_request (hf : orch.begin (some r) = .ok f) (sh : Shared) (cs : List Call)
    {q : Request} (hq : (call (run f sh cs).flow (run f sh cs).shared .next).1 = .ok (.request q))
    (ha : (run f sh cs).flow.attempts ≠ 0) :
    ∃ os, (orch.limiter.begin.decideAll r sh.keys os).2.2 = (q, (run f sh cs).shared.keys) ∧
      (orch.limiter.begin.decideAll r sh.keys os).1.getLast? = some .retry ∧
      (orch.limiter.begin.decideAll r sh.keys os).1.count .retry = (run f sh cs).flow.attempts := by
  have h := tracks_run hf sh cs
  obtain ⟨rfl, hs⟩ := h.next_after_first hq ha
  obtain ⟨hlast, hcount⟩ := h.retried hs
  refine ⟨((stepsOf (run f sh cs).log).map Step.outcome), ?_⟩
  rw [h.limiter]
  exact ⟨rfl, hlast, hcount⟩

/-- On a run of a flow of a decorator over a limiter that marks nothing, a Next after the `n`-th
attempt hands out the request as the marking of the retries `1` to `n` leaves it, and the key
source is what that marking left. -/
theorem marked_request {l : Limiter} (hl : l.marks = false) {m : Marking} {s : Schedule}
    {f : Flow} (hf : Orchestrator.begin ⟨.marking l m, s⟩ (some r) = .ok f) (sh : Shared)
    (cs : List Call) {q : Request}
    (hq : (call (run f sh cs).flow (run f sh cs).shared .next).1 = .ok (.request q))
    (ha : (run f sh cs).flow.attempts ≠ 0) :
    m.marked r sh.keys (run f sh cs).flow.attempts = (q, (run f sh cs).shared.keys) := by
  obtain ⟨os, hreq, -, hcount⟩ := retried_request hf sh cs hq ha
  dsimp only [Limiter.begin] at hreq hcount
  have hplain : l.begin.marks = false := by rwa [Limiter.marks_begin]
  -- the decorator counts the retries of the limiter inside it, which decides as alone
  have hds := (Limiter.Flow.decideAll_marking l.begin m 0 (rfl : r.method = r.method)
    sh.keys sh.keys os).1
  rw [← hcount, ← hreq]
  rw [Limiter.Flow.decideAll_marking_of_not_marks hplain, hds]

end Flow

/-- The marking decorators build and decide as the limiter inside; the request each Next hands out
carries the attempt number, or a key given at the first retry and kept. -/
theorem retry_marking_decorators (l : Limiter) (name : String) (hname : isHeaderName name = true) :
    Limiter.attemptHeaderOf (some l) name = .ok (.marking l (.countHeader name)) ∧
    Limiter.idempotencyKeyOf (some l) name = .ok (.marking l (.idempotencyKey name)) ∧
    (∀ (m : Marking) (r : Request) (k : KeySource) (os : List Outcome),
      ((Limiter.marking l m).begin.decideAll r k os).1 = (l.begin.decideAll r k os).1) ∧
    (∀ (s : Schedule) (r : Request) (f : Flow) (sh : Shared) (cs : List Flow.Call) (q : Request),
      let R := Flow.run f sh cs
      Orchestrator.begin ⟨.marking l (.countHeader name), s⟩ (some r) = .ok f →
      (Flow.call R.flow R.shared .next).1 = .ok (.request q) → R.flow.attempts ≠ 0 →
      q.withHeader.values name = [toString R.flow.attempts]) ∧
    (l.marks = false →
      (∀ (m : Marking) (r : Request) (k : KeySource) (os : List Outcome) (o : Outcome),
        ((Limiter.marking l m).begin.decideAll r k (os ++ [o])).1.getLast? ≠ some .retry →
        ((Limiter.marking l m).begin.decideAll r k (os ++ [o])).2.2 =
          ((Limiter.marking l m).begin.decideAll r k os).2.2) ∧
      (∀ (s : Schedule) (r : Request) (f : Flow) (sh : Shared) (cs : List Flow.Call) (q : Request),
        let R := Flow.run f sh cs
        Orchestrator.begin ⟨.marking l (.countHeader name), s⟩ (some r) = .ok f →
        (Flow.call R.flow R.shared .next).1 = .ok (.request q) → R.flow.attempts ≠ 0 →
        q = { r with header := some (r.withHeader.set name (toString R.flow.attempts)) } ∧
          ∀ n, n ≠ canonicalName name → q.withHeader.valuesRaw n = r.withHeader.valuesRaw n) ∧
      (∀ (s : Schedule) (r : Request) (f : Flow) (sh : Shared) (cs : List Flow.Call) (q : Request),
        let R := Flow.run f sh cs
        Orchestrator.begin ⟨.marking l (.idempotencyKey name), s⟩ (some r) = .ok f →
        (Flow.call R.flow R.shared .next).1 = .ok (.request q) → R.flow.attempts ≠ 0 →
        (if (r.withHeader.get name).isEmpty then
          q = { r with header := some (r.withHeader.set name sh.keys.uuid.1) } ∧
            R.shared.keys = sh.keys.uuid.2
        else q = { r with header := some r.withHeader } ∧ R.shared.keys = sh.keys) ∧
          ∀ n, n ≠ canonicalName name → q.withHeader.valuesRaw n = r.withHeader.valuesRaw n)) := by
  refine ⟨?_, ?_, ?_, ?_, fun hl => ⟨?_, ?_, ?_⟩⟩
  · simp [Limiter.attemptHeaderOf, Limiter.requireHeaderName, hname, Limiter.onRetry,
      Limiter.require, bind, Except.bind, pure, Except.pure]
  · simp [Limiter.idempotencyKeyOf, Limiter.requireHeaderName, hname, Limiter.onRetry,
      Limiter.require, bind, Except.bind, pure, Except.pure]
  · intro m r k os
    exact (Limiter.Flow.decideAll_marking l.begin m 0 rfl k k os).1
  · intro s r f sh cs q R hf hq ha
    obtain ⟨os, hreq, hlast, hcount⟩ := Flow.retried_request hf sh cs hq ha
    dsimp only [Limiter.begin] at hreq hlast hcount
    have hv := Limiter.Flow.decideAll_countHeader l.begin name r sh.keys os hlast
    rw [show _ = q from congrArg Prod.fst hreq] at hv
    exact hcount ▸ hv
  · intro m r k os o hd
    exact Limiter.Flow.decideAll_marking_of_ne_retry (by rwa [Limiter.marks_begin]) m r k os o hd
  · intro s r f sh cs q R hf hq ha
    obtain ⟨n, hn⟩ := Nat.exists_eq_succ_of_ne_zero ha
    have hm := Flow.marked_request hl hf sh cs hq ha
    rw [hn, Marking.marked_countHeader] at hm
    obtain ⟨rfl, -⟩ := Prod.mk.inj hm
    refine ⟨by rw [hn], fun n' hne => ?_⟩
    exact Header.valuesRaw_set_of_ne _ _ _ hne
  · intro s r f sh cs q R hf hq ha
    obtain ⟨n, hn⟩ := Nat.exists_eq_succ_of_ne_zero ha
    have hm := Flow.marked_request hl hf sh cs hq ha
    rw [hn, Marking.marked_idempotencyKey] at hm
    by_cases hempty : (r.withHeader.get name).isEmpty = true
    · -- a fresh key is set under the name, and only there
      simp only [Marking.apply, hempty, if_true, Prod.mk.injEq] at hm
      obtain ⟨rfl, hkeys⟩ := hm
      rw [if_pos hempty]
      exact ⟨⟨rfl, hkeys.symm⟩, fun n' hne => Header.valuesRaw_set_of_ne _ _ _ hne⟩
    · simp only [Marking.apply, hempty, Bool.false_eq_true, if_false, Prod.mk.injEq] at hm
      obtain ⟨rfl, hkeys⟩ := hm
      rw [if_neg hempty]
      exact ⟨⟨rfl, hkeys.symm⟩, fun _ _ => rfl⟩

/-- The retry markings over three retries of failures worth retrying, under `X-Attempt`. -/
theorem retry_marking_decorators_retryable :
    let l : Limiter := .maxErrors 3 Outcome.retryable
    let name := "X-Attempt"
    isHeaderName name = true ∧
    Limiter.attemptHeaderOf (some l) name = .ok (.marking l (.countHeader name)) ∧
    Limiter.idempotencyKeyOf (some l) name = .ok (.marking l (.idempotencyKey name)) ∧
    (∀ (m : Marking) (r : Request) (k : KeySource) (os : List Outcome),
      ((Limiter.marking l m).begin.decideAll r k os).1 = (l.begin.decideAll r k os).1) ∧
    (∀ (s : Schedule) (r : Request) (f : Flow) (sh : Shared) (cs : List Flow.Call) (q : Request),
      let R := Flow.run f sh cs
      Orchestrator.begin ⟨.marking l (.countHeader name), s⟩ (some r) = .ok f →
      (Flow.call R.flow R.shared .next).1 = .ok (.request q) → R.flow.attempts ≠ 0 →
      q.withHeader.values name = [toString R.flow.attempts]) ∧
    (l.marks = false →
      (∀ (m : Marking) (r : Request) (k : KeySource) (os : List Outcome) (o : Outcome),
        ((Limiter.marking l m).begin.decideAll r k (os ++ [o])).1.getLast? ≠ some .retry →
        ((Limiter.marking l m).begin.decideAll r k (os ++ [o])).2.2 =
          ((Limiter.marking l m).begin.decideAll r k os).2.2) ∧
      (∀ (s : Schedule) (r : Request) (f : Flow) (sh : Shared) (cs : List Flow.Call) (q : Request),
        let R := Flow.run f sh cs
        Orchestrator.begin ⟨.marking l (.countHeader name), s⟩ (some r) = .ok f →
        (Flow.call R.flow R.shared .next).1 = .ok (.request q) → R.flow.attempts ≠ 0 →
        q = { r with header := some (r.withHeader.set name (toString R.flow.attempts)) } ∧
          ∀ n, n ≠ canonicalName name → q.withHeader.valuesRaw n = r.withHeader.valuesRaw n) ∧
      (∀ (s : Schedule) (r : Request) (f : Flow) (sh : Shared) (cs : List Flow.Call) (q : Request),
        let R := Flow.run f sh cs
        Orchestrator.begin ⟨.marking l (.idempotencyKey name), s⟩ (some r) = .ok f →
        (Flow.call R.flow R.shared .next).1 = .ok (.request q) → R.flow.attempts ≠ 0 →
        (if (r.withHeader.get name).isEmpty then
          q = { r with header := some (r.withHeader.set name sh.keys.uuid.1) } ∧
            R.shared.keys = sh.keys.uuid.2
        else q = { r with header := some r.withHeader } ∧ R.shared.keys = sh.keys) ∧
          ∀ n, n ≠ canonicalName name → q.withHeader.valuesRaw n = r.withHeader.valuesRaw n)) :=
  have hname : isHeaderName "X-Attempt" = true := by
    simp [isHeaderName, String.all_bool_eq, isTokenChar]
  ⟨hname, retry_marking_decorators (.maxErrors 3 Outcome.retryable) "X-Attempt" hname⟩

/-- Nested decorators each mark the request: counting retries into `X-B` over a limiter that
counts them into `X-A` hands out, after a failure to connect, a request with `X-A` set as well,
which it did not have. -/
theorem nested_attempt_headers_mark_both :
    let r : Request := { method := "GET", target := "http://example.invalid/" }
    let orch : Orchestrator := ⟨.marking (.marking (.maxErrors 1 Outcome.retryable)
      (.countHeader "X-A")) (.countHeader "X-B"), .constant 0⟩
    let f : Flow := { request := r, limiter := orch.limiter.begin, schedule := orch.schedule.begin }
    let R := Flow.run f { keys := .counter } [.next, .report (some (.transport .connect none))]
    orch.begin (some r) = .ok f ∧ r.withHeader.values "X-A" = [] ∧
      (Flow.call R.flow R.shared .next).1 =
        .ok (.request { r with header := some ((r.withHeader.set "X-A" "1").set "X-B" "1") }) ∧
      ((r.withHeader.set "X-A" "1").set "X-B" "1").values "X-A" = ["1"] := by
  refine ⟨rfl, rfl, rfl, ?_⟩
  have hne : canonicalName "X-A" ≠ canonicalName "X-B" := by
    simp [canonicalName, String.all_bool_eq, isTokenChar]
  rw [Header.values, Header.valuesRaw_set_of_ne _ _ _ hne]
  exact Header.values_set _ _ _

end HttpRetry
