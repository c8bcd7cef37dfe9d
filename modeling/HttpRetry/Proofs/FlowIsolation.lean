import Mathlib.Data.List.Forall2
import HttpRetry.Proofs.LimiterCompose
import HttpRetry.Proofs.ScheduleDelays

/-!
Flows of one orchestrator driven together run as each would alone. A schedule with no jitter
draws on no generator and a limiter decides without looking at the key source, so in any
interleaving (`Flow.runCrowd`) each flow answers as it would alone, up to which keys of the shared
tape it draws (`Flow.KeyTwin`). Main statement, `crowd_flows_run_alone`.
-/

namespace HttpRetry

/-! ### Values alike but for generated keys -/

section KeyTwin

variable (ks : KeySource)

/-- Two header values alike but for generated keys: the same value, or two keys from the tape of
`ks`. -/
def KeyLike (v v' : String) : Prop :=
  v = v' ∨ (∃ i, v = ks.key i) ∧ ∃ j, v' = ks.key j

theorem KeyLike.refl (v : String) : KeyLike ks v v := .inl rfl

variable {ks}

/-- Values alike are empty together: a generated key is never empty. -/
theorem KeyLike.isEmpty_eq {v v' : String} (h : KeyLike ks v v') : v.isEmpty = v'.isEmpty := by
  rcases h with rfl | ⟨⟨i, rfl⟩, ⟨j, rfl⟩⟩
  · rfl
  · rw [ks.key_isEmpty i, ks.key_isEmpty j]

/-- Two keys drawn from sources on the tape of `ks` are alike. -/
theorem KeyLike.uuid {k k' : KeySource} (hk : k.key = ks.key) (hk' : k'.key = ks.key) :
    KeyLike ks k.uuid.1 k'.uuid.1 :=
  .inr ⟨⟨k.drawn, by rw [← hk]; rfl⟩, ⟨k'.drawn, by rw [← hk']; rfl⟩⟩

variable (ks)

/-- Two header maps alike but for generated keys: the same names in the same order, each with
values alike. -/
def Header.KeyTwin (h h' : Header) : Prop :=
  List.Forall₂ (fun e e' => e.1 = e'.1 ∧ List.Forall₂ (KeyLike ks) e.2 e'.2) h.entries h'.entries

namespace Header.KeyTwin

variable {ks} {h h' : Header}

theorem refl (h : Header) : h.KeyTwin ks h :=
  List.forall₂_same.2 fun _ _ => ⟨rfl, List.forall₂_same.2 fun v _ => KeyLike.refl ks v⟩

theorem names (ht : h.KeyTwin ks h') : h.entries.map (·.1) = h'.entries.map (·.1) := by
  obtain ⟨es⟩ := h
  obtain ⟨es'⟩ := h'
  unfold Header.KeyTwin at ht
  dsimp only at ht ⊢
  induction ht with
  | nil => rfl
  | cons he _ ih => rw [List.map_cons, List.map_cons, he.1, ih]

/-- The values stored under a name are alike. -/
theorem valuesRaw (ht : h.KeyTwin ks h') (name : String) :
    List.Forall₂ (KeyLike ks) (h.valuesRaw name) (h'.valuesRaw name) := by
  obtain ⟨es⟩ := h
  obtain ⟨es'⟩ := h'
  unfold Header.KeyTwin at ht
  unfold Header.valuesRaw
  dsimp only at ht ⊢
  -- the search meets entries of the same names on both sides
  induction ht with
  | nil => exact .nil
  | cons he _ ih =>
    rw [List.find?_cons, List.find?_cons, he.1]
    cases e : (_ == name)
    · exact ih
    · exact he.2

/-- The first values under a name are alike. -/
theorem get (ht : h.KeyTwin ks h') (name : String) : KeyLike ks (h.get name) (h'.get name) := by
  unfold Header.get Header.values
  have hv := ht.valuesRaw (canonicalName name)
  generalize h.valuesRaw (canonicalName name) = vs at hv ⊢
  generalize h'.valuesRaw (canonicalName name) = vs' at hv ⊢
  cases hv with
  | nil => exact KeyLike.refl ks ""
  | cons hv _ => exact hv

/-- Storing values alike under a name keeps header maps alike. -/
theorem putRaw (ht : h.KeyTwin ks h') (name : String) {vs vs' : List String}
    (hvs : List.Forall₂ (KeyLike ks) vs vs') : (h.putRaw name vs).KeyTwin ks (h'.putRaw name vs') := by
  have hany : h.entries.any (·.1 == name) = h'.entries.any (·.1 == name) := by
    have hmap := congrArg (List.any · (· == name)) ht.names
    simpa [List.any_map, Function.comp_def] using hmap
  unfold Header.putRaw
  rw [hany]
  split
  · -- the name is stored: its values are replaced in place
    refine List.forall₂_map_left_iff.2 (List.forall₂_map_right_iff.2 (ht.imp ?_))
    intro e e' he
    rw [he.1]
    split
    · exact ⟨rfl, hvs⟩
    · exact he
  · exact List.rel_append ht (.cons ⟨rfl, hvs⟩ .nil)

theorem set (ht : h.KeyTwin ks h') (name : String) {v v' : String} (hv : KeyLike ks v v') :
    (h.set name v).KeyTwin ks (h'.set name v') :=
  ht.putRaw _ (.cons hv .nil)

theorem add (ht : h.KeyTwin ks h') (name value : String) :
    (h.add name value).KeyTwin ks (h'.add name value) :=
  ht.putRaw _ (List.rel_append (ht.valuesRaw _) (.cons (KeyLike.refl ks value) .nil))

end Header.KeyTwin

/-- Two requests alike but for generated keys: the same but for header maps alike. -/
structure Request.KeyTwin (r r' : Request) : Prop where
  same : { r with header := none } = { r' with header := none }
  header : Option.Rel (Header.KeyTwin ks) r.header r'.header

namespace Request.KeyTwin

variable {ks} {r r' : Request}

theorem refl (r : Request) : r.KeyTwin ks r :=
  ⟨rfl, match r.header with
    | some h => .some (Header.KeyTwin.refl h)
    | none => .none⟩

theorem method (hr : r.KeyTwin ks r') : r.method = r'.method := by
  have h := congrArg Request.method hr.same
  exact h

theorem withHeader (hr : r.KeyTwin ks r') : r.withHeader.KeyTwin ks r'.withHeader := by
  unfold Request.withHeader
  have hh := hr.header
  generalize r.header = x at hh ⊢
  generalize r'.header = x' at hh ⊢
  cases hh with
  | some ht => exact ht
  | none => exact Header.KeyTwin.refl {}

/-- Giving requests alike header maps alike keeps them alike. -/
theorem withHeaders (hr : r.KeyTwin ks r') {h h' : Header} (ht : h.KeyTwin ks h') :
    { r with header := some h }.KeyTwin ks { r' with header := some h' } :=
  ⟨hr.same, .some ht⟩

end Request.KeyTwin

variable {ks}

/-- Requests alike, where present, have the same methods. -/
theorem Request.KeyTwin.map_method {r r' : Option Request}
    (hr : Option.Rel (Request.KeyTwin ks) r r') : r.map Request.method = r'.map Request.method := by
  cases hr with
  | some h => rw [Option.map_some, Option.map_some, h.method]
  | none => rfl

/-- Requests alike, or else fallbacks alike. -/
theorem Request.KeyTwin.getD {x x' : Option Request} (hx : Option.Rel (Request.KeyTwin ks) x x')
    {r r' : Request} (hr : r.KeyTwin ks r') : (x.getD r).KeyTwin ks (x'.getD r') := by
  cases hx with
  | some h => exact h
  | none => exact hr

/-- Marking requests alike leaves them alike, whatever keys are drawn from the tape of `ks`. -/
theorem Marking.apply_keyTwin (m : Marking) {r r' : Request} (hr : r.KeyTwin ks r') (n : Nat)
    {k k' : KeySource} (hk : k.key = ks.key) (hk' : k'.key = ks.key) :
    (m.apply r n k).1.KeyTwin ks (m.apply r' n k').1 := by
  have hh := hr.withHeader
  cases m with
  | appendCount name => exact hr.withHeaders (hh.add name _)
  | countHeader name => exact hr.withHeaders (hh.set name (KeyLike.refl ks _))
  | idempotencyKey name =>
    -- both draw a key exactly when the header holds no value
    have hempty := (hh.get name).isEmpty_eq
    simp only [Marking.apply]
    rw [hempty]
    by_cases hc : (r'.withHeader.get name).isEmpty
    · simp only [hc, if_true]
      exact hr.withHeaders (hh.set name (KeyLike.uuid hk hk'))
    · simp only [hc, Bool.false_eq_true, if_false]
      exact hr.withHeaders hh

end KeyTwin

/-- Marking draws its keys along the same tape. -/
theorem Marking.apply_key (m : Marking) (r : Request) (n : Nat) (k : KeySource) :
    (m.apply r n k).2.key = k.key := by
  cases m with
  | idempotencyKey name =>
    simp only [Marking.apply]
    split <;> rfl
  | _ => rfl

/-- Deciding draws its keys along the same tape. -/
theorem Limiter.Flow.decide_key (f : Limiter.Flow) (o : Outcome) (r : Option Request)
    (k : KeySource) : (f.decide o r k).keys.key = k.key := by
  induction f generalizing r k with
  | giveUp => rfl
  | errorBudget n accepts =>
    simp only [decide]
    split_ifs <;> rfl
  | responseBudget n codes =>
    cases r <;> simp only [decide] <;> split_ifs <;> rfl
  | both a b iha ihb | either a b iha ihb =>
    simp only [decide]
    rw [ihb, iha]
  | marking inner m n ih =>
    simp only [decide]
    split
    · rw [Marking.apply_key, ih]
    · exact ih r k

/-- A response budget hands its request on as it came, whatever it decides. -/
theorem Limiter.Flow.decide_responseBudget_request (n : Nat) (codes : List Int) (o : Outcome)
    (r : Option Request) (k : KeySource) :
    ((Limiter.Flow.responseBudget n codes).decide o r k).request = r := by
  cases r <;> simp only [decide] <;> split_ifs <;> rfl

/-- Deciding on requests alike, with keys from the tape of `ks`, leaves requests alike. -/
theorem Limiter.Flow.decide_keyTwin {ks : KeySource} (f : Limiter.Flow) (o : Outcome)
    {r r' : Option Request} (hr : Option.Rel (Request.KeyTwin ks) r r') {k k' : KeySource}
    (hk : k.key = ks.key) (hk' : k'.key = ks.key) :
    Option.Rel (Request.KeyTwin ks) (f.decide o r k).request (f.decide o r' k').request := by
  induction f generalizing r r' k k' with
  | giveUp => exact hr
  | errorBudget n accepts =>
    simp only [decide]
    split
    · exact hr
    · split <;> exact hr
  | responseBudget n codes =>
    rw [decide_responseBudget_request, decide_responseBudget_request]
    exact hr
  | both a b iha ihb | either a b iha ihb =>
    exact ihb (iha hr hk hk') (by rw [decide_key, hk]) (by rw [decide_key, hk'])
  | marking inner m n ih =>
    have hx := ih hr hk hk'
    have hd := (decide_congr inner o (Request.KeyTwin.map_method hr) k k').1
    have hxk := (decide_key inner o r k).trans hk
    have hxk' := (decide_key inner o r' k').trans hk'
    simp only [decide]
    generalize inner.decide o r k = x at hx hd hxk ⊢
    generalize inner.decide o r' k' = x' at hx hd hxk' ⊢
    obtain ⟨d, fl, xr, xk⟩ := x
    obtain ⟨d', fl', xr', xk'⟩ := x'
    dsimp only at hx hd hxk hxk' ⊢
    subst hd
    -- a retry marks the requests, each with keys from its own place on the tape
    cases hx with
    | some h =>
      cases d with
      | retry => exact .some (m.apply_keyTwin h _ hxk hxk')
      | giveUp => exact .some h
      | pass => exact .some h
    | none => cases d <;> exact .none

/-! ### Schedules that draw on no generator -/

namespace Schedule.Cursor

/-- A cursor with no jitter inside: its delays draw on no generator. -/
def steady : Schedule.Cursor → Bool
  | capped c _ => c.steady
  | jitter .. => false
  | advised c .. => c.steady
  | _ => true

variable {c : Schedule.Cursor}

/-- A steady cursor's next delay and cursor are the same for any generators, which it leaves
as they are. -/
theorem next_of_steady (hc : c.steady = true) (g g' : Array Random.Generator) :
    c.next g = ((c.next g').1, (c.next g').2.1, g) := by
  induction c with
  | constant d => rfl
  | exponential f n => rfl
  | capped c m ih =>
    rw [next_capped, next_capped, ih hc]
  | jitter c slot => cases hc
  | advised c mode m clock seen advice ih =>
    rw [next_advised, next_advised, ih hc]
  | listed ds last => cases ds <;> rfl

theorem steady_next (hc : c.steady = true) (g : Array Random.Generator) :
    (c.next g).2.1.steady = true := by
  induction c with
  | constant d => rfl
  | exponential f n => rfl
  | capped c m ih =>
    rw [next_capped]
    exact ih hc
  | jitter c slot => cases hc
  | advised c mode m clock seen advice ih =>
    rw [next_advised]
    exact ih hc
  | listed ds last => cases ds <;> rfl

theorem steady_observe (hc : c.steady = true) (o : Option Outcome) : (c.observe o).steady = true := by
  induction c with
  | constant d => rfl
  | exponential f n => rfl
  | capped c m ih =>
    rw [observe_capped]
    exact ih hc
  | jitter c slot => cases hc
  | advised c mode m clock seen advice ih =>
    rw [observe_advised]
    exact ih hc
  | listed ds last => rfl

/-- A retry's delay from a steady cursor is the same for any generators. -/
theorem delayAfter_of_steady (hc : c.steady = true) (o : Outcome) (g g' : Array Random.Generator) :
    c.delayAfter o g = ((c.delayAfter o g').1, (c.delayAfter o g').2.1, g) := by
  unfold delayAfter
  split
  · exact next_of_steady (steady_observe hc _) g g'
  · exact next_of_steady hc g g'

theorem steady_delayAfter (hc : c.steady = true) (o : Outcome) (g : Array Random.Generator) :
    (c.delayAfter o g).2.1.steady = true := by
  unfold delayAfter
  split
  · exact steady_next (steady_observe hc _) g
  · exact steady_next hc g

end Schedule.Cursor

/-- A schedule with no jitter begins steady cursors. -/
theorem Schedule.steady_beginAt {s : Schedule} (hs : s.seeds = []) (n : Nat) :
    (s.beginAt n).1.steady = true := by
  induction s generalizing n with
  | constant d => rfl
  | exponential f => rfl
  | capped s m ih => exact ih hs n
  | jitter s seed => cases hs
  | advised s mode m clock ih => exact ih hs n
  | listed ds => rfl

/-! ### One call on flows alike -/

namespace Flow

section KeyTwin

variable (ks : KeySource)

/-- Two flows alike but for generated keys in their requests. -/
structure KeyTwin (f f' : Flow) : Prop where
  request : f.request.KeyTwin ks f'.request
  limiter : f.limiter = f'.limiter
  schedule : f.schedule = f'.schedule
  state : f.state = f'.state
  last : f.last = f'.last
  attempts : f.attempts = f'.attempts

theorem KeyTwin.refl (f : Flow) : f.KeyTwin ks f :=
  ⟨Request.KeyTwin.refl _, rfl, rfl, rfl, rfl, rfl⟩

/-- Two answers alike but for generated keys: requests alike, or the same step or failure. -/
def Answer.KeyTwin : Except UsageError Answer → Except UsageError Answer → Prop
  | .ok (.request r), .ok (.request r') => r.KeyTwin ks r'
  | a, a' => a = a'

variable {ks} {f f' : Flow} {sh sh' : Shared}

/-- Flows alike decide alike, on shared states that draw keys from the tape of `ks`: the same
decision and limiter flow, and requests alike. -/
theorem KeyTwin.decideOn (hf : f.KeyTwin ks f') (o : Outcome) (hk : sh.keys.key = ks.key)
    (hk' : sh'.keys.key = ks.key) :
    (f.decideOn o sh).decision = (f'.decideOn o sh').decision ∧
      (f.decideOn o sh).flow = (f'.decideOn o sh').flow ∧
      ((f.decideOn o sh).request.getD f.request).KeyTwin ks
        ((f'.decideOn o sh').request.getD f'.request) := by
  have hr : Option.Rel (Request.KeyTwin ks) (some f.request) (some f'.request) := .some hf.request
  unfold Flow.decideOn
  rw [← hf.limiter]
  obtain ⟨hd, hfl⟩ := Limiter.Flow.decide_congr f.limiter o (Request.KeyTwin.map_method hr) sh.keys sh'.keys
  exact ⟨hd, hfl, Request.KeyTwin.getD (f.limiter.decide_keyTwin o hr hk hk') hf.request⟩

/-- One call on flows alike, over shared states that draw keys from the tape of `ks`, answers
alike and leaves them alike, the schedule drawing on no generator. -/
theorem call_keyTwin (hf : f.KeyTwin ks f') (hs : f.schedule.steady = true)
    (hk : sh.keys.key = ks.key) (hk' : sh'.keys.key = ks.key) (c : Call) :
    Answer.KeyTwin ks (call f sh c).1 (call f' sh' c).1 ∧
      (call f sh c).2.1.KeyTwin ks (call f' sh' c).2.1 ∧ (call f sh c).2.1.schedule.steady = true := by
  cases c with
  | next =>
    by_cases hr : f.state = .awaitSend ∨ f.state = .delaying
    · rw [call_next_ready hr, call_next_ready (hf.state ▸ hr)]
      exact ⟨hf.request, ⟨hf.request, hf.limiter, hf.schedule, rfl, hf.last, by rw [hf.attempts]⟩, hs⟩
    · have hb := FlowState.busy_of_not_ready hr
      rw [call_next_busy hb, call_next_busy (hf.state ▸ hb), hf.state]
      exact ⟨rfl, hf, hs⟩
  | report o =>
    by_cases ho : f.state = .awaitOutcome
    · cases o with
      | none =>
        rw [call_report_none ho, call_report_none (hf.state ▸ ho)]
        exact ⟨rfl, hf, hs⟩
      | some o =>
        obtain ⟨hd, hfl, hreq⟩ := hf.decideOn o hk hk'
        by_cases hretry : (f.decideOn o sh).decision = .retry
        · -- a retry: the steady schedule gives the same delay on both sides
          have hdelay := Schedule.Cursor.delayAfter_of_steady hs o sh.generators sh'.generators
          rw [call_report_retry ho hretry, call_report_retry (hf.state ▸ ho) (hd ▸ hretry),
            ← hf.schedule, hdelay]
          exact ⟨rfl, ⟨hreq, hfl, rfl, rfl, rfl, hf.attempts⟩,
            Schedule.Cursor.steady_delayAfter hs o sh'.generators⟩
        · rw [call_report_final ho hretry, call_report_final (hf.state ▸ ho) (hd ▸ hretry), hd]
          exact ⟨rfl, ⟨hreq, hfl, hf.schedule, rfl, rfl, hf.attempts⟩, hs⟩
    · rw [call_report_out_of_turn ho, call_report_out_of_turn (hf.state ▸ ho), hf.state]
      exact ⟨rfl, hf, hs⟩

end KeyTwin

/-- A call draws its keys along the shared state's tape. -/
theorem call_key (f : Flow) (sh : Shared) (c : Call) : (call f sh c).2.2.keys.key = sh.keys.key := by
  cases c with
  | next =>
    simp only [call]
    split <;> rfl
  | report o =>
    by_cases ho : f.state = .awaitOutcome
    · cases o with
      | none => rw [call_report_none ho]
      | some o =>
        by_cases hretry : (f.decideOn o sh).decision = .retry
        · rw [call_report_retry ho hretry]
          exact Limiter.Flow.decide_key ..
        · rw [call_report_final ho hretry]
          exact Limiter.Flow.decide_key ..
    · rw [call_report_out_of_turn ho]

/-- A run draws its keys along the tape of the shared state it starts from. -/
theorem run_key (f : Flow) (sh : Shared) (cs : List Call) :
    (run f sh cs).shared.keys.key = sh.keys.key := by
  induction cs using List.reverseRecOn with
  | nil => rfl
  | append_singleton cs c ih => rw [run_append_singleton, Run.call_shared, call_key, ih]

/-! ### Flows driven together -/

/-- The items of an indexed list that carry index `i`, in order. -/
def ofIndex {α : Type} (i : Nat) (xs : List (Nat × α)) : List α :=
  xs.filterMap fun x => if x.1 = i then some x.2 else none

theorem ofIndex_append_singleton {α : Type} (i j : Nat) (xs : List (Nat × α)) (x : α) :
    ofIndex i (xs ++ [(j, x)]) = ofIndex i xs ++ if j = i then [x] else [] := by
  by_cases h : j = i
  · simp [ofIndex, h]
  · simp [ofIndex, h]

/-- Flows driven together in one interleaving of their calls, sharing one state: the flows by
index, the shared state, and each call's answer with the index of its flow. -/
structure Crowd where
  flows : Nat → Flow
  shared : Shared
  answers : List (Nat × Except UsageError Answer)

/-- One call more, on the flow at the index the call names. -/
def Crowd.call (w : Crowd) (ic : Nat × Call) : Crowd :=
  let (a, f, sh) := Flow.call (w.flows ic.1) w.shared ic.2
  ⟨fun j => if j = ic.1 then f else w.flows j, sh, w.answers ++ [(ic.1, a)]⟩

/-- Makes the calls in turn, each on the flow its index names. -/
def runCrowd (fs : Nat → Flow) (sh : Shared) (cs : List (Nat × Call)) : Crowd :=
  cs.foldl Crowd.call ⟨fs, sh, []⟩

theorem runCrowd_append_singleton (fs : Nat → Flow) (sh : Shared) (cs : List (Nat × Call))
    (ic : Nat × Call) : runCrowd fs sh (cs ++ [ic]) = (runCrowd fs sh cs).call ic := by
  simp [runCrowd, List.foldl_append]

theorem Crowd.call_flows_self (w : Crowd) (j : Nat) (c : Call) :
    (w.call (j, c)).flows j = (Flow.call (w.flows j) w.shared c).2.1 := by
  simp [Crowd.call]

/-- A call on one flow leaves the others as they were. -/
theorem Crowd.call_flows_ne (w : Crowd) {i j : Nat} (h : i ≠ j) (c : Call) :
    (w.call (j, c)).flows i = w.flows i := by
  simp [Crowd.call, h]

theorem Crowd.call_answers (w : Crowd) (j : Nat) (c : Call) :
    (w.call (j, c)).answers = w.answers ++ [(j, (Flow.call (w.flows j) w.shared c).1)] := rfl

theorem Run.call_answers (r : Run) (c : Call) :
    (r.call c).answers = r.answers ++ [(Flow.call r.flow r.shared c).1] := rfl

/-- A crowd draws its keys along the tape of the shared state it starts from. -/
theorem runCrowd_key (fs : Nat → Flow) (sh : Shared) (cs : List (Nat × Call)) :
    (runCrowd fs sh cs).shared.keys.key = sh.keys.key := by
  induction cs using List.reverseRecOn with
  | nil => rfl
  | append_singleton cs ic ih =>
    rw [runCrowd_append_singleton, ← ih]
    exact call_key _ _ ic.2

/-- Each flow of a crowd whose schedules draw on no generator stays, call after call, alike to
itself driven alone on its own calls: its answers so far and the flow. -/
theorem runCrowd_keyTwin (fs : Nat → Flow) (hfs : ∀ i, (fs i).schedule.steady = true) (sh : Shared)
    (cs : List (Nat × Call)) (i : Nat) :
    List.Forall₂ (Answer.KeyTwin sh.keys) (ofIndex i (runCrowd fs sh cs).answers)
        (run (fs i) sh (ofIndex i cs)).answers ∧
      ((runCrowd fs sh cs).flows i).KeyTwin sh.keys (run (fs i) sh (ofIndex i cs)).flow ∧
      ((runCrowd fs sh cs).flows i).schedule.steady = true := by
  -- one call at a time from the end; only the flow it names moves
  induction cs using List.reverseRecOn with
  | nil => exact ⟨.nil, KeyTwin.refl _ _, hfs i⟩
  | append_singleton cs ic ih =>
    obtain ⟨j, c⟩ := ic
    obtain ⟨hanswers, hflow, hsteady⟩ := ih
    rw [runCrowd_append_singleton, Crowd.call_answers, ofIndex_append_singleton,
      ofIndex_append_singleton]
    by_cases hji : j = i
    · subst hji
      obtain ⟨ha, hf, hs⟩ := call_keyTwin hflow hsteady (runCrowd_key fs sh cs)
        (run_key (fs j) sh (ofIndex j cs)) c
      simp only [if_true, run_append_singleton, Run.call_answers, Run.call_flow,
        Crowd.call_flows_self]
      exact ⟨List.rel_append hanswers (.cons ha .nil), hf, hs⟩
    · simp only [hji, if_false, List.append_nil, Crowd.call_flows_ne _ (Ne.symm hji)]
      exact ⟨hanswers, hflow, hsteady⟩

end Flow

/-- Flows of a schedule without jitter, in any interleaving, each answer and end as alone, up to the
keys drawn from the shared source. -/
theorem crowd_flows_run_alone (o : Orchestrator) (hs : o.schedule.seeds = []) (rs : Nat → Request)
    (fs : Nat → Flow) (hf : ∀ i, o.begin (some (rs i)) = .ok (fs i)) (sh : Shared)
    (cs : List (Nat × Flow.Call)) (i : Nat) :
    List.Forall₂ (Flow.Answer.KeyTwin sh.keys) (Flow.ofIndex i (Flow.runCrowd fs sh cs).answers)
        (Flow.run (fs i) sh (Flow.ofIndex i cs)).answers ∧
      ((Flow.runCrowd fs sh cs).flows i).KeyTwin sh.keys
        (Flow.run (fs i) sh (Flow.ofIndex i cs)).flow := by
  have hfs : ∀ j, (fs j).schedule.steady = true := by
    intro j
    have hj := hf j
    simp only [Orchestrator.begin, Except.ok.injEq] at hj
    rw [← hj]
    exact Schedule.steady_beginAt hs 0
  obtain ⟨hanswers, hflow, -⟩ := Flow.runCrowd_keyTwin fs hfs sh cs i
  exact ⟨hanswers, hflow⟩

/-- Two flows of the default orchestrator, for GET requests to two targets, with their calls
interleaved: the first answers as it would alone. -/
theorem crowd_flows_run_alone_default :
    let rs : Nat → Request := fun i =>
      { method := "GET", target := "http://example.invalid/" ++ toString i }
    let fs : Nat → Flow := fun i =>
      { request := rs i, limiter := Orchestrator.default.limiter.begin,
        schedule := Orchestrator.default.schedule.begin }
    let cs : List (Nat × Flow.Call) :=
      [(0, .next), (1, .next), (0, .report (some (.transport .connect none))), (1, .report none),
        (0, .next)]
    let sh : Shared := { keys := .counter }
    Orchestrator.default.schedule.seeds = [] ∧ (∀ i, Orchestrator.default.begin (some (rs i)) = .ok (fs i)) ∧
      List.Forall₂ (Flow.Answer.KeyTwin sh.keys) (Flow.ofIndex 0 (Flow.runCrowd fs sh cs).answers)
          (Flow.run (fs 0) sh (Flow.ofIndex 0 cs)).answers ∧
        ((Flow.runCrowd fs sh cs).flows 0).KeyTwin sh.keys
          (Flow.run (fs 0) sh (Flow.ofIndex 0 cs)).flow :=
  ⟨rfl, fun _ => rfl, crowd_flows_run_alone _ rfl _ _ (fun _ => rfl) { keys := .counter } _ 0⟩

end HttpRetry
