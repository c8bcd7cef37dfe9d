import Mathlib.Data.List.Forall2
import HttpRetry.Proofs.FlowProtocol
import HttpRetry.Proofs.Backoff
import HttpRetry.Settings.Resolve
import HttpRetry.Settings.Check

/-!
The delays of a configured schedule: the base delay (`ScheduleSettings.baseDelay`), jittered when
asked (`Schedule.Jittered`), then the advice read at the clock's reading for the observation
(`ScheduleSettings.delayFor`). `ScheduleSettings.cursorAfter` is the built cursor after some
delays, and `cursorAfter_delaysAfter` runs it over every retry. Main statement,
`configured_schedule_delays`.
-/

namespace HttpRetry

/-- The readings of a clock at `n` observations, from the `seen`-th on. -/
def Schedule.readings (clock : Nat → Int) (seen n : Nat) : List Int :=
  (List.range n).map fun k => clock (seen + k)

theorem Schedule.readings_succ (clock : Nat → Int) (seen n : Nat) :
    Schedule.readings clock seen (n + 1) = Schedule.readings clock seen n ++ [clock (seen + n)] := by
  simp [Schedule.readings, List.range_succ]

@[simp] theorem Schedule.readings_length (clock : Nat → Int) (seen n : Nat) :
    (Schedule.readings clock seen n).length = n := by
  simp [Schedule.readings]

theorem List.zipWith3_append {α β γ δ : Type} (f : α → β → γ → δ) {as as' : List α}
    {bs bs' : List β} {cs cs' : List γ} (hab : as.length = bs.length) (hbc : bs.length = cs.length) :
    List.zipWith3 f (as ++ as') (bs ++ bs') (cs ++ cs') =
      List.zipWith3 f as bs cs ++ List.zipWith3 f as' bs' cs' := by
  induction as generalizing bs cs with
  | nil =>
    rw [List.length_nil, eq_comm, List.length_eq_zero_iff] at hab
    subst hab
    rw [List.length_nil, eq_comm, List.length_eq_zero_iff] at hbc
    subst hbc
    rfl
  | cons a as ih =>
    obtain ⟨b, bs, rfl⟩ := List.exists_cons_of_length_eq_add_one hab.symm
    obtain ⟨c, cs, rfl⟩ := List.exists_cons_of_length_eq_add_one hbc.symm
    simp only [List.cons_append, List.zipWith3, List.length_cons, Nat.add_right_cancel_iff] at hab hbc ⊢
    rw [ih hab hbc]

/-- A jittered delay `j` for a delay `c`: zero when `c` is zero, else a draw in `[0, c)`. -/
def Schedule.Jittered (c j : Int) : Prop := (c = 0 ∧ j = 0) ∨ (0 ≤ j ∧ j < c)

theorem Schedule.Jittered.nonneg {c j : Int} (h : Schedule.Jittered c j) : 0 ≤ j := by
  rcases h with ⟨-, rfl⟩ | ⟨h, -⟩
  · exact Int.le_refl 0
  · exact h

/-- The longest duration is not negative. -/
theorem maxDuration_nonneg : 0 ≤ maxDuration := by decide

/-- A server's advice is never negative. -/
theorem retryAdvice_nonneg {h : Option Header} {now a : Int} (ha : retryAdvice h now = some a) :
    0 ≤ a := by
  unfold retryAdvice at ha
  dsimp only at ha
  split at ha
  · cases ha
  · split at ha
    · split_ifs at ha with hneg hbig
      · cases ha
        exact maxDuration_nonneg
      · cases ha
        simp [Time.nanosPerSecond]
        omega
    · obtain ⟨t, -, rfl⟩ := Option.map_eq_some_iff.1 ha
      omega

/-- The advice of a response at the instant `now`; a failure gives none. -/
def Outcome.advice (o : Outcome) (now : Int) : Option Int :=
  match o with
  | .response _ h _ => retryAdvice h now
  | .failed .. => none

/-- The advice of an outcome is never negative. -/
theorem Outcome.advice_nonneg {o : Outcome} {now a : Int} (ha : o.advice now = some a) : 0 ≤ a := by
  cases o with
  | response status h body =>
    rw [Outcome.advice] at ha
    exact retryAdvice_nonneg ha
  | failed kind f => cases ha

namespace ScheduleSettings

variable (s : ScheduleSettings)

/-- The `k`-th delay (from 1) of the schedule before jitter and advice: the constant delay, or
the `k`-th delay of exponential backoff, capped when the cap is positive. -/
def baseDelay (k : Nat) : Int :=
  let b := if s.kind = "constant" then s.delay else Schedule.exponentialDelay s.factor k
  if s.max > 0 then min b s.max else b

/-- The first `n` base delays. -/
def baseDelays (n : Nat) : List Int := (List.range n).map fun k => s.baseDelay (k + 1)

/-- The cap on a server's advice: the configured one when positive, else the longest duration. -/
def adviceCap : Int := if s.maxRetryAfter > 0 then s.maxRetryAfter else maxDuration

/-- The delay before a retry that outcome `o` caused, from the schedule's own delay `c`: the
capped advice under `override`, the larger of it and `c` under `floor`, and `c` without advice
or when advice is ignored. -/
def delayFor (now c : Int) (o : Outcome) : Int :=
  match o.advice now with
  | some a =>
    if s.retryAfter = "override" then min a s.adviceCap
    else if s.retryAfter = "floor" then Max.max (min a s.adviceCap) c
    else c
  | none => c

/-- What a configuration that passes its checks satisfies. -/
structure Valid : Prop where
  kind : s.kind = "constant" ∨ s.kind = "exponential"
  delay : 0 ≤ s.delay
  factor : 0 ≤ s.factor
  max : 0 ≤ s.max
  retryAfter : s.retryAfter = "ignore" ∨ s.retryAfter = "override" ∨ s.retryAfter = "floor"
  maxRetryAfter : 0 ≤ s.maxRetryAfter

/-- A configuration passes its checks exactly when it is `Valid`. -/
theorem faults_eq_nil_iff : s.faults = [] ↔ s.Valid := by
  simp only [faults, FieldFault.oneOf, FieldFault.nonNegative, List.append_eq_nil_iff,
    ite_eq_left_iff, reduceCtorEq, imp_false, not_not, List.contains_iff_mem, List.mem_cons,
    List.not_mem_nil, or_false, ge_iff_le, and_assoc]
  constructor
  · rintro ⟨hkind, hdelay, hfactor, hmax, hmode, hcap⟩
    exact ⟨hkind, hdelay, hfactor, hmax, hmode, hcap⟩
  · rintro ⟨hkind, hdelay, hfactor, hmax, hmode, hcap⟩
    exact ⟨hkind, hdelay, hfactor, hmax, hmode, hcap⟩

/-! ### The cursor, layer by layer -/

/-- The cursor of the base delays after `n` of them: constant, or backoff at its `n`-th delay,
capped when the cap is positive. -/
def plainCursor (n : Nat) : Schedule.Cursor :=
  let base : Schedule.Cursor :=
    if s.kind = "constant" then .constant s.delay else .exponential s.factor n
  if s.max > 0 then .capped base s.max else base

/-- The plain cursor, jittered when asked; its generator is the schedule's first. -/
def jitteredCursor (n : Nat) : Schedule.Cursor :=
  if s.jitter then .jitter (s.plainCursor n) 0 else s.plainCursor n

/-- The built schedule's cursor after `n` delays and `seen` observations, with no advice
pending. -/
def cursorAfter (clock : Nat → Int) (seen n : Nat) : Schedule.Cursor :=
  if s.retryAfter = "override" then .advised (s.jitteredCursor n) .override s.adviceCap clock seen none
  else if s.retryAfter = "floor" then .advised (s.jitteredCursor n) .floor s.adviceCap clock seen none
  else s.jitteredCursor n

variable {s}

/-- The advice cap is never negative. -/
theorem adviceCap_nonneg : 0 ≤ s.adviceCap := by
  unfold adviceCap
  split
  · omega
  · exact maxDuration_nonneg

/-- A valid schedule builds, and its fresh cursor is `cursorAfter` at zero. -/
theorem build_begin (hv : s.Valid) (now : Int) (clock : Nat → Int) :
    ∃ sched, s.build now clock = .ok sched ∧ sched.begin = s.cursorAfter clock 0 0 := by
  obtain ⟨hkind, hdelay, hfactor, hmax, hmode, -⟩ := hv
  have hcap : 0 ≤ s.adviceCap := adviceCap_nonneg
  -- the configured seed gives a generator, whichever it is
  obtain ⟨gen, hgen⟩ : ∃ gen, (s.seedSpec now).generator? = .ok gen := by
    unfold seedSpec
    split <;> exact ⟨_, rfl⟩
  -- the advice cap as the schedule is built: the configured one when positive
  have hadvice : (if s.maxRetryAfter > 0 then some s.maxRetryAfter else none).getD maxDuration =
      s.adviceCap := by
    unfold adviceCap
    split <;> rfl
  -- for each kind and each mode, every step of the builder succeeds, and each layer begins as
  -- `cursorAfter` says
  rcases hkind with hk | hk <;> rcases hmode with hm | hm | hm <;>
    simp only [build, hk, hm, Schedule.constantOf, Schedule.exponentialOf, Schedule.cappedOf,
      Schedule.jitterOf, Schedule.advisedOf, Schedule.require, requireNonNegative_of_nonneg, hdelay,
      hfactor, hmax, hcap, hadvice, hgen, bind, Except.bind, pure, Except.pure,
      AdviceMode.ofCode?] <;>
    split_ifs <;> simp [Schedule.begin, Schedule.beginAt, cursorAfter, jitteredCursor, plainCursor, *]

/-- The base delays are never negative. -/
theorem baseDelay_nonneg (hv : s.Valid) (k : Nat) : 0 ≤ s.baseDelay k := by
  have hexp : 0 ≤ Schedule.exponentialDelay s.factor k := by
    rw [Schedule.exponentialDelay_eq_backoff hv.factor]
    exact Schedule.backoff_nonneg hv.factor k
  have hdelay := hv.delay
  unfold baseDelay
  dsimp only
  split_ifs <;> omega

end ScheduleSettings

/-! ### One delay of each kind of cursor -/

namespace Schedule.Cursor

variable (c : Schedule.Cursor) (g : Array Random.Generator) (o : Option Outcome)

theorem next_constant (d : Int) : (constant d).next g = (d, constant d, g) := rfl

theorem next_capped (m : Int) :
    (capped c m).next g =
      (if (c.next g).1 > m then m else (c.next g).1, capped (c.next g).2.1 m, (c.next g).2.2) := rfl

theorem next_jitter (slot : Nat) :
    (jitter c slot).next g =
      match c.next g with
      | (d, c', g') =>
        if d ≤ 0 then (0, jitter c' slot, g')
        else
          match (g'.getD slot default).below d.toNat with
          | (v, gen) => (v, jitter c' slot, g'.setIfInBounds slot gen) := by
  conv => lhs; unfold Schedule.Cursor.next

variable (clock : Nat → Int) (seen : Nat)

theorem next_advised (mode : AdviceMode) (m : Int) (advice : Option Int) :
    (advised c mode m clock seen advice).next g =
      ((match advice with
        | some a => if mode == .override || a > (c.next g).1 then a else (c.next g).1
        | none => (c.next g).1), advised (c.next g).2.1 mode m clock seen none, (c.next g).2.2) := by
  cases advice <;> rfl

theorem observe_capped (m : Int) : (capped c m).observe o = capped (c.observe o) m := rfl
theorem observe_jitter (slot : Nat) : (jitter c slot).observe o = jitter (c.observe o) slot := rfl

/-- An advised cursor reads the clock at each observation, the `seen`-th reading for the
`seen`-th. -/
theorem observe_advised (mode : AdviceMode) (m : Int) (advice : Option Int) :
    (advised c mode m clock seen advice).observe o =
      advised (c.observe o) mode m clock (seen + 1)
        (match o with
          | some (.response _ h _) => (retryAdvice h (clock seen)).map (min m)
          | _ => none) := rfl

/-- A server's advice reaches an advised cursor capped, read at the clock's reading for the
observation, and only from a response. -/
theorem delayAfter_advised (mode : AdviceMode) (m : Int) (advice : Option Int) (o : Outcome) :
    (advised c mode m clock seen advice).delayAfter o g =
      (advised (c.observe (some o)) mode m clock (seen + 1)
        ((o.advice (clock seen)).map (min m))).next g := by
  cases o <;> rfl

end Schedule.Cursor

/-- A draw below a positive bound falls below it. -/
theorem Random.Generator.below_lt (g : Random.Generator) {n : Nat} (hn : 0 < n) :
    (g.below n).1 < n := by
  simp only [Random.Generator.below]
  split
  · -- a power of two: the draw is masked
    exact Nat.lt_of_le_of_lt Nat.and_le_right (by omega)
  · exact Nat.mod_lt _ hn

/-! ### The built cursor, layer by layer -/

namespace ScheduleSettings

variable {s : ScheduleSettings}

/-- The plain cursor takes note of nothing. -/
theorem plainCursor_observe (n : Nat) (o : Option Outcome) :
    (s.plainCursor n).observe o = s.plainCursor n := by
  unfold plainCursor
  split_ifs <;> rfl

/-- The plain cursor gives the next base delay and leaves the generators alone. -/
theorem plainCursor_next (n : Nat) (g : Array Random.Generator) :
    (s.plainCursor n).next g = (s.baseDelay (n + 1), s.plainCursor (n + 1), g) := by
  unfold plainCursor baseDelay
  by_cases hk : s.kind = "constant" <;> by_cases hm : s.max > 0 <;>
    simp only [hk, hm, if_true, if_false, Schedule.Cursor.next_capped,
      Schedule.Cursor.next_constant, Schedule.Cursor.next_exponential, Prod.mk.injEq, and_true] <;>
    omega

/-- The jittered cursor takes note of nothing. -/
theorem jitteredCursor_observe (n : Nat) (o : Option Outcome) :
    (s.jitteredCursor n).observe o = s.jitteredCursor n := by
  unfold jitteredCursor
  split_ifs
  · rw [Schedule.Cursor.observe_jitter, plainCursor_observe]
  · exact plainCursor_observe n o

/-- The jittered cursor moves one place on. -/
theorem jitteredCursor_next_cursor (n : Nat) (g : Array Random.Generator) :
    ((s.jitteredCursor n).next g).2.1 = s.jitteredCursor (n + 1) := by
  unfold jitteredCursor
  cases s.jitter
  · simp [plainCursor_next]
  · simp only [if_true, Schedule.Cursor.next_jitter, plainCursor_next]
    split_ifs <;> rfl

/-- Without jitter, the jittered cursor is the plain one. -/
theorem jitteredCursor_next_of_plain (hj : s.jitter = false) (n : Nat) (g : Array Random.Generator) :
    (s.jitteredCursor n).next g = (s.baseDelay (n + 1), s.jitteredCursor (n + 1), g) := by
  simp [jitteredCursor, hj, plainCursor_next]

/-- With jitter, the delay is a draw below the base delay. -/
theorem jitteredCursor_next_jittered (hv : s.Valid) (hj : s.jitter = true) (n : Nat)
    (g : Array Random.Generator) :
    Schedule.Jittered (s.baseDelay (n + 1)) ((s.jitteredCursor n).next g).1 := by
  have hbase := baseDelay_nonneg hv (n + 1)
  simp only [jitteredCursor, hj, if_true, Schedule.Cursor.next_jitter, plainCursor_next]
  by_cases hpos : s.baseDelay (n + 1) ≤ 0
  · simp only [hpos, if_true]
    exact .inl ⟨by omega, rfl⟩
  · simp only [hpos, if_false]
    -- the draw falls below the delay
    have hlt : ((g.getD 0 default).below (s.baseDelay (n + 1)).toNat).1 <
        (s.baseDelay (n + 1)).toNat :=
      Random.Generator.below_lt _ (by omega)
    rcases hb : (g.getD 0 default).below (s.baseDelay (n + 1)).toNat with ⟨v, gen⟩
    rw [hb] at hlt
    exact .inr ⟨by omega, by omega⟩

/-- The jittered cursor's delays are never negative. -/
theorem jitteredCursor_next_nonneg (hv : s.Valid) (n : Nat) (g : Array Random.Generator) :
    0 ≤ ((s.jitteredCursor n).next g).1 := by
  cases hj : s.jitter
  · rw [jitteredCursor_next_of_plain hj]
    exact baseDelay_nonneg hv (n + 1)
  · exact (jitteredCursor_next_jittered hv hj n g).nonneg

/-- The jittered cursor's next delay is the same after an outcome as before it. -/
theorem jitteredCursor_delayAfter (n : Nat) (o : Outcome) (g : Array Random.Generator) :
    (s.jitteredCursor n).delayAfter o g = (s.jitteredCursor n).next g := by
  unfold Schedule.Cursor.delayAfter
  rw [jitteredCursor_observe, ite_self]

/-- The delay a retry waits is never negative when the schedule's own delay is not. -/
theorem delayFor_nonneg {now c : Int} (o : Outcome) (hc : 0 ≤ c) : 0 ≤ s.delayFor now c o := by
  have hcap : 0 ≤ s.adviceCap := adviceCap_nonneg
  unfold delayFor
  split
  next a ha =>
    have h0 : 0 ≤ a := Outcome.advice_nonneg ha
    split_ifs <;> omega
  next => exact hc

/-- One retry's delay from the built cursor: `delayFor` of the clock's reading for the
observation, the jittered cursor's delay and the outcome. The cursor moves one place on, and the
generators move as the jittered cursor moves them. -/
theorem cursorAfter_delayAfter (clock : Nat → Int) (seen n : Nat) (o : Outcome)
    (g : Array Random.Generator) :
    (s.cursorAfter clock seen n).delayAfter o g =
      (s.delayFor (clock seen) ((s.jitteredCursor n).next g).1 o, s.cursorAfter clock (seen + 1) (n + 1),
        ((s.jitteredCursor n).next g).2.2) := by
  have hc := jitteredCursor_next_cursor (s := s) n g
  unfold cursorAfter delayFor
  split_ifs with hov hfl
  · -- override: the capped advice, when there is some
    rw [Schedule.Cursor.delayAfter_advised, jitteredCursor_observe, Schedule.Cursor.next_advised, hc]
    cases o.advice (clock seen) with
    | none => rfl
    | some a => simp [Int.min_comm]
  · -- floor: the larger of the capped advice and the schedule's delay
    rw [Schedule.Cursor.delayAfter_advised, jitteredCursor_observe, Schedule.Cursor.next_advised, hc]
    cases o.advice (clock seen) with
    | none => rfl
    | some a =>
      have hfloor : (AdviceMode.floor == AdviceMode.override) = false := rfl
      simp only [Option.map_some, hfloor, Bool.false_or, decide_eq_true_eq, Prod.mk.injEq, and_true]
      omega
  · -- advice ignored
    rw [jitteredCursor_delayAfter, ← hc]
    cases o.advice (clock seen) <;> rfl

/-- With nothing observed, the built cursor gives the jittered cursor's delay. -/
theorem cursorAfter_next (clock : Nat → Int) (seen n : Nat) (g : Array Random.Generator) :
    (s.cursorAfter clock seen n).next g =
      (((s.jitteredCursor n).next g).1, s.cursorAfter clock seen (n + 1),
        ((s.jitteredCursor n).next g).2.2) := by
  have hc := jitteredCursor_next_cursor (s := s) n g
  unfold cursorAfter
  split_ifs
  · rw [Schedule.Cursor.next_advised, hc]
  · rw [Schedule.Cursor.next_advised, hc]
  · rw [← hc]

theorem baseDelays_succ (n : Nat) : s.baseDelays (n + 1) = s.baseDelays n ++ [s.baseDelay (n + 1)] := by
  simp [baseDelays, List.range_succ]

/-- The delays of the built cursor over the outcomes of successive retries: `delayFor` of each
outcome and the delay drawn for it, which is the base delay without jitter and a jittered draw
of it with jitter. None of them is negative. -/
theorem cursorAfter_delaysAfter (hv : s.Valid) (clock : Nat → Int) (g : Array Random.Generator)
    (os : List Outcome) :
    ∃ js g', (s.cursorAfter clock 0 0).delaysAfter g os =
        (List.zipWith3 s.delayFor (Schedule.readings clock 0 os.length) js os,
          s.cursorAfter clock os.length os.length, g') ∧
      js.length = os.length ∧
      (s.jitter = false → js = s.baseDelays os.length) ∧
      (s.jitter = true → List.Forall₂ Schedule.Jittered (s.baseDelays os.length) js) ∧
      ∀ d ∈ List.zipWith3 s.delayFor (Schedule.readings clock 0 os.length) js os, 0 ≤ d := by
  -- one outcome at a time from the end, as `delaysAfter` folds them
  induction os using List.reverseRecOn with
  | nil => exact ⟨[], g, rfl, rfl, fun _ => rfl, fun _ => .nil, by simp [Schedule.readings]⟩
  | append_singleton os o ih =>
    obtain ⟨js, g', h, hlen, hplain, hjit, hnonneg⟩ := ih
    let j := ((s.jitteredCursor os.length).next g').1
    have hz : List.zipWith3 s.delayFor (Schedule.readings clock 0 (os ++ [o]).length) (js ++ [j])
          (os ++ [o]) =
        List.zipWith3 s.delayFor (Schedule.readings clock 0 os.length) js os ++
          [s.delayFor (clock os.length) j o] := by
      rw [List.length_append, List.length_singleton, Schedule.readings_succ,
        List.zipWith3_append _ (by simp [hlen]) hlen, Nat.zero_add]
      rfl
    refine ⟨js ++ [j], ((s.jitteredCursor os.length).next g').2.2, ?_, ?_, ?_, ?_, ?_⟩
    · rw [Schedule.Cursor.delaysAfter_concat h, cursorAfter_delayAfter, hz, List.length_append,
        List.length_singleton]
    · simp [hlen]
    · intro hj
      rw [hplain hj, List.length_append, List.length_singleton, baseDelays_succ]
      simp only [j, jitteredCursor_next_of_plain hj]
    · intro hj
      rw [List.length_append, List.length_singleton, baseDelays_succ]
      exact List.rel_append (hjit hj) (.cons (jitteredCursor_next_jittered hv hj _ _) .nil)
    · rw [hz]
      intro d hd
      rcases List.mem_append.1 hd with hd | hd
      · exact hnonneg d hd
      · rw [List.mem_singleton.1 hd]
        exact delayFor_nonneg o (jitteredCursor_next_nonneg hv _ _)

/-- Without jitter, the delays listed from the built cursor with nothing observed are the base
delays from its place on. -/
theorem firstDelays_go_cursorAfter (hj : s.jitter = false) (clock : Nat → Int) (seen k : Nat) :
    ∀ n g, Schedule.firstDelays.go k (s.cursorAfter clock seen n) g =
      (List.range k).map fun i => s.baseDelay (n + 1 + i) := by
  induction k with
  | zero => intro n g; rfl
  | succ k ih =>
    intro n g
    rw [Schedule.firstDelays.go, cursorAfter_next, jitteredCursor_next_of_plain hj]
    dsimp only
    rw [ih, List.range_succ_eq_map, List.map_cons, List.map_map]
    congr 1
    apply List.map_congr_left
    intro i _
    simp only [Function.comp]
    congr 1
    omega

end ScheduleSettings

/-- A valid schedule configuration builds; each retry waits `delayFor` of the clock's reading, its
base delay (jittered when asked) and its outcome. -/
theorem configured_schedule_delays (s : ScheduleSettings) (now : Int) (clock : Nat → Int)
    (hvalid : s.faults = []) :
    ∃ sched, s.build now clock = .ok sched ∧
      (∀ (l : Limiter) (r : Request) (f : Flow), (Orchestrator.mk l sched).begin (some r) = .ok f →
        ∀ (sh : Shared) (cs : List Flow.Call),
          let retried := Flow.retryStepsOf (Flow.run f sh cs).log
          ∃ js, (s.jitter = false → js = s.baseDelays retried.length) ∧
            (s.jitter = true → List.Forall₂ Schedule.Jittered (s.baseDelays retried.length) js) ∧
            retried.map Step.delay =
              List.zipWith3 s.delayFor (Schedule.readings clock 0 retried.length) js
                (retried.map Step.outcome)) ∧
      (s.jitter = false → ∀ n, sched.firstDelays n = s.baseDelays n) := by
  have hv : s.Valid := (ScheduleSettings.faults_eq_nil_iff s).1 hvalid
  obtain ⟨sched, hbuild, hbegin⟩ := ScheduleSettings.build_begin hv now clock
  refine ⟨sched, hbuild, ?_, ?_⟩
  · intro l r f hf sh cs retried
    -- the flow's delays are those of the schedule's cursor, clamped at zero
    obtain ⟨ds, hds, hclamp⟩ := (Flow.tracks_run hf sh cs).schedule
    obtain ⟨js, g', hrun, -, hplain, hjit, hnonneg⟩ :=
      ScheduleSettings.cursorAfter_delaysAfter hv clock sh.generators (retried.map Step.outcome)
    have hsched : (Orchestrator.mk l sched).schedule.begin = s.cursorAfter clock 0 0 := hbegin
    rw [hsched, hrun, Prod.mk.injEq] at hds
    rw [List.length_map] at hplain hjit hnonneg hds
    refine ⟨js, hplain, hjit, ?_⟩
    -- no delay is negative, so the clamp changes none
    rw [← hclamp, ← hds.1]
    calc (List.zipWith3 s.delayFor (Schedule.readings clock 0 retried.length) js
            (retried.map Step.outcome)).map (max · 0)
        = (List.zipWith3 s.delayFor (Schedule.readings clock 0 retried.length) js
            (retried.map Step.outcome)).map id :=
          List.map_congr_left fun d hd => Int.max_eq_left (hnonneg d hd)
      _ = List.zipWith3 s.delayFor (Schedule.readings clock 0 retried.length) js
            (retried.map Step.outcome) := List.map_id _
  · intro hj n
    show Schedule.firstDelays.go n sched.begin sched.generators = _
    rw [hbegin, ScheduleSettings.firstDelays_go_cursorAfter hj]
    simp only [ScheduleSettings.baseDelays, Nat.zero_add, Nat.add_comm 1]

/-- Exponential backoff from 100 ns capped at 400 ns, with advice as a floor, passes its checks
and lists 0, 100, 200, 400 and 400 ns. -/
theorem configured_schedule_delays_backoff :
    let s : ScheduleSettings :=
      { kind := "exponential", factor := 100, max := 400, retryAfter := "floor" }
    s.faults = [] ∧ ∃ sched, s.build 0 (fun _ => 0) = .ok sched ∧
      sched.firstDelays 5 = [0, 100, 200, 400, 400] := by
  intro s
  have hfaults : s.faults = [] := by decide
  obtain ⟨sched, hbuild, -, hfirst⟩ := configured_schedule_delays s 0 (fun _ => 0) hfaults
  refine ⟨hfaults, sched, hbuild, ?_⟩
  rw [hfirst rfl 5]
  decide

end HttpRetry
