import HttpRetry.Proofs.ScheduleDelays

/-!
A server's advice over a schedule. At each retry the advised cursor lets the cursor inside observe
the outcome, asks it for a delay, and applies the advice read at that observation
(`AdviceMode.delay`); the advice is spent by that delay. Caps and jitter over it pass outcomes down
and only shape delays (`Schedule.Layer`). Main statement, `advised_schedule_delays`.
-/

namespace HttpRetry

/-- The delay before a retry that outcome `o` caused, from the delay `d` of the schedule inside:
with advice `a` from `o` (read at `now`), `a` capped at `m` under `override`, and the larger of
that and `d` under `floor`; `d` when `o` gives no advice. -/
def AdviceMode.delay (mode : AdviceMode) (m now : Int) (o : Outcome) (d : Int) : Int :=
  match o.advice now with
  | some a =>
    match mode with
    | .override => min a m
    | .floor => max (min a m) d
  | none => d

namespace Schedule.Cursor

/-- A cursor that takes no note of outcomes is unchanged by one. -/
theorem observe_of_observes_false {c : Cursor} (h : c.observes = false) (o : Option Outcome) :
    c.observe o = c := by
  cases c with
  | capped _ _ | jitter _ _ | advised _ _ _ _ _ _ => cases h
  | constant _ | exponential _ _ | listed _ _ => rfl

/-- A retry's delay is the next delay once the outcome is observed, whatever the cursor. -/
theorem delayAfter_eq_observe (c : Cursor) (o : Outcome) (g : Array Random.Generator) :
    c.delayAfter o g = (c.observe (some o)).next g := by
  unfold delayAfter
  cases h : c.observes
  · rw [observe_of_observes_false h, if_neg Bool.false_ne_true]
  · rw [if_pos rfl]

theorem delaysAfter_length (c : Cursor) (g : Array Random.Generator) (os : List Outcome) :
    (c.delaysAfter g os).1.length = os.length := by
  induction os using List.reverseRecOn with
  | nil => rfl
  | append_singleton os o ih =>
    rcases hc : c.delaysAfter g os with ⟨ds, c', g'⟩
    rw [hc] at ih
    rw [delaysAfter_concat hc, List.length_append, ih, List.length_append]
    rfl

variable (clock : Nat → Int)

/-- One retry of an advised cursor with no advice pending: the cursor inside observes the
outcome and gives its delay, to which the outcome's advice, read at the clock's reading for the
observation, applies; no advice is left pending. -/
theorem advised_delayAfter (c : Cursor) (mode : AdviceMode) (m : Int) (seen : Nat) (o : Outcome)
    (g : Array Random.Generator) :
    (advised c mode m clock seen none).delayAfter o g =
      (mode.delay m (clock seen) o (c.delayAfter o g).1,
        advised (c.delayAfter o g).2.1 mode m clock (seen + 1) none, (c.delayAfter o g).2.2) := by
  rw [delayAfter_advised, next_advised, delayAfter_eq_observe c]
  unfold AdviceMode.delay
  cases o.advice (clock seen) with
  | none => rfl
  | some a =>
    cases mode with
    | override => simp [Int.min_comm]
    | floor =>
      have hfloor : (AdviceMode.floor == AdviceMode.override) = false := rfl
      simp only [Option.map_some, hfloor, Bool.false_or, decide_eq_true_eq, Prod.mk.injEq, and_true]
      omega

/-- Over the outcomes of successive retries, an advised cursor with no advice pending gives the
rule's delay for each outcome, at the clock's reading for its observation, and the delay that the
cursor inside, driven by the same outcomes as if alone, gives for it. It ends with no advice
pending, and the generators move as the cursor inside moves them. -/
theorem advised_delaysAfter (c : Cursor) (mode : AdviceMode) (m : Int) (seen : Nat)
    (g : Array Random.Generator) (os : List Outcome) :
    (advised c mode m clock seen none).delaysAfter g os =
      (List.zipWith3 (mode.delay m) (Schedule.readings clock seen os.length) os (c.delaysAfter g os).1,
        advised (c.delaysAfter g os).2.1 mode m clock (seen + os.length) none,
        (c.delaysAfter g os).2.2) := by
  induction os using List.reverseRecOn with
  | nil => rfl
  | append_singleton os o ih =>
    rcases hc : c.delaysAfter g os with ⟨ds, c', g'⟩
    have hlen : os.length = ds.length := by rw [← delaysAfter_length c g os, hc]
    rw [hc] at ih
    rw [delaysAfter_concat ih, advised_delayAfter, delaysAfter_concat hc, List.length_append,
      List.length_singleton, Schedule.readings_succ,
      List.zipWith3_append _ (Schedule.readings_length _ _ _) hlen]
    rfl

/-- A cursor driven as a flow drives it, the delay of each retry asked for with the generators of
that step: the outcome of each retry is observed just before its delay. The delays, and the
cursor after them. -/
def driven (c : Cursor) (steps : List (Outcome × Array Random.Generator)) : List Int × Cursor :=
  steps.foldl (fun (ds, c) (o, g) => (ds ++ [(c.delayAfter o g).1], (c.delayAfter o g).2.1)) ([], c)

/-- One step more is driven from where the others left the cursor. -/
theorem driven_concat {c c' : Cursor} {steps : List (Outcome × Array Random.Generator)}
    {ds : List Int} (h : c.driven steps = (ds, c')) (o : Outcome) (g : Array Random.Generator) :
    c.driven (steps ++ [(o, g)]) = (ds ++ [(c'.delayAfter o g).1], (c'.delayAfter o g).2.1) := by
  unfold driven at h ⊢
  rw [List.foldl_append, h]
  rfl

theorem driven_length (c : Cursor) (steps : List (Outcome × Array Random.Generator)) :
    (c.driven steps).1.length = steps.length := by
  induction steps using List.reverseRecOn with
  | nil => rfl
  | append_singleton steps step ih =>
    rcases hc : c.driven steps with ⟨ds, c'⟩
    rw [hc] at ih
    rw [driven_concat hc, List.length_append, ih, List.length_append]
    rfl

/-- Driven with any generators, an advised cursor with no advice pending gives the rule's delay
for each outcome, at the clock's reading for its observation, and the delay the cursor inside,
driven by the same steps, gives for it. -/
theorem advised_driven (c : Cursor) (mode : AdviceMode) (m : Int) (seen : Nat)
    (steps : List (Outcome × Array Random.Generator)) :
    (advised c mode m clock seen none).driven steps =
      (List.zipWith3 (mode.delay m) (Schedule.readings clock seen steps.length) (steps.map Prod.fst)
          (c.driven steps).1,
        advised (c.driven steps).2 mode m clock (seen + steps.length) none) := by
  induction steps using List.reverseRecOn with
  | nil => rfl
  | append_singleton steps step ih =>
    obtain ⟨o, g⟩ := step
    rcases hc : c.driven steps with ⟨ds, c'⟩
    have hlen : (steps.map Prod.fst).length = ds.length := by
      rw [List.length_map, ← driven_length c steps, hc]
    rw [hc] at ih
    rw [driven_concat ih, advised_delayAfter, driven_concat hc, List.map_append, List.length_append,
      List.length_singleton, Schedule.readings_succ,
      List.zipWith3_append _ (by rw [Schedule.readings_length, ← List.length_map Prod.fst]) hlen]
    rfl

end Schedule.Cursor

/-! ### Stacks of caps and jitter -/

/-- A decorator a schedule may put over another: a cap, or jitter drawing from a slot of the
generators. Both pass every outcome they observe down to the cursor inside. -/
inductive Schedule.Layer where
  | capped (max : Int)
  | jitter (slot : Nat)

namespace Schedule.Layer

/-- A cursor under a stack of layers, the first layer outermost. -/
def wrap : List Layer → Cursor → Cursor
  | [], c => c
  | capped m :: L, c => .capped (wrap L c) m
  | jitter slot :: L, c => .jitter (wrap L c) slot

/-- What a stack of layers may make of a delay from inside: a cap lowers the delay to the cap,
and jitter turns a positive delay into a draw below it and any other delay into zero. -/
def Shapes : List Layer → Int → Int → Prop
  | [], d, e => e = d
  | capped m :: L, d, e => ∃ d', Shapes L d d' ∧ e = min d' m
  | jitter _ :: L, d, e => ∃ d', Shapes L d d' ∧ (d' ≤ 0 ∧ e = 0 ∨ 0 < d' ∧ 0 ≤ e ∧ e < d')

/-- A stack passes every observation down to the cursor inside. -/
theorem wrap_observe (L : List Layer) (c : Cursor) (o : Option Outcome) :
    (wrap L c).observe o = wrap L (c.observe o) := by
  induction L with
  | nil => rfl
  | cons l L ih =>
    cases l with
    | capped m => rw [wrap, wrap, Cursor.observe_capped, ih]
    | jitter slot => rw [wrap, wrap, Cursor.observe_jitter, ih]

/-- A stack gives its next delay by asking the cursor inside for one, with the generators the
stack was given, and shaping it. -/
theorem wrap_next (L : List Layer) (c : Cursor) (g : Array Random.Generator) :
    ((wrap L c).next g).2.1 = wrap L (c.next g).2.1 ∧
      Shapes L (c.next g).1 ((wrap L c).next g).1 := by
  induction L with
  | nil => exact ⟨rfl, rfl⟩
  | cons l L ih =>
    obtain ⟨hc, hs⟩ := ih
    rcases hn : (wrap L c).next g with ⟨d, c', g'⟩
    rw [hn] at hc hs
    dsimp only at hc hs
    cases l with
    | capped m =>
      rw [wrap, Cursor.next_capped, hn]
      dsimp only
      exact ⟨by rw [hc]; rfl, d, hs, by split_ifs <;> omega⟩
    | jitter slot =>
      rw [wrap, Cursor.next_jitter, hn]
      dsimp only
      split_ifs with hd
      · exact ⟨by rw [hc]; rfl, d, hs, .inl ⟨hd, rfl⟩⟩
      · -- a positive delay: the draw falls below it
        have hlt := Random.Generator.below_lt (g'.getD slot default) (n := d.toNat) (by omega)
        rcases hb : (g'.getD slot default).below d.toNat with ⟨v, gen⟩
        rw [hb] at hlt
        dsimp only at hlt ⊢
        exact ⟨by rw [hc]; rfl, d, hs, .inr ⟨by omega, by omega, by omega⟩⟩

/-- One retry of a cursor under a stack: the cursor inside observes the outcome and gives one
delay, with the generators the stack was given, and the stack shapes it. -/
theorem wrap_delayAfter (L : List Layer) (c : Cursor) (o : Outcome) (g : Array Random.Generator) :
    ((wrap L c).delayAfter o g).2.1 = wrap L (c.delayAfter o g).2.1 ∧
      Shapes L (c.delayAfter o g).1 ((wrap L c).delayAfter o g).1 := by
  rw [Cursor.delayAfter_eq_observe, Cursor.delayAfter_eq_observe c, wrap_observe]
  exact wrap_next L _ g

/-- Over successive retries, the cursor under a stack is driven by the same outcomes, each delay
asked for with the generators the stack holds at that retry, and the stack shapes each delay. -/
theorem wrap_delaysAfter (L : List Layer) (c : Cursor) (g : Array Random.Generator)
    (os : List Outcome) :
    ∃ gs : List (Array Random.Generator), gs.length = os.length ∧
      ((wrap L c).delaysAfter g os).2.1 = wrap L (c.driven (os.zip gs)).2 ∧
      List.Forall₂ (Shapes L) (c.driven (os.zip gs)).1 ((wrap L c).delaysAfter g os).1 := by
  induction os using List.reverseRecOn with
  | nil => exact ⟨[], rfl, rfl, .nil⟩
  | append_singleton os o ih =>
    obtain ⟨gs, hlen, hcur, hshape⟩ := ih
    rcases hw : (wrap L c).delaysAfter g os with ⟨es, w, g'⟩
    rcases hc : c.driven (os.zip gs) with ⟨ds, c'⟩
    rw [hw, hc] at hcur hshape
    dsimp only at hcur hshape
    -- the next retry finds the generators the stack was left with
    have hzip : (os ++ [o]).zip (gs ++ [g']) = os.zip gs ++ [(o, g')] :=
      List.zip_append hlen.symm
    obtain ⟨hnext, hlast⟩ := wrap_delayAfter L c' o g'
    refine ⟨gs ++ [g'], by simp [hlen], ?_, ?_⟩
    · rw [Cursor.delaysAfter_concat hw, hzip, Cursor.driven_concat hc, hcur]
      exact hnext
    · rw [Cursor.delaysAfter_concat hw, hzip, Cursor.driven_concat hc, hcur]
      exact List.rel_append hshape (.cons hlast .nil)

end Schedule.Layer

/-- A known mode and a cap that is not negative (or none, for the longest duration) build the
advised schedule, whose fresh cursor has no advice pending. -/
theorem Schedule.advisedOf_eq {code : Int} {mode : AdviceMode} (hmode : AdviceMode.ofCode? code = some mode)
    {max : Option Int} (hmax : ∀ m ∈ max, 0 ≤ m) (s : Schedule) (clock : Nat → Int) :
    Schedule.advisedOf (some s) code max (some clock) =
        .ok (.advised s mode (max.getD maxDuration) clock) ∧
      (Schedule.advised s mode (max.getD maxDuration) clock).begin =
        .advised s.begin mode (max.getD maxDuration) clock 0 none := by
  have hcap : 0 ≤ max.getD maxDuration := by
    cases max with
    | none => exact maxDuration_nonneg
    | some m => exact hmax m rfl
  refine ⟨?_, rfl⟩
  simp [Schedule.advisedOf, Schedule.require, hmode, requireNonNegative_of_nonneg hcap, bind,
    Except.bind, pure, Except.pure]

/-- The advised schedule builds, and each retry's delay is the rule's delay for its outcome, at the
clock's reading, over the inner delay; under caps and jitter too. -/
theorem advised_schedule_delays (s : Schedule) (code : Int) (mode : AdviceMode)
    (hmode : AdviceMode.ofCode? code = some mode) (max : Option Int) (hmax : ∀ m ∈ max, 0 ≤ m)
    (clock : Nat → Int) :
    ∃ sched, Schedule.advisedOf (some s) code max (some clock) = .ok sched ∧
      (∀ g os, sched.begin.delaysAfter g os =
        (List.zipWith3 (mode.delay (max.getD maxDuration)) (Schedule.readings clock 0 os.length) os
            (s.begin.delaysAfter g os).1,
          .advised (s.begin.delaysAfter g os).2.1 mode (max.getD maxDuration) clock os.length none,
          (s.begin.delaysAfter g os).2.2)) ∧
      (∀ (L : List Schedule.Layer) (c : Schedule.Cursor) (seen : Nat) g os,
        let stack := Schedule.Layer.wrap L (.advised c mode (max.getD maxDuration) clock seen none)
        ∃ gs : List (Array Random.Generator), gs.length = os.length ∧
          (stack.delaysAfter g os).2.1 =
            Schedule.Layer.wrap L
              (.advised (c.driven (os.zip gs)).2 mode (max.getD maxDuration) clock (seen + os.length)
                none) ∧
          List.Forall₂ (Schedule.Layer.Shapes L)
            (List.zipWith3 (mode.delay (max.getD maxDuration)) (Schedule.readings clock seen os.length)
              os (c.driven (os.zip gs)).1)
            (stack.delaysAfter g os).1) := by
  obtain ⟨hbuild, hbegin⟩ := Schedule.advisedOf_eq hmode hmax s clock
  refine ⟨_, hbuild, fun g os => ?_, fun L c seen g os => ?_⟩
  · rw [hbegin, Schedule.Cursor.advised_delaysAfter, Nat.zero_add]
  · -- the stack drives the advised cursor, which drives the cursor inside
    obtain ⟨gs, hlen, hcur, hshape⟩ :=
      Schedule.Layer.wrap_delaysAfter L (.advised c mode (max.getD maxDuration) clock seen none) g os
    have hfst : (os.zip gs).map Prod.fst = os := List.map_fst_zip (by omega)
    have hzip : (os.zip gs).length = os.length := by simp [hlen]
    rw [Schedule.Cursor.advised_driven, hfst, hzip] at hcur hshape
    exact ⟨gs, hlen, hcur, hshape⟩

/-- Advice as a floor, capped at one second, over backoff from 100 ns, on a clock stopped at
zero. -/
theorem advised_schedule_delays_floor :
    let clock : Nat → Int := fun _ => 0
    AdviceMode.ofCode? 2 = some .floor ∧ (∀ m ∈ some (1000000000 : Int), 0 ≤ m) ∧
    ∃ sched, Schedule.advisedOf (some (.exponential 100)) 2 (some 1000000000) (some clock) = .ok sched ∧
      (∀ g os, sched.begin.delaysAfter g os =
        (List.zipWith3 (AdviceMode.floor.delay 1000000000) (Schedule.readings clock 0 os.length) os
            ((Schedule.exponential 100).begin.delaysAfter g os).1,
          .advised ((Schedule.exponential 100).begin.delaysAfter g os).2.1 .floor 1000000000 clock
            os.length none,
          ((Schedule.exponential 100).begin.delaysAfter g os).2.2)) ∧
      (∀ (L : List Schedule.Layer) (c : Schedule.Cursor) (seen : Nat) g os,
        let stack := Schedule.Layer.wrap L (.advised c .floor 1000000000 clock seen none)
        ∃ gs : List (Array Random.Generator), gs.length = os.length ∧
          (stack.delaysAfter g os).2.1 =
            Schedule.Layer.wrap L
              (.advised (c.driven (os.zip gs)).2 .floor 1000000000 clock (seen + os.length) none) ∧
          List.Forall₂ (Schedule.Layer.Shapes L)
            (List.zipWith3 (AdviceMode.floor.delay 1000000000) (Schedule.readings clock seen os.length)
              os (c.driven (os.zip gs)).1)
            (stack.delaysAfter g os).1) :=
  ⟨rfl, by simp,
    advised_schedule_delays (.exponential 100) 2 .floor rfl (some 1000000000) (by simp) fun _ => 0⟩

end HttpRetry
