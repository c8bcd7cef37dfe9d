import Mathlib
import HttpRetry.Proofs.FlowIsolation

/-!
Jitter drawn by all the flows of a schedule from one generator. Inside each flow of `jitter s g`
runs a flow of `s` whose jitters draw from the places after the first
(`Schedule.Cursor.shift`), so in any interleaving the flows of `jitter s g` follow the flows of
`s` on the same calls, their delays jittered in call order by the one generator
(`Schedule.Follows`). Main statement, `jitter_flows_share_draws`.
-/

namespace HttpRetry

/-- A delay `e` jittered from a delay `d`: zero when `d` is not positive, and otherwise at least
zero and below `d`. -/
def Schedule.FullJitter (d e : Int) : Prop := d ≤ 0 ∧ e = 0 ∨ 0 < d ∧ 0 ≤ e ∧ e < d

namespace Random.Generator

/-- A delay jittered by a generator, with the generator after it: zero, drawing nothing, when the
delay is not positive, and otherwise a draw below the delay. -/
def jitterOne (g : Generator) (d : Int) : Int × Generator :=
  if d ≤ 0 then (0, g) else ((g.below d.toNat).1, (g.below d.toNat).2)

/-- Delays jittered in turn by one generator, with the generator after them all. -/
def jitterAll (g : Generator) : List Int → List Int × Generator
  | [] => ([], g)
  | d :: ds =>
    ((g.jitterOne d).1 :: ((g.jitterOne d).2.jitterAll ds).1, ((g.jitterOne d).2.jitterAll ds).2)

theorem jitterOne_fullJitter (g : Generator) (d : Int) :
    Schedule.FullJitter d (g.jitterOne d).1 := by
  unfold jitterOne
  split
  · exact .inl ⟨‹_›, rfl⟩
  · rename_i hd
    have hlt := g.below_lt (n := d.toNat) (by omega)
    exact .inr ⟨by omega, by positivity, by omega⟩

/-- One delay more is jittered by the generator the others left. -/
theorem jitterAll_concat (g : Generator) (ds : List Int) (d : Int) :
    g.jitterAll (ds ++ [d]) =
      ((g.jitterAll ds).1 ++ [((g.jitterAll ds).2.jitterOne d).1],
        ((g.jitterAll ds).2.jitterOne d).2) := by
  induction ds generalizing g with
  | nil => rfl
  | cons d' ds ih => simp only [List.cons_append, jitterAll, ih]

end Random.Generator

/-! ### Flows whose jitter draws one place on -/

/-- The generator at a place after the first, with one put before the others. -/
theorem Schedule.getD_cons_succ (g : Random.Generator) (gs : Array Random.Generator) (k : Nat)
    (d : Random.Generator) : (#[g] ++ gs).getD (k + 1) d = gs.getD k d := by
  simp [Array.getElem?_append_right]

/-- Setting a place after the first, with one generator put before the others. -/
theorem Schedule.setIfInBounds_cons_succ (g x : Random.Generator) (gs : Array Random.Generator)
    (k : Nat) : (#[g] ++ gs).setIfInBounds (k + 1) x = #[g] ++ gs.setIfInBounds k x := by
  rw [Array.setIfInBounds_append_right (by simp)]
  simp

namespace Schedule.Cursor

/-- The cursor with each jitter inside it drawing from the place after its own. -/
def shift : Cursor → Cursor
  | constant d => constant d
  | exponential f n => exponential f n
  | capped c m => capped c.shift m
  | jitter c slot => jitter c.shift (slot + 1)
  | advised c mode m clock seen advice => advised c.shift mode m clock seen advice
  | listed ds last => listed ds last

theorem observe_shift (c : Cursor) (o : Option Outcome) :
    c.shift.observe o = (c.observe o).shift := by
  induction c with
  | constant d => rfl
  | exponential f n => rfl
  | capped c m ih => rw [shift, observe_capped, observe_capped, shift, ih]
  | jitter c slot ih => rw [shift, observe_jitter, observe_jitter, shift, ih]
  | advised c mode m clock seen advice ih => rw [shift, observe_advised, observe_advised, shift, ih]
  | listed ds last => rfl

/-- A shifted cursor, given one generator more in front, gives the cursor's delay, moves as the
cursor moves, and leaves that first generator alone. -/
theorem next_shift (c : Cursor) (g : Random.Generator) (gs : Array Random.Generator) :
    c.shift.next (#[g] ++ gs) =
      ((c.next gs).1, (c.next gs).2.1.shift, #[g] ++ (c.next gs).2.2) := by
  induction c with
  | constant d => rfl
  | exponential f n => rfl
  | capped c m ih =>
    rw [shift, next_capped, next_capped, ih]
    rfl
  | jitter c slot ih =>
    rw [shift, next_jitter, next_jitter, ih]
    generalize c.next gs = r
    obtain ⟨d, c', gs'⟩ := r
    dsimp only
    split
    · rfl
    · rw [Schedule.getD_cons_succ, Schedule.setIfInBounds_cons_succ]
      rfl
  | advised c mode m clock seen advice ih =>
    rw [shift, next_advised, next_advised, ih]
    rfl
  | listed ds last => cases ds <;> rfl

/-- A jitter drawing from the first generator, over a shifted cursor: the cursor's delay jittered
by that generator, while the cursor draws from the others. -/
theorem next_jitter_shift (c : Cursor) (g : Random.Generator) (gs : Array Random.Generator) :
    (jitter c.shift 0).next (#[g] ++ gs) =
      ((g.jitterOne (c.next gs).1).1, jitter (c.next gs).2.1.shift 0,
        #[(g.jitterOne (c.next gs).1).2] ++ (c.next gs).2.2) := by
  rw [next_jitter, next_shift]
  generalize c.next gs = r
  obtain ⟨d, c', gs'⟩ := r
  dsimp only
  unfold Random.Generator.jitterOne
  split
  · rfl
  · simp

end Schedule.Cursor

namespace Schedule

/-- A schedule's cursor begun one place on is its cursor begun there, shifted. -/
theorem beginAt_succ (s : Schedule) (n : Nat) :
    s.beginAt (n + 1) = ((s.beginAt n).1.shift, (s.beginAt n).2 + 1) := by
  induction s generalizing n with
  | constant d => rfl
  | exponential f => rfl
  | capped s m ih => simp only [beginAt, ih, Cursor.shift]
  | jitter s g ih => simp only [beginAt, ih, Cursor.shift]
  | advised s mode m clock ih => simp only [beginAt, ih, Cursor.shift]
  | listed ds => rfl

/-- A flow of a jittered schedule begins with a flow of the schedule inside, shifted. -/
theorem begin_jitter (s : Schedule) (g : Random.Generator) :
    (jitter s g).begin = .jitter s.begin.shift 0 := by
  simp only [begin, beginAt, beginAt_succ]

theorem generators_jitter (s : Schedule) (g : Random.Generator) :
    (jitter s g).generators = #[g] ++ s.generators :=
  List.toArray_cons g s.seeds

/-! ### Flows of a schedule driven together -/

/-- A call on a flow of a schedule: the next delay, or an outcome to take note of. -/
inductive Call where
  | next
  | observe (o : Option Outcome)

/-- Flows of one schedule driven together: each flow's cursor by index, the generators they
share, and the delays given so far, each with the index of its flow. -/
structure Crowd where
  cursors : Nat → Cursor
  generators : Array Random.Generator
  delays : List (Nat × Int)

/-- One call more, on the flow at the index the call names. -/
def Crowd.call (w : Crowd) : Nat × Call → Crowd
  | (i, .next) =>
    let r := (w.cursors i).next w.generators
    ⟨fun j => if j = i then r.2.1 else w.cursors j, r.2.2, w.delays ++ [(i, r.1)]⟩
  | (i, .observe o) =>
    ⟨fun j => if j = i then (w.cursors i).observe o else w.cursors j, w.generators, w.delays⟩

theorem Crowd.call_next (w : Crowd) (i : Nat) :
    w.call (i, .next) =
      ⟨fun j => if j = i then ((w.cursors i).next w.generators).2.1 else w.cursors j,
        ((w.cursors i).next w.generators).2.2,
        w.delays ++ [(i, ((w.cursors i).next w.generators).1)]⟩ := rfl

/-- The flows of a schedule, each begun afresh, after the calls in turn. -/
def crowd (s : Schedule) (cs : List (Nat × Call)) : Crowd :=
  cs.foldl Crowd.call ⟨fun _ => s.begin, s.generators, []⟩

/-- How the flows of `jitter s g` driven together stand to the flows of `s` driven on the same
calls: each jittered flow holds its inner flow shifted, the jitter's generator stands before the
inner generators, the delays go to the same flows in the same order, and they are the inner
delays jittered in turn by the jitter's generator, the delays of each flow included. -/
structure Follows (g : Random.Generator) (J I : Crowd) : Prop where
  cursors : ∀ i, J.cursors i = .jitter (I.cursors i).shift 0
  generators : J.generators = #[(g.jitterAll (I.delays.map Prod.snd)).2] ++ I.generators
  flows : J.delays.map Prod.fst = I.delays.map Prod.fst
  delays : J.delays.map Prod.snd = (g.jitterAll (I.delays.map Prod.snd)).1
  perFlow : ∀ i, List.Forall₂ FullJitter (Flow.ofIndex i I.delays) (Flow.ofIndex i J.delays)

namespace Follows

variable {g : Random.Generator} {J I : Crowd}

/-- The flows start alike: every flow fresh, no delay given yet. -/
theorem start (s : Schedule) :
    Follows g ⟨fun _ => (jitter s g).begin, (jitter s g).generators, []⟩
      ⟨fun _ => s.begin, s.generators, []⟩ where
  cursors _ := begin_jitter s g
  generators := generators_jitter s g
  flows := rfl
  delays := rfl
  perFlow _ := .nil

/-- An outcome given to a jittered flow reaches its inner flow, and nothing else moves. -/
theorem observe (h : Follows g J I) (i : Nat) (o : Option Outcome) :
    Follows g (J.call (i, .observe o)) (I.call (i, .observe o)) where
  cursors j := by
    simp only [Crowd.call]
    split
    · rw [h.cursors i, Cursor.observe_jitter, Cursor.observe_shift]
    · exact h.cursors j
  generators := h.generators
  flows := h.flows
  delays := h.delays
  perFlow := h.perFlow

/-- A delay asked of a jittered flow is its inner flow's next delay, jittered by the generator
the earlier delays left. -/
theorem next (h : Follows g J I) (i : Nat) :
    Follows g (J.call (i, .next)) (I.call (i, .next)) := by
  have hstep := Cursor.next_jitter_shift (I.cursors i)
    (g.jitterAll (I.delays.map Prod.snd)).2 I.generators
  rw [← h.cursors i, ← h.generators] at hstep
  rw [Crowd.call_next, Crowd.call_next, hstep]
  refine ⟨fun j => ?_, ?_, ?_, ?_, fun j => ?_⟩ <;> dsimp only
  · split
    · rfl
    · exact h.cursors j
  · simp only [List.map_append, List.map_cons, List.map_nil]
    rw [Random.Generator.jitterAll_concat]
  · simp [h.flows]
  · simp only [List.map_append, List.map_cons, List.map_nil]
    rw [Random.Generator.jitterAll_concat, h.delays]
  · rw [Flow.ofIndex_append_singleton, Flow.ofIndex_append_singleton]
    split
    · exact List.rel_append (h.perFlow j) (.cons (Random.Generator.jitterOne_fullJitter _ _) .nil)
    · simpa using h.perFlow j

theorem call (h : Follows g J I) : ∀ ic : Nat × Call, Follows g (J.call ic) (I.call ic)
  | (i, .next) => h.next i
  | (i, .observe o) => h.observe i o

/-- Calls made in turn keep the jittered flows following the inner ones. -/
theorem foldl (h : Follows g J I) (cs : List (Nat × Call)) :
    Follows g (cs.foldl Crowd.call J) (cs.foldl Crowd.call I) := by
  induction cs generalizing J I with
  | nil => exact h
  | cons ic cs ih => exact ih (h.call ic)

end Follows

/-- The flows of `jitter s g`, driven together on any calls, follow the flows of `s` driven on
the same calls. -/
theorem crowd_jitter_follows (s : Schedule) (g : Random.Generator) (cs : List (Nat × Call)) :
    Follows g ((jitter s g).crowd cs) (s.crowd cs) :=
  (Follows.start s).foldl cs

end Schedule

/-- An instant within the signed words reports its own nanoseconds. -/
theorem Time.unixNano_of_fits {t : Int} (hlo : Text.minSigned ≤ t) (hhi : t ≤ Text.maxSigned) :
    Time.unixNano t = t := by
  have hmin : Text.minSigned = -9223372036854775808 := rfl
  have hmax : Text.maxSigned = 9223372036854775807 := rfl
  have hm : ((Nat.pow 2 64 : Nat) : Int) = 18446744073709551616 := rfl
  unfold Time.unixNano
  apply Int.bmod_eq_of_le <;> omega

/-- A seed that gives a generator jitters any schedule with it. -/
theorem Schedule.jitterOf_of_generator {s : Schedule} {seed : SeedSpec} {g : Random.Generator}
    (h : seed.generator? = .ok g) : Schedule.jitterOf (some s) seed = .ok (.jitter s g) := by
  simp [Schedule.jitterOf, Schedule.require, h, bind, Except.bind, pure, Except.pure]

/-- Flows of a jittered schedule follow the inner flows on the same calls, their delays jittered in
call order by the one generator; every seed form builds the same schedule. -/
theorem jitter_flows_share_draws (s : Schedule) (seed : SeedSpec) (g : Random.Generator)
    (hseed : seed.generator? = .ok g) (cs : List (Nat × Schedule.Call)) :
    Schedule.jitterOf (some s) seed = .ok (.jitter s g) ∧
      (∀ i, ((Schedule.jitter s g).crowd cs).cursors i = .jitter ((s.crowd cs).cursors i).shift 0) ∧
      (∀ i, List.Forall₂ Schedule.FullJitter (Flow.ofIndex i (s.crowd cs).delays)
        (Flow.ofIndex i ((Schedule.jitter s g).crowd cs).delays)) ∧
      ((Schedule.jitter s g).crowd cs).delays.map Prod.fst = (s.crowd cs).delays.map Prod.fst ∧
      ((Schedule.jitter s g).crowd cs).delays.map Prod.snd =
        (g.jitterAll ((s.crowd cs).delays.map Prod.snd)).1 ∧
      ∀ n, Text.minSigned ≤ n → n ≤ Text.maxSigned →
        ∀ seed' ∈ [SeedSpec.int n, .int64 n, .instant n, .source (Random.Generator.ofSeed n),
            .generator (some (Random.Generator.ofSeed n))],
          Schedule.jitterOf (some s) seed' = .ok (.jitter s (Random.Generator.ofSeed n)) := by
  have hfollow := Schedule.crowd_jitter_follows s g cs
  refine ⟨Schedule.jitterOf_of_generator hseed, hfollow.cursors, hfollow.perFlow, hfollow.flows,
    hfollow.delays, fun n hlo hhi seed' hmem => Schedule.jitterOf_of_generator ?_⟩
  -- each of the five seeds gives the generator seeded with `n`
  simp only [List.mem_cons, List.not_mem_nil, or_false] at hmem
  rcases hmem with rfl | rfl | rfl | rfl | rfl
  · rfl
  · rfl
  · simp only [SeedSpec.generator?, Time.unixNano_of_fits hlo hhi]
  · rfl
  · rfl

/-- A constant schedule of 1 s jittered with the seed 42, two flows asked for delays in turn with
an outcome between. -/
theorem jitter_flows_share_draws_int :
    let s : Schedule := .constant 1000000000
    let g := Random.Generator.ofSeed 42
    let cs : List (Nat × Schedule.Call) := [(0, .next), (1, .observe none), (1, .next), (0, .next)]
    (SeedSpec.int 42).generator? = .ok g ∧
      Schedule.jitterOf (some s) (.int 42) = .ok (.jitter s g) ∧
      (∀ i, ((Schedule.jitter s g).crowd cs).cursors i = .jitter ((s.crowd cs).cursors i).shift 0) ∧
      (∀ i, List.Forall₂ Schedule.FullJitter (Flow.ofIndex i (s.crowd cs).delays)
        (Flow.ofIndex i ((Schedule.jitter s g).crowd cs).delays)) ∧
      ((Schedule.jitter s g).crowd cs).delays.map Prod.fst = (s.crowd cs).delays.map Prod.fst ∧
      ((Schedule.jitter s g).crowd cs).delays.map Prod.snd =
        (g.jitterAll ((s.crowd cs).delays.map Prod.snd)).1 ∧
      ∀ n, Text.minSigned ≤ n → n ≤ Text.maxSigned →
        ∀ seed' ∈ [SeedSpec.int n, .int64 n, .instant n, .source (Random.Generator.ofSeed n),
            .generator (some (Random.Generator.ofSeed n))],
          Schedule.jitterOf (some s) seed' = .ok (.jitter s (Random.Generator.ofSeed n)) :=
  ⟨rfl, jitter_flows_share_draws _ (.int 42) _ rfl _⟩

end HttpRetry
