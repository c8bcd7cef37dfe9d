import HttpRetry.Outcome
import HttpRetry.Http.RetryAfter
import HttpRetry.Random.Lagged

/-!
Schedules: the delay before each retry, in nanoseconds. `Schedule.begin` gives a fresh cursor for
one request; `constant`, `exponential` (doubling up to the longest duration), `capped`, `jitter`
(a draw below the delay from a generator every cursor shares), `advised` (a response's
Retry-After advice overrides or raises the next delay, read at the clock's reading for that
observation) and `listed`. Decorating cursors pass what they observe to the cursor inside.
-/

namespace HttpRetry

/-- How a server's advice enters a delay. -/
inductive AdviceMode where
  | override
  | floor
  deriving DecidableEq, Repr

namespace AdviceMode

/-- The mode with a number: 1 is override, 2 is floor. -/
def ofCode? : Int → Option AdviceMode
  | 1 => some override
  | 2 => some floor
  | _ => none

/-- The name of the mode with a number, or `RetryAfterMode(n)`. -/
def nameOfCode (n : Int) : String :=
  match ofCode? n with
  | some override => "override"
  | some floor => "floor"
  | none => "RetryAfterMode(" ++ toString n ++ ")"

end AdviceMode

/-- A rule for the delays before retries. -/
inductive Schedule where
  | constant (d : Int)
  | exponential (factor : Int)
  | capped (inner : Schedule) (max : Int)
  | jitter (inner : Schedule) (source : Random.Generator)
  | advised (inner : Schedule) (mode : AdviceMode) (max : Int) (clock : Nat → Int)
  | listed (delays : List Int)

/-- A schedule's state for one request. A jitter cursor knows the place of its generator among
the schedule's generators; an advised cursor, how many outcomes it has observed. -/
inductive Schedule.Cursor where
  | constant (d : Int)
  | exponential (factor : Int) (count : Nat)
  | capped (inner : Schedule.Cursor) (max : Int)
  | jitter (inner : Schedule.Cursor) (slot : Nat)
  | advised (inner : Schedule.Cursor) (mode : AdviceMode) (max : Int) (clock : Nat → Int)
      (seen : Nat) (advice : Option Int)
  | listed (delays : List Int) (last : Int)

namespace Schedule

/-- The schedule's jitter generators as they start, outermost first. -/
def seeds : Schedule → List Random.Generator
  | capped s _ => s.seeds
  | jitter s g => g :: s.seeds
  | advised s _ _ _ => s.seeds
  | _ => []

/-- The schedule's generators, shared by all its cursors, in the order of `seeds`. -/
def generators (s : Schedule) : Array Random.Generator := s.seeds.toArray

/-- A fresh cursor whose jitter generators start at place `slot`, and the next free place. -/
def beginAt : Schedule → Nat → Schedule.Cursor × Nat
  | constant d, n => (.constant d, n)
  | exponential f, n => (.exponential f 0, n)
  | capped s m, n => let (c, n') := s.beginAt n; (.capped c m, n')
  | jitter s _, n => let (c, n') := s.beginAt (n + 1); (.jitter c n, n')
  | advised s mode m clock, n => let (c, n') := s.beginAt n; (.advised c mode m clock 0 none, n')
  | listed ds, n => (.listed ds 0, n)

/-- A fresh cursor for one request. -/
def begin (s : Schedule) : Schedule.Cursor := (s.beginAt 0).1

/-- A signed 64-bit word shifted left by `s` places, as the machine shifts it: the bits that
pass the top of the word are lost, so a result too large for the word wraps around. -/
def shiftLeftWord (x : Int) (s : Nat) : Int := Int.bmod (x <<< s) (Nat.pow 2 64)

/-- The `count`-th delay (from 1) of exponential backoff with a factor: 0 for the first or for
a zero factor, else the factor shifted left `count - 2` places in a 64-bit word, or the longest
duration when the shift passes 62 places or the factor exceeds the longest duration shifted
right as far. -/
def exponentialDelay (factor : Int) (count : Nat) : Int :=
  if count ≤ 1 || factor == 0 then 0
  else
    let shift := count - 2
    if shift > 62 || factor > maxDuration >>> shift then maxDuration
    else shiftLeftWord factor shift

end Schedule

namespace Schedule.Cursor

/-- A cursor that takes note of outcomes. -/
def observes : Schedule.Cursor → Bool
  | capped .. | jitter .. | advised .. => true
  | _ => false

/-- Takes note of an outcome (possibly absent) before the next delay. -/
def observe : Schedule.Cursor → Option Outcome → Schedule.Cursor
  | capped c m, o => capped (c.observe o) m
  | jitter c slot, o => jitter (c.observe o) slot
  | advised c mode m clock seen _, o =>
    let advice := match o with
      | some (.response _ h _) => (retryAdvice h (clock seen)).map (min m)
      | _ => none
    advised (c.observe o) mode m clock (seen + 1) advice
  | c, _ => c

/-- The next delay, the cursor after it and the schedule's generators after it. -/
def next : Schedule.Cursor → Array Random.Generator →
    Int × Schedule.Cursor × Array Random.Generator
  | constant d, g => (d, constant d, g)
  | exponential f n, g => (Schedule.exponentialDelay f (n + 1), exponential f (n + 1), g)
  | capped c m, g =>
    let (d, c', g') := c.next g
    (if d > m then m else d, capped c' m, g')
  | jitter c slot, g =>
    let (d, c', g') := c.next g
    if d ≤ 0 then (0, jitter c' slot, g')
    else
      let (v, gen) := (g'.getD slot default).below d.toNat
      (v, jitter c' slot, g'.setIfInBounds slot gen)
  | advised c mode m clock seen advice, g =>
    let (d, c', g') := c.next g
    match advice with
    | some a => (if mode == .override || a > d then a else d, advised c' mode m clock seen none, g')
    | none => (d, advised c' mode m clock seen none, g')
  | listed ds last, g =>
    match ds with
    | d :: rest => (d, listed rest d, g)
    | [] => (last, listed [] last, g)

end Schedule.Cursor

end HttpRetry
