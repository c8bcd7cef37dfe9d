import HttpRetry.Random.Table

/-!
An additive lagged Fibonacci generator of 64-bit words, lags 607 and 273, seeded from a whole
number through the congruential generator `x ↦ 48271·x mod (2^31 - 1)` and `cookedTable`.
`below n` draws a number in `[0, n)`, masking when `n` is a power of two and otherwise redrawing
63-bit numbers until one falls below the largest multiple of `n`. The redrawing stops after
`redrawLimit` redraws, where an unbounded loop would go on, and then reduces the last draw even
though it lies above that multiple, so that one draw is biased; the cut-off is reached with
probability below `2^-10000`.
-/

namespace HttpRetry.Random

/-- The number of words in the state. -/
def ringSize : Nat := 607

/-- The shorter lag, as the distance between the feed and the tap. -/
def tapLag : Nat := 273

/-- The modulus of the seeding generator, `2^31 - 1`. -/
def seedModulus : Nat := 2147483647

/-- One step of the seeding generator. -/
def seedStep (x : Nat) : Nat := x * 48271 % seedModulus

/-- The generator's state. -/
structure Generator where
  words : Array UInt64
  tap : Nat
  feed : Nat
  deriving Inhabited

/-- The seeding generator's start for a seed: the seed modulo `2^31 - 1`, taken non-negative,
with zero replaced. -/
def seedStart (seed : Int) : Nat :=
  let s := (seed % (seedModulus : Int)).toNat
  if s == 0 then 89482311 else s

/-- The state word at position `i`, built from the seeding generator after `x`, and the
seeding generator's value after the three draws. -/
def seedWord (x : Nat) (i : Nat) : UInt64 × Nat :=
  let x1 := seedStep x
  let x2 := seedStep x1
  let x3 := seedStep x2
  let u := (x1.toUInt64 <<< 40) ^^^ (x2.toUInt64 <<< 20) ^^^ x3.toUInt64
  (u ^^^ cookedTable.getD i 0, x3)

/-- The generator seeded with a whole number. -/
def Generator.ofSeed (seed : Int) : Generator :=
  let x0 := (List.range 20).foldl (fun x _ => seedStep x) (seedStart seed)
  let build := (List.range ringSize).foldl
    (fun (acc : Array UInt64 × Nat) i =>
      let (w, x') := seedWord acc.2 i
      (acc.1.push w, x'))
    (#[], x0)
  { words := build.1, tap := 0, feed := ringSize - tapLag }

/-- One step: the next 64-bit word and the generator after it. -/
def Generator.next (g : Generator) : UInt64 × Generator :=
  let tap := if g.tap == 0 then ringSize - 1 else g.tap - 1
  let feed := if g.feed == 0 then ringSize - 1 else g.feed - 1
  let x := g.words.getD feed 0 + g.words.getD tap 0
  (x, { words := g.words.setIfInBounds feed x, tap, feed })

/-- The next number of 63 bits. -/
def Generator.next63 (g : Generator) : Nat × Generator :=
  let (x, g') := g.next
  ((x &&& 0x7FFFFFFFFFFFFFFF).toNat, g')

/-- How many times a draw may be repeated; each repetition has probability below one half. -/
def redrawLimit : Nat := 10000

/-- Draws 63-bit numbers until one is at most `top`, at most `fuel` more times, and gives the
last one drawn, within `top` or not. -/
def drawUpTo (top : Nat) : Nat → Nat → Generator → Nat × Generator
  | 0, v, g => (v, g)
  | fuel + 1, v, g =>
    if v ≤ top then (v, g)
    else
      let (v', g') := g.next63
      drawUpTo top fuel v' g'

/-- A number in `[0, n)` for a positive `n`, and the generator after it. -/
def Generator.below (g : Generator) (n : Nat) : Nat × Generator :=
  if n &&& (n - 1) == 0 then
    let (v, g') := g.next63
    (v &&& (n - 1), g')
  else
    let top := (Nat.pow 2 63 - 1) - Nat.pow 2 63 % n
    let (v, g') := g.next63
    let (v', g'') := drawUpTo top redrawLimit v g'
    (v' % n, g'')

end HttpRetry.Random
