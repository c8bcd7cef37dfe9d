import HttpRetry.Text.Quote

/-!
Idempotency keys, handed out in turn by a key source.

A key source is the tape of keys a random source hands out, read from a position on; the retry
logic relies on one property of the keys, that none is empty. `KeySource.counter` is the source
a run draws from: version 4 UUIDs whose bytes come from a counter, the `k`-th byte being
`k mod 256`, written as 32 lowercase hex digits in groups of 8, 4, 4, 4 and 12.
-/

namespace HttpRetry

/-- A source of keys: the `n`-th key of its tape, none of them empty, and how many it has handed
out. -/
structure KeySource where
  key : Nat → String
  key_ne : ∀ n, key n ≠ ""
  drawn : Nat := 0

namespace KeySource

/-- The next key, and the source after it. -/
def uuid (k : KeySource) : String × KeySource :=
  (k.key k.drawn, { k with drawn := k.drawn + 1 })

/-- Drawing a key moves along the same tape. -/
@[simp] theorem uuid_key (k : KeySource) : k.uuid.2.key = k.key := rfl

theorem key_isEmpty (k : KeySource) (n : Nat) : (k.key n).isEmpty = false := by
  simpa [String.isEmpty_iff] using k.key_ne n

/-- A key drawn is never empty. -/
theorem uuid_isEmpty (k : KeySource) : k.uuid.1.isEmpty = false :=
  k.key_isEmpty k.drawn

/-- The bytes of the counter's `n`-th UUID, version and variant set. -/
def counterBytes (n : Nat) : List Nat :=
  (List.range 16).map fun i =>
    let v := (16 * n + i) % 256
    if i == 6 then v % 16 + 0x40 else if i == 8 then v % 64 + 0x80 else v

/-- The counter's `n`-th UUID in its text form. -/
def counterKey (n : Nat) : String :=
  let hex := String.join ((counterBytes n).map (Text.hexPadded 2))
  let part (a n : Nat) := String.ofList ((hex.toList.drop a).take n)
  part 0 8 ++ "-" ++ part 8 4 ++ "-" ++ part 12 4 ++ "-" ++ part 16 4 ++ "-" ++ part 20 12

theorem counterKey_ne (n : Nat) : counterKey n ≠ "" := by
  simp [counterKey]

/-- The UUIDs of a byte counter, from the first on. -/
def counter : KeySource := { key := counterKey, key_ne := counterKey_ne }

end KeySource

end HttpRetry
