import Mathlib
import HttpRetry.Settings.Resolve

/-!
Exponential backoff in 64-bit words. The guard before the shift is exact: it lets a delay through
precisely when the doubled factor stays within the longest duration, so the shift never wraps
(`exponentialDelay_eq_backoff`). Main statement, `exponential_backoff_delays`.
-/

namespace HttpRetry

/-- The longest duration is one below `2 ^ 63`. -/
theorem maxDuration_eq : maxDuration = 2 ^ 63 - 1 := rfl

/-- Shifting the longest duration right by `s` places leaves it below `x` exactly when `x`
doubled `s` times passes it. -/
theorem shiftRight_lt_iff (x : Int) (s : Nat) : maxDuration >>> s < x ↔ maxDuration < x * 2 ^ s := by
  rw [Int.shiftRight_eq_div_pow]
  exact Int.ediv_lt_iff_lt_mul (by positivity)

namespace Schedule

/-- A shift of a word whose exact result fits in the word does not wrap. -/
theorem shiftLeftWord_of_fits {x : Int} {s : Nat} (h0 : 0 ≤ x * 2 ^ s) (h : x * 2 ^ s ≤ maxDuration) :
    shiftLeftWord x s = x * 2 ^ s := by
  rw [maxDuration_eq] at h
  unfold shiftLeftWord
  rw [Int.shiftLeft_eq]
  exact Int.bmod_eq_of_le (by norm_num; omega) (by norm_num; omega)

/-- Exponential backoff over the integers: no delay before the first retry or for a zero
factor, else the factor doubled `k - 2` times, at most the longest duration. -/
def backoff (factor : Int) (k : Nat) : Int :=
  if k ≤ 1 ∨ factor = 0 then 0 else min (factor * 2 ^ (k - 2)) maxDuration

variable {factor : Int}

/-- The exponential delay of a factor not below zero is the backoff over the integers. -/
theorem exponentialDelay_eq_backoff (h0 : 0 ≤ factor) (k : Nat) :
    exponentialDelay factor k = backoff factor k := by
  unfold exponentialDelay backoff
  by_cases hfirst : k ≤ 1 ∨ factor = 0
  · have hguard : (decide (k ≤ 1) || factor == 0) = true := by
      rcases hfirst with h | h <;> simp [h]
    rw [if_pos hguard, if_pos hfirst]
  · have hguard : (decide (k ≤ 1) || factor == 0) = false := by
      simp only [not_or] at hfirst
      simp [hfirst.1, hfirst.2]
    rw [if_neg (by simp [hguard]), if_neg hfirst]
    have hpos : 0 < factor := by omega
    dsimp only
    by_cases hsat : k - 2 > 62 ∨ factor > maxDuration >>> (k - 2)
    · -- saturated: the doubled factor passes the longest duration
      have hpass : maxDuration < factor * 2 ^ (k - 2) := by
        rcases hsat with hbig | hgt
        · have hpow : (2 : Int) ^ 63 ≤ 2 ^ (k - 2) := pow_le_pow_right₀ (by norm_num) (by omega)
          rw [maxDuration_eq]
          nlinarith
        · exact (shiftRight_lt_iff factor (k - 2)).1 hgt
      rw [if_pos (by simpa using hsat), min_eq_right hpass.le]
    · -- in range: the shift is exact
      simp only [not_or, not_lt, gt_iff_lt] at hsat
      have hfits : factor * 2 ^ (k - 2) ≤ maxDuration :=
        not_lt.1 fun h => absurd ((shiftRight_lt_iff factor (k - 2)).2 h) (not_lt.2 hsat.2)
      rw [if_neg (by simp [hsat.1, not_lt.2 hsat.2]), min_eq_left hfits]
      exact shiftLeftWord_of_fits (by positivity) hfits

theorem backoff_nonneg (h0 : 0 ≤ factor) (k : Nat) : 0 ≤ backoff factor k := by
  unfold backoff
  split
  · exact le_rfl
  · exact le_min (by positivity) (by rw [maxDuration_eq]; norm_num)

theorem backoff_le_maxDuration (factor : Int) (k : Nat) : backoff factor k ≤ maxDuration := by
  unfold backoff
  split
  · rw [maxDuration_eq]; norm_num
  · exact min_le_right _ _

/-- Backoff never shortens from one retry to the next. -/
theorem backoff_monotone (h0 : 0 ≤ factor) : Monotone (backoff factor) := by
  refine monotone_nat_of_le_succ fun k => ?_
  by_cases hfirst : k ≤ 1 ∨ factor = 0
  · -- the first retry waits nothing, and a zero factor never waits
    have h := backoff_nonneg h0 (k + 1)
    unfold backoff at h ⊢
    rw [if_pos hfirst]
    exact h
  · simp only [not_or] at hfirst
    have hdouble : factor * 2 ^ (k - 2) ≤ factor * 2 ^ (k + 1 - 2) :=
      mul_le_mul_of_nonneg_left (pow_le_pow_right₀ (by norm_num) (by omega)) h0
    unfold backoff
    rw [if_neg (by omega), if_neg (by omega)]
    exact min_le_min_right _ hdouble

theorem Cursor.next_exponential (f : Int) (n : Nat) (g : Array Random.Generator) :
    (Cursor.exponential f n).next g = (exponentialDelay f (n + 1), .exponential f (n + 1), g) := rfl

/-- A fresh backoff cursor's first delays, from its `m`-th on, with nothing observed. -/
theorem firstDelays_go_exponential (n : Nat) :
    ∀ (m : Nat) (g : Array Random.Generator), firstDelays.go n (.exponential factor m) g =
      (List.range n).map fun i => exponentialDelay factor (m + 1 + i) := by
  induction n with
  | zero => intro m g; rfl
  | succ n ih =>
    intro m g
    rw [firstDelays.go, Schedule.Cursor.next_exponential]
    dsimp only
    rw [ih, List.range_succ_eq_map, List.map_cons, List.map_map]
    congr 1
    apply List.map_congr_left
    intro i _
    simp only [Function.comp]
    congr 1
    omega

end Schedule

/-- Backoff's delays are the doubling over the integers capped at the longest duration: never
decreasing, never out of range. -/
theorem exponential_backoff_delays (factor : Int) (h0 : 0 ≤ factor) :
    ∃ s, Schedule.exponentialOf factor = .ok s ∧ ∀ n,
      s.firstDelays n = (List.range n).map (fun i => Schedule.backoff factor (i + 1)) ∧
        (s.firstDelays n).Pairwise (· ≤ ·) ∧
        ∀ d ∈ s.firstDelays n, 0 ≤ d ∧ d ≤ maxDuration := by
  refine ⟨.exponential factor, by simp [Schedule.exponentialOf, requireNonNegative_of_nonneg h0,
    bind, Except.bind, pure, Except.pure], fun n => ?_⟩
  have hdelays : (Schedule.exponential factor).firstDelays n =
      (List.range n).map (fun i => Schedule.backoff factor (i + 1)) := by
    show Schedule.firstDelays.go n (.exponential factor 0) #[] = _
    rw [Schedule.firstDelays_go_exponential]
    apply List.map_congr_left
    intro i _
    rw [Schedule.exponentialDelay_eq_backoff h0, Nat.zero_add, Nat.add_comm]
  refine ⟨hdelays, ?_, ?_⟩
  · rw [hdelays]
    exact List.pairwise_lt_range.map _
      fun i j hij => Schedule.backoff_monotone h0 (Nat.succ_le_succ hij.le)
  · rw [hdelays]
    intro d hd
    obtain ⟨i, -, rfl⟩ := List.mem_map.1 hd
    exact ⟨Schedule.backoff_nonneg h0 _, Schedule.backoff_le_maxDuration _ _⟩

/-- Backoff from the longest duration waits nothing, then the longest duration each time. -/
theorem exponential_backoff_delays_longest :
    0 ≤ maxDuration ∧ ∃ s, Schedule.exponentialOf maxDuration = .ok s ∧ ∀ n,
      s.firstDelays n = (List.range n).map (fun i => Schedule.backoff maxDuration (i + 1)) ∧
        (s.firstDelays n).Pairwise (· ≤ ·) ∧
        ∀ d ∈ s.firstDelays n, 0 ≤ d ∧ d ≤ maxDuration :=
  ⟨by decide, exponential_backoff_delays maxDuration (by decide)⟩

/-- From `2 ^ 61` ns the third doubling would pass the longest duration, and saturates. -/
example : (Schedule.exponential (Int.pow 2 61)).firstDelays 5 =
    [0, Int.pow 2 61, Int.pow 2 62, maxDuration, maxDuration] := by decide

end HttpRetry
