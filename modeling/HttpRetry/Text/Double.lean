/-!
Binary64 floating-point numbers and their decimal text: `ofDecimal?` rounds to nearest, ties to
even, in exact arithmetic; `shortest` gives the fewest digits that read back as the same double;
`fixed`, `scientific` and `general` write them out.
-/

namespace HttpRetry.Text.Double

/-- A non-negative rational `num / den` with a positive denominator. -/
structure Ratio where
  num : Nat
  den : Nat

/-- The rational `a · 2^e2 · 10^e10`. -/
def scaled (a : Nat) (e2 e10 : Int) : Ratio :=
  ⟨a * Nat.pow 2 e2.toNat * Nat.pow 10 e10.toNat, Nat.pow 2 (-e2).toNat * Nat.pow 10 (-e10).toNat⟩

/-- `x ≤ y` for ratios. -/
def Ratio.le (x y : Ratio) : Bool := x.num * y.den ≤ y.num * x.den

/-- `x < y` for ratios. -/
def Ratio.lt (x y : Ratio) : Bool := x.num * y.den < y.num * x.den

/-- The double with sign `neg`, biased exponent `e` and stored fraction `f`. -/
def assemble (neg : Bool) (e f : Nat) : Float :=
  Float.ofBits ((if neg then Nat.pow 2 63 else 0) + e * Nat.pow 2 52 + f).toUInt64

/-- The largest `l` with `2^l ≤ x`, for a positive ratio. -/
def log2Floor (x : Ratio) : Int :=
  let l : Int := (x.num.log2 : Int) - x.den.log2
  if (scaled 1 l 0).le x then l else l - 1

/-- The double nearest to the positive ratio `x` (ties to an even significand), or `none` when
it rounds past the largest finite double. -/
def roundRatio (neg : Bool) (x : Ratio) : Option Float :=
  let k : Int := max (log2Floor x - 52) (-1074)
  -- `x / 2^k` as quotient and remainder over a common denominator
  let num := x.num * Nat.pow 2 (-k).toNat
  let den := x.den * Nat.pow 2 k.toNat
  let q := num / den
  let r := num % den
  let q := if 2 * r > den || (2 * r == den && q % 2 == 1) then q + 1 else q
  let (q, k) := if q == Nat.pow 2 53 then (Nat.pow 2 52, k + 1) else (q, k)
  if q < Nat.pow 2 52 then some (assemble neg 0 q)
  else
    let biased := k + 52 + 1023
    if biased > 2046 then none else some (assemble neg biased.toNat (q - Nat.pow 2 52))

/-- The double nearest to `±m · 10^e`, or `none` if it overflows. Values far outside the range
of doubles are settled by their digit count alone. -/
def ofDecimal? (neg : Bool) (m : Nat) (e : Int) : Option Float :=
  if m == 0 then some (assemble neg 0 0)
  else
    let size : Int := (toString m).length
    if size + e > 310 then none
    else if size + e < -330 then some (assemble neg 0 0)
    else roundRatio neg (scaled m 0 e)

/-- A finite double as sign, integer significand `m` and exponent `q` (value `m · 2^q`), and
whether the gap to the next smaller double is half the gap to the next larger one. -/
structure Parts where
  negative : Bool
  significand : Nat
  exponent : Int
  lopsided : Bool

/-- The parts of a finite double; `none` for infinities and NaN. -/
def parts? (x : Float) : Option Parts :=
  let b := x.toBits.toNat
  let neg := b / Nat.pow 2 63 == 1
  let e : Nat := b / Nat.pow 2 52 % 2048
  let f := b % Nat.pow 2 52
  if e == 2047 then none
  else if e == 0 then some ⟨neg, f, -1074, false⟩
  else some ⟨neg, f + Nat.pow 2 52, (e : Int) - 1075, f == 0 && e > 1⟩

/-- Decimal digits of a number, most significant first, and the position of the decimal point:
the value is `0.d₁d₂… · 10^point`. No digits stands for zero. -/
structure Digits where
  negative : Bool
  digits : List Char
  point : Int

/-- The largest `k` with `10^k ≤ x`, for a positive ratio, from an estimate `k` that is off by
at most `fuel`. -/
def log10Fix (x : Ratio) : Nat → Int → Int
  | 0, k => k
  | fuel + 1, k =>
    if x.lt (scaled 1 0 k) then log10Fix x fuel (k - 1)
    else if (scaled 1 0 (k + 1)).le x then log10Fix x fuel (k + 1)
    else k

/-- The decimal digits of a natural number. -/
def natDigits (n : Nat) : List Char := (toString n).toList

/-- Drops trailing zeros of a positive `c · 10^p`. -/
def trimZeros : Nat → Nat → Int → Nat × Int
  | 0, c, p => (c, p)
  | fuel + 1, c, p => if c % 10 == 0 && c > 0 then trimZeros fuel (c / 10) (p + 1) else (c, p)

/-- The shortest digits of a finite double that read back as it. -/
def shortest (x : Float) : Option Digits :=
  (parts? x).map fun pt =>
    if pt.significand == 0 then ⟨pt.negative, [], 0⟩
    else
      let m := pt.significand
      let q := pt.exponent
      let inclusive := m % 2 == 0
      let lowN := 4 * m - (if pt.lopsided then 1 else 2)
      let highN := 4 * m + 2
      let v := scaled (4 * m) (q - 2) 0
      let k := log10Fix v 4 ((((m.log2 : Int) + q) * 30103).fdiv 100000)
      let inside := fun (lo hi c : Ratio) =>
        if inclusive then lo.le c && c.le hi else lo.lt c && c.lt hi
      let attempt := fun (n : Nat) =>
        let p := k - n + 1
        let vr := scaled (4 * m) (q - 2) (-p)
        let lo := scaled lowN (q - 2) (-p)
        let hi := scaled highN (q - 2) (-p)
        let t := vr.num / vr.den
        let down := inside lo hi ⟨t, 1⟩
        let up := inside lo hi ⟨t + 1, 1⟩
        let gap := 2 * (vr.num - t * vr.den)
        let pick :=
          if down && up then
            if gap < vr.den then some t
            else if gap > vr.den then some (t + 1)
            else some (if t % 2 == 0 then t else t + 1)
          else if down then some t
          else if up then some (t + 1)
          else none
        pick.map (·, p)
      let found := ((List.range 17).map (· + 1)).findSome? attempt
      let (c, p) := found.getD (0, 0)
      let (c, p) := trimZeros 20 c p
      let ds := natDigits c
      ⟨pt.negative, ds, p + ds.length⟩

/-- The sign of a number's text. -/
def signText (d : Digits) : String := if d.negative then "-" else ""

/-- Digits written positionally with `places` digits after the point (none: no point). -/
def fixedWith (d : Digits) (places : Nat) : String :=
  let n := d.digits.length
  let intPart :=
    if d.point > 0 then
      let k := d.point.toNat
      String.ofList (d.digits.take k) ++ String.ofList (List.replicate (k - min n k) '0')
    else "0"
  let frac := (List.range places).map fun (i : Nat) =>
    let j : Int := d.point + (i : Int)
    if 0 ≤ j && j < n then d.digits.getD j.toNat '0' else '0'
  signText d ++ intPart ++ (if places > 0 then "." ++ String.ofList frac else "")

/-- Digits written positionally, with as many places as they need. -/
def fixed (d : Digits) : String :=
  fixedWith d (max ((d.digits.length : Int) - d.point) 0).toNat

/-- The exponent of scientific text: a sign and at least two digits. -/
def exponentText (e : Int) : String :=
  let a := e.natAbs
  (if e < 0 then "-" else "+") ++ (if a < 10 then "0" else "") ++ toString a

/-- Digits written as one digit, the others after a point, and a power of ten. -/
def scientific (d : Digits) : String :=
  match d.digits with
  | [] => signText d ++ "0e+00"
  | c :: rest =>
    signText d ++ String.singleton c ++ (if rest.isEmpty then "" else "." ++ String.ofList rest) ++
      "e" ++ exponentText (d.point - 1)

/-- Digits written positionally unless the power of ten is below -4 or at least `limit`. -/
def general (limit : Int) (d : Digits) : String :=
  let e := d.point - 1
  if !d.digits.isEmpty && (e < -4 || e ≥ limit) then scientific d else fixed d

/-- The text of a double that is not finite. -/
def nonFiniteText (x : Float) : String :=
  if x.isNaN then "NaN" else if x > 0 then "+Inf" else "-Inf"

/-- The shortest positional text of a double. -/
def fixedText (x : Float) : String :=
  match shortest x with
  | some d => fixed d
  | none => nonFiniteText x

/-- The shortest text of a double, positional for powers of ten from -4 to 5 and scientific
otherwise. -/
def compactText (x : Float) : String :=
  match shortest x with
  | some d => general 6 d
  | none => nonFiniteText x

end HttpRetry.Text.Double
