import HttpRetry.Text.Quote

/-!
Durations written as text: an optional sign and pieces of a decimal number and a unit (`ns`, `us`
or `µs`, `ms`, `s`, `m`, `h`), or `0`, counted in nanoseconds with the limits of unsigned 64-bit
words and doubles. Refusals quote the text with bytes outside printable ASCII escaped.
`durationText` writes a duration as the largest unit below a second that fits, or as hours,
minutes and seconds without leading zero units.
-/

namespace HttpRetry.Time

/-- A text between double quotes, with quotes and backslashes escaped and each UTF-8 byte of a
character below the space or beyond ASCII written as `\x` and two hex digits. -/
def quoteBytes (s : String) : String :=
  let one := fun (c : Char) =>
    if c.toNat ≥ 0x80 || c.toNat < 0x20 then
      String.join ((String.singleton c).toUTF8.toList.map fun b => "\\x" ++ Text.hexPadded 2 b.toNat)
    else if c == '"' || c == '\\' then "\\" ++ c.toString
    else c.toString
  "\"" ++ String.join (s.toList.map one) ++ "\""

/-- Nanoseconds in one of a unit, if the unit is known. -/
def unitNanos : String → Option Nat
  | "ns" => some 1
  | "us" => some 1000
  | "µs" => some 1000
  | "μs" => some 1000
  | "ms" => some 1000000
  | "s" => some 1000000000
  | "m" => some 60000000000
  | "h" => some 3600000000000
  | _ => none

/-- The value of a character that is a decimal digit. -/
def digitOf (c : Char) : Nat := c.toNat - 48

/-- Reads leading decimal digits onto `x`; `none` when the value would pass 2^63. -/
def leadingWhole (x : Nat) : List Char → Option (Nat × List Char)
  | c :: cs =>
    if c.isDigit then
      if x > Nat.pow 2 63 / 10 then none
      else
        let y := x * 10 + digitOf c
        if y > Nat.pow 2 63 then none else leadingWhole y cs
    else some (x, c :: cs)
  | [] => some (x, [])

/-- Reads the leading digits of a fraction onto `x` with its scale, and the rest; digits that
would take the value past 2^63 are passed over without adding precision. -/
def leadingFraction (x : Nat) (scale : Float) (full : Bool) : List Char → Nat × Float × List Char
  | c :: cs =>
    if !c.isDigit then (x, scale, c :: cs)
    else if full || x > (Nat.pow 2 63 - 1) / 10 then leadingFraction x scale true cs
    else
      let y := x * 10 + digitOf c
      if y > Nat.pow 2 63 then leadingFraction x scale true cs
      else leadingFraction y (scale * 10) false cs
  | [] => (x, scale, [])

/-- The refusal of a text as a duration. -/
def invalidDuration (text : String) : String := "time: invalid duration " ++ quoteBytes text

/-- Adds the pieces in `s` to the total `d`; `text` is the whole text, for refusals. Each round
reads at least one character, so the length of `s` bounds the rounds. -/
def addPieces (text : String) : Nat → List Char → Nat → Except String Nat
  | _, [], d => .ok d
  | 0, _ :: _, _ => .error (invalidDuration text)
  | fuel + 1, s@(c :: _), d => do
    if !(c == '.' || c.isDigit) then throw (invalidDuration text)
    let some (whole, rest) := leadingWhole 0 s | throw (invalidDuration text)
    let before := rest.length != s.length
    let (frac, scale, rest, after) := match rest with
      | '.' :: r =>
        let (f, sc, r2) := leadingFraction 0 1 false r
        (f, sc, r2, r2.length != r.length)
      | r => (0, 1, r, false)
    if !before && !after then throw (invalidDuration text)
    let unitChars := rest.takeWhile fun ch => !(ch == '.' || ch.isDigit)
    let rest := rest.drop unitChars.length
    if unitChars.isEmpty then throw ("time: missing unit in duration " ++ quoteBytes text)
    let u := String.ofList unitChars
    let some unit := unitNanos u
      | throw ("time: unknown unit " ++ quoteBytes u ++ " in duration " ++ quoteBytes text)
    if whole > Nat.pow 2 63 / unit then throw (invalidDuration text)
    let v := whole * unit
    let v := if frac > 0 then v + (Float.ofNat frac * (Float.ofNat unit / scale)).toUInt64.toNat else v
    if v > Nat.pow 2 63 then throw (invalidDuration text)
    let d := (d + v) % Nat.pow 2 64
    if d > Nat.pow 2 63 then throw (invalidDuration text)
    addPieces text fuel rest d

/-- The nanoseconds a text stands for, or the refusal's message. -/
def parseDuration (text : String) : Except String Int := do
  let (negative, s) := match text.toList with
    | '-' :: r => (true, r)
    | '+' :: r => (false, r)
    | r => (false, r)
  if s == ['0'] then return 0
  if s.isEmpty then throw (invalidDuration text)
  let d ← addPieces text s.length s 0
  if negative then return -(d : Int)
  if d > Nat.pow 2 63 - 1 then throw (invalidDuration text)
  return d

/-- The digits of `v / 10^places` after the point, without trailing zeros (and without the point
when all are zero), and the whole part. -/
def fractionDigits (v places : Nat) : String × Nat :=
  let whole := v / Nat.pow 10 places
  let frac := v % Nat.pow 10 places
  if frac == 0 then ("", whole)
  else
    let ds := (toString frac).toList
    let padded := List.replicate (places - ds.length) '0' ++ ds
    let trimmed := (padded.reverse.dropWhile (· == '0')).reverse
    ("." ++ String.ofList trimmed, whole)

/-- The text of a duration of `d` nanoseconds; see the module comment. -/
def durationText (d : Int) : String :=
  let u := d.natAbs
  let sign := if d < 0 then "-" else ""
  if u == 0 then "0s"
  else if u < 1000000000 then
    let (places, unit) :=
      if u < 1000 then (0, "ns") else if u < 1000000 then (3, "µs") else (6, "ms")
    let (frac, whole) := fractionDigits u places
    sign ++ toString whole ++ frac ++ unit
  else
    let (frac, secs) := fractionDigits u 9
    let mins := secs / 60
    let hours := mins / 60
    let body :=
      if hours > 0 then toString hours ++ "h" ++ toString (mins % 60) ++ "m"
      else if mins > 0 then toString mins ++ "m"
      else ""
    sign ++ body ++ toString (secs % 60) ++ frac ++ "s"

end HttpRetry.Time
