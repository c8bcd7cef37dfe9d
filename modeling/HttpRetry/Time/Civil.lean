/-!
Civil dates of the proleptic Gregorian calendar and instants.

An instant is a whole number of nanoseconds since 1970-01-01T00:00:00Z. `daysFromCivil` counts
the days from 1970-01-01 to a date by the usual era arithmetic: years are shifted to start in
March, so that the leap day ends a year, and 400-year eras of 146097 days are counted with floor
division; `civilFromDays` inverts it the same way.
-/

namespace HttpRetry.Time

/-- Nanoseconds in a second. -/
def nanosPerSecond : Int := 1000000000

/-- An instant's nanoseconds since the epoch as a signed 64-bit word, as the instant reports them:
an instant more than about 292 years from the epoch wraps around. -/
def unixNano (t : Int) : Int := Int.bmod t (Nat.pow 2 64)

/-- A leap year of the Gregorian calendar. -/
def isLeapYear (y : Int) : Bool := y % 4 == 0 && (y % 100 != 0 || y % 400 == 0)

/-- The number of days in a month (1 to 12) of a year. -/
def daysInMonth (y : Int) (m : Nat) : Nat :=
  match m with
  | 2 => if isLeapYear y then 29 else 28
  | 4 | 6 | 9 | 11 => 30
  | _ => 31

/-- The number of days from 1970-01-01 to the date `y`-`m`-`d`. -/
def daysFromCivil (y : Int) (m d : Nat) : Int :=
  let y' := if m ≤ 2 then y - 1 else y
  let era := y' / 400
  let yoe := y' - era * 400
  let mp : Int := if m > 2 then (m : Int) - 3 else (m : Int) + 9
  let doy := (153 * mp + 2) / 5 + (d : Int) - 1
  let doe := yoe * 365 + yoe / 4 - yoe / 100 + doy
  era * 146097 + doe - 719468

/-- The instant of a date and a time of day in UTC. -/
def instantOf (y : Int) (mo d h mi s : Nat) (nanos : Nat) : Int :=
  ((daysFromCivil y mo d * 86400 + (h * 3600 + mi * 60 + s : Nat)) * nanosPerSecond) + nanos

/-- The date (year, month, day) `days` days after 1970-01-01. -/
def civilFromDays (days : Int) : Int × Nat × Nat :=
  let z := days + 719468
  let era := z / 146097
  let doe := z - era * 146097
  let yoe := (doe - doe / 1460 + doe / 36524 - doe / 146096) / 365
  let doy := doe - (365 * yoe + yoe / 4 - yoe / 100)
  let mp := (5 * doy + 2) / 153
  let d := doy - (153 * mp + 2) / 5 + 1
  let m := if mp < 10 then mp + 3 else mp - 9
  ((yoe + era * 400) + (if m ≤ 2 then 1 else 0), m.toNat, d.toNat)

/-- A number written with at least `width` digits. -/
def zeroPadded (width : Nat) (n : Nat) : String :=
  let s := toString n
  String.ofList (List.replicate (width - s.length) '0') ++ s

/-- An instant in UTC to the second, as `YYYY-MM-DDThh:mm:ssZ`. -/
def rfc3339 (instant : Int) : String :=
  let secs := instant / nanosPerSecond
  let days := secs / 86400
  let inDay := (secs - days * 86400).toNat
  let (y, m, d) := civilFromDays days
  let year := if y < 0 then "-" ++ zeroPadded 4 y.natAbs else zeroPadded 4 y.toNat
  year ++ "-" ++ zeroPadded 2 m ++ "-" ++ zeroPadded 2 d ++ "T" ++ zeroPadded 2 (inDay / 3600) ++ ":" ++
    zeroPadded 2 (inDay / 60 % 60) ++ ":" ++ zeroPadded 2 (inDay % 60) ++ "Z"

end HttpRetry.Time
