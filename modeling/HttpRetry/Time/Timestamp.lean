import HttpRetry.Time.Civil

/-!
Timestamps as a configuration text writes them (`YYYY-M-D`, optionally a time with a fraction and
a zone), read in UTC unless an offset other than zero gives a zone of its own. `Timestamp.text`
shows one as `2006-01-02 15:04:05.999999999 -0700 MST`, and `Timestamp.goSyntax` as the call
`time.Date(…)` that builds it.
-/

namespace HttpRetry.Time

/-- The zone a timestamp's clock reading is in: UTC, the zone of the host (which keeps UTC),
or a zone without a name at a fixed offset east of UTC, in seconds. -/
inductive Zone where
  | utc
  | host
  | fixed (offset : Int)

/-- A timestamp: a date, a time of day with its nanoseconds, and the zone of the reading. -/
structure Timestamp where
  year : Nat
  month : Nat
  day : Nat
  hour : Nat := 0
  minute : Nat := 0
  second : Nat := 0
  nanos : Nat := 0
  zone : Zone := .utc

namespace Timestamp

/-- The number written by decimal digits. -/
def digitsValue (ds : List Char) : Nat := ds.foldl (fun acc c => acc * 10 + (c.toNat - 48)) 0

/-- One or two digits and what follows them. -/
def smallNumber (cs : List Char) : Option (Nat × List Char) :=
  match cs with
  | a :: b :: r =>
    if !a.isDigit then none
    else if b.isDigit then some ((a.toNat - 48) * 10 + (b.toNat - 48), r)
    else some (a.toNat - 48, b :: r)
  | [a] => if a.isDigit then some (a.toNat - 48, []) else none
  | [] => none

/-- The nanoseconds of a fraction's digits: the first nine, scaled to nine places. -/
def fractionNanos (ds : List Char) : Nat :=
  let kept := ds.take 9
  digitsValue kept * Nat.pow 10 (9 - kept.length)

/-- Reads an optional fraction after the seconds: its nanoseconds and what follows it. -/
def fraction (cs : List Char) : Nat × List Char :=
  match cs with
  | c :: d :: rest =>
    if (c == '.' || c == ',') && d.isDigit then
      (fractionNanos (d :: rest.takeWhile Char.isDigit), rest.dropWhile Char.isDigit)
    else (0, cs)
  | _ => (0, cs)

/-- Reads `H:M:S` with an optional fraction: hour, minute, second, nanoseconds and the rest. -/
def timeOfDay (cs : List Char) : Option (Nat × Nat × Nat × Nat × List Char) := do
  let (h, r) ← smallNumber cs
  let r ← match r with | ':' :: r => some r | _ => none
  let (mi, r) ← smallNumber r
  let r ← match r with | ':' :: r => some r | _ => none
  let (se, r) ← smallNumber r
  if h ≥ 24 || mi ≥ 60 || se ≥ 60 then none
  let (nanos, r) := fraction r
  some (h, mi, se, nanos, r)

/-- Reads a zone that is all of `cs`: `Z`, or `±hh:mm`. -/
def zoneOf (cs : List Char) : Option Zone :=
  match cs with
  | ['Z'] => some .utc
  | [sg, h1, h2, ':', m1, m2] =>
    if !((sg == '+' || sg == '-') && h1.isDigit && h2.isDigit && m1.isDigit && m2.isDigit) then
      none
    else
      let hours := digitsValue [h1, h2]
      let minutes := digitsValue [m1, m2]
      if hours > 24 || minutes > 60 then none
      else
        let offset : Int := ((hours * 60 + minutes) * 60 : Nat)
        let offset := if sg == '-' then -offset else offset
        some (if offset == 0 then .host else .fixed offset)
  | _ => none

/-- Reads a timestamp that is all of `s` (see the module comment). -/
def parse? (s : String) : Option Timestamp := do
  let cs := s.toList
  let year := cs.take 4
  if !(year.length == 4 && year.all Char.isDigit && cs.getD 4 ' ' == '-') then none
  let y := digitsValue year
  let (mo, r) ← smallNumber (cs.drop 5)
  let r ← match r with | '-' :: r => some r | _ => none
  let (d, r) ← smallNumber r
  if mo < 1 || mo > 12 || d < 1 || d > daysInMonth y mo then none
  match r with
  | [] => some { year := y, month := mo, day := d }
  | sep :: r =>
    if !(sep == 'T' || sep == 't' || sep == ' ') then none
    let (h, mi, se, nanos, r) ← timeOfDay r
    let zone ← if sep == ' ' then (if r.isEmpty then some .utc else none) else zoneOf r
    some { year := y, month := mo, day := d, hour := h, minute := mi, second := se, nanos, zone }

/-- The offset east of UTC in seconds. -/
def offset (t : Timestamp) : Int :=
  match t.zone with
  | .fixed o => o
  | _ => 0

/-- An offset in seconds as `+hhmm` or `-hhmm`. -/
def offsetText (o : Int) : String :=
  let minutes := o.natAbs / 60
  (if o < 0 then "-" else "+") ++ zeroPadded 2 (minutes / 60) ++ zeroPadded 2 (minutes % 60)

/-- The nanoseconds as a fraction after a point, without trailing zeros; empty when zero. -/
def fractionText (nanos : Nat) : String :=
  if nanos == 0 then ""
  else "." ++ String.ofList ((zeroPadded 9 nanos).toList.reverse.dropWhile (· == '0')).reverse

/-- The timestamp as `2006-01-02 15:04:05.999999999 -0700 MST`. -/
def text (t : Timestamp) : String :=
  let name := match t.zone with
    | .utc | .host => "UTC"
    | .fixed o => offsetText o
  zeroPadded 4 t.year ++ "-" ++ zeroPadded 2 t.month ++ "-" ++ zeroPadded 2 t.day ++ " " ++
    zeroPadded 2 t.hour ++ ":" ++ zeroPadded 2 t.minute ++ ":" ++ zeroPadded 2 t.second ++
    fractionText t.nanos ++ " " ++ offsetText t.offset ++ " " ++ name

/-- The English name of a month (1 to 12). -/
def monthName (m : Nat) : String :=
  ["January", "February", "March", "April", "May", "June", "July", "August", "September",
    "October", "November", "December"].getD (m - 1) ""

/-- The timestamp as the call that builds it: `time.Date(2006, time.January, 2, 15, 4, 5, 0,
time.UTC)`. -/
def goSyntax (t : Timestamp) : String :=
  let zone := match t.zone with
    | .utc => "time.UTC"
    | .host => "time.Local"
    | .fixed _ => "time.Location(\"\")"
  "time.Date(" ++ toString t.year ++ ", time." ++ monthName t.month ++ ", " ++ toString t.day ++
    ", " ++ toString t.hour ++ ", " ++ toString t.minute ++ ", " ++ toString t.second ++ ", " ++
    toString t.nanos ++ ", " ++ zone ++ ")"

end Timestamp

end HttpRetry.Time
