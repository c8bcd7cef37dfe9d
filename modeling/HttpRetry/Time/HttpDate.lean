import HttpRetry.Time.Civil

/-!
HTTP dates in the three forms a server may send: `Mon, 02 Jan 2006 15:04:05 GMT`,
`Monday, 02-Jan-06 15:04:05 MST` and `Mon Jan _2 15:04:05 2006`. A form is a list of `Piece`s
read left to right; names match without regard to case, and the day must exist in its month.
-/

namespace HttpRetry.Time

/-- One element of a date form. -/
inductive Piece where
  /-- Literal text. -/
  | lit (s : String)
  /-- A three-letter day name. -/
  | weekday
  /-- A full day name. -/
  | weekdayLong
  /-- The day of the month: two digits, or (not padded) an optional space and one or two. -/
  | day (padded : Bool)
  /-- A three-letter month name. -/
  | month
  /-- A four-digit year. -/
  | year4
  /-- A two-digit year. -/
  | year2
  | hour
  | minute
  | second
  /-- A zone name or offset. -/
  | zone
  deriving Repr

/-- What has been read of a date so far. -/
structure Fields where
  year : Int := 0
  month : Nat := 1
  day : Nat := 1
  hour : Nat := 0
  minute : Nat := 0
  second : Nat := 0
  nanos : Nat := 0
  deriving Repr

/-- The text without leading spaces. -/
def dropSpaces : List Char → List Char
  | ' ' :: r => dropSpaces r
  | r => r

theorem dropSpaces_length_le (l : List Char) : (dropSpaces l).length ≤ l.length := by
  induction l with
  | nil => simp [dropSpaces]
  | cons c r ih =>
    by_cases h : c = ' '
    · subst h; simp only [dropSpaces, List.length_cons]; omega
    · simp [dropSpaces, h]

/-- Reads the literal `p` off the front of `v`: a space of `p` (with the spaces after it)
matches the spaces that start `v`, of which there must be one unless `v` is used up. -/
def skipLiteral (v : List Char) : List Char → Option (List Char)
  | [] => some v
  | ' ' :: p =>
    match v with
    | c :: _ => if c != ' ' then none else skipLiteral (dropSpaces v) (dropSpaces p)
    | [] => skipLiteral [] (dropSpaces p)
  | q :: p =>
    match v with
    | c :: r => if c == q then skipLiteral r p else none
    | [] => none
termination_by p => p.length
decreasing_by
  all_goals simp only [List.length_cons]
  all_goals have := dropSpaces_length_le p
  all_goals omega

/-- One or two digits (exactly two if `fixed`), and what follows them. -/
def twoDigits (fixed : Bool) : List Char → Option (Nat × List Char)
  | a :: b :: r =>
    if !a.isDigit then none
    else if b.isDigit then some ((a.toNat - 48) * 10 + (b.toNat - 48), r)
    else if fixed then none else some (a.toNat - 48, b :: r)
  | [a] => if a.isDigit && !fixed then some (a.toNat - 48, []) else none
  | [] => none

/-- Two characters equal up to the case of a letter. -/
def sameLetter (a b : Char) : Bool := a == b || (a.toLower == b.toLower && a.toLower.isLower)

/-- The position of the first name of `names` that starts `v` (up to case), and what follows. -/
def lookupName (names : List String) (v : List Char) : Option (Nat × List Char) :=
  let rec go : Nat → List String → Option (Nat × List Char)
    | _, [] => none
    | i, n :: ns =>
      let k := n.length
      if v.length ≥ k && ((v.take k).zip n.toList).all (fun p => sameLetter p.1 p.2) then
        some (i, v.drop k)
      else go (i + 1) ns
  go 0 names

/-- Three-letter day names, from Sunday. -/
def shortDays : List String := ["Sun", "Mon", "Tue", "Wed", "Thu", "Fri", "Sat"]

/-- Full day names, from Sunday. -/
def longDays : List String :=
  ["Sunday", "Monday", "Tuesday", "Wednesday", "Thursday", "Friday", "Saturday"]

/-- Three-letter month names, from January. -/
def shortMonths : List String :=
  ["Jan", "Feb", "Mar", "Apr", "May", "Jun", "Jul", "Aug", "Sep", "Oct", "Nov", "Dec"]

/-- The leading digits of `v` as a number, and what follows them. -/
def leadingDigits : Nat → List Char → Nat × List Char
  | acc, c :: r => if c.isDigit then leadingDigits (acc * 10 + (c.toNat - 48)) r else (acc, c :: r)
  | acc, [] => (acc, [])

/-- A short signed number: an optional sign and digits, all of the text. -/
def shortSigned (cs : List Char) : Option Int :=
  let (neg, r) := match cs with
    | '-' :: r => (true, r)
    | '+' :: r => (false, r)
    | r => (false, r)
  match leadingDigits 0 r with
  | (n, []) => some (if neg then -(n : Int) else n)
  | _ => none

/-- The length of a signed hour offset (`+5`, `-07`) at the front of `v`, or 0 if there is none. -/
def signedOffsetLength (v : List Char) : Nat :=
  match v with
  | s :: r =>
    if s != '+' && s != '-' then 0
    else
      let (x, rest) := leadingDigits 0 r
      if rest.length == r.length || x > 23 then 0 else v.length - rest.length
  | [] => 0

/-- The length of a zone name at the front of `v`, if one is there: `ChST` or `MeST`, `GMT`
with an optional hour offset, a signed hour offset, or three to five capital letters (four or
five ending in `T`, or `WITA`). -/
def zoneLength (v : List Char) : Option Nat :=
  if v.length < 3 then none
  else if v.take 4 == "ChST".toList || v.take 4 == "MeST".toList then some 4
  else if v.take 3 == "GMT".toList then
    some (if v.length == 3 then 3 else 3 + signedOffsetLength (v.drop 3))
  else if v.head? == some '+' || v.head? == some '-' then
    let n := signedOffsetLength v
    if n > 0 then some n else none
  else
    let upper := (v.take 6).takeWhile fun c => 'A' ≤ c && c ≤ 'Z'
    match upper.length with
    | 3 => some 3
    | 4 => if v[3]? == some 'T' || v.take 4 == "WITA".toList then some 4 else none
    | 5 => if v[4]? == some 'T' then some 5 else none
    | _ => none

/-- Nanoseconds of a fraction whose digits are `ds`: the first nine digits count. -/
def fractionNanos (ds : List Char) : Nat :=
  let d9 := ds.take 9
  (leadingDigits 0 d9).1 * Nat.pow 10 (9 - d9.length)

/-- Reads one piece off the front of the text. -/
def readPiece (f : Fields) (v : List Char) : Piece → Option (Fields × List Char)
  | .lit s => (skipLiteral v s.toList).map (f, ·)
  | .weekday => (lookupName shortDays v).map fun r => (f, r.2)
  | .weekdayLong => (lookupName longDays v).map fun r => (f, r.2)
  | .month => (lookupName shortMonths v).map fun r => ({ f with month := r.1 + 1 }, r.2)
  | .day padded =>
    let v' := if !padded && v.head? == some ' ' then v.drop 1 else v
    (twoDigits padded v').map fun r => ({ f with day := r.1 }, r.2)
  | .year4 =>
    let p := v.take 4
    if p.length == 4 && p.all Char.isDigit then
      some ({ f with year := (leadingDigits 0 p).1 }, v.drop 4)
    else none
  | .year2 =>
    if v.length < 2 then none
    else (shortSigned (v.take 2)).map fun y =>
      ({ f with year := if y ≥ 69 then y + 1900 else y + 2000 }, v.drop 2)
  | .hour => (twoDigits false v).bind fun r =>
      if r.1 < 24 then some ({ f with hour := r.1 }, r.2) else none
  | .minute => (twoDigits true v).bind fun r =>
      if r.1 < 60 then some ({ f with minute := r.1 }, r.2) else none
  | .second => (twoDigits true v).bind fun r =>
      if r.1 ≥ 60 then none
      else
        match r.2 with
        | c :: d :: rest =>
          if (c == '.' || c == ',') && d.isDigit then
            let ds := (d :: rest).takeWhile Char.isDigit
            some ({ f with second := r.1, nanos := fractionNanos ds }, rest.drop (ds.length - 1))
          else some ({ f with second := r.1 }, r.2)
        | _ => some ({ f with second := r.1 }, r.2)
  | .zone =>
    if v.take 3 == "UTC".toList then some (f, v.drop 3)
    else (zoneLength v).map fun n => (f, v.drop n)

/-- Reads all pieces of a form, in order. -/
def readPieces (f : Fields) (v : List Char) : List Piece → Option (Fields × List Char)
  | [] => some (f, v)
  | p :: ps => (readPiece f v p).bind fun r => readPieces r.1 r.2 ps

/-- The preferred form. -/
def preferredForm : List Piece :=
  [.weekday, .lit ", ", .day true, .lit " ", .month, .lit " ", .year4, .lit " ", .hour, .lit ":",
   .minute, .lit ":", .second, .lit " GMT"]

/-- The form with full day names and two-digit years. -/
def longDayForm : List Piece :=
  [.weekdayLong, .lit ", ", .day true, .lit "-", .month, .lit "-", .year2, .lit " ", .hour,
   .lit ":", .minute, .lit ":", .second, .lit " ", .zone]

/-- The form with the year last. -/
def yearLastForm : List Piece :=
  [.weekday, .lit " ", .month, .lit " ", .day false, .lit " ", .hour, .lit ":", .minute, .lit ":",
   .second, .lit " ", .year4]

/-- The instant a text writes in one form, if it does. -/
def parseForm (form : List Piece) (s : String) : Option Int :=
  match readPieces {} s.toList form with
  | some (f, []) =>
    if f.day < 1 || f.day > daysInMonth f.year f.month then none
    else some (instantOf f.year f.month f.day f.hour f.minute f.second f.nanos)
  | _ => none

/-- The instant an HTTP date writes, trying the three forms in turn. -/
def parseHttpDate (s : String) : Option Int :=
  (parseForm preferredForm s).orElse fun _ =>
    (parseForm longDayForm s).orElse fun _ => parseForm yearLastForm s

end HttpRetry.Time
