import HttpRetry.Text.Decimal

/-!
Integer literals with an optional base prefix (`0b`, `0o`, `0x`, or a leading `0` for octal) and
underscores between digits, read into 64-bit words; a digit outside the base is a syntax error and
a value past `2^64 - 1` a range error.
-/

namespace HttpRetry.Text

/-- The value of a digit character in bases up to 36, or 36 for any other character. -/
def digitValue (c : Char) : Nat :=
  if c.isDigit then c.toNat - 48
  else if 'a' ≤ c.toLower && c.toLower ≤ 'z' then c.toLower.toNat - 87
  else 36

/-- Reads digits of `base` after the value `acc`, skipping underscores when `separated`. -/
def readBase (base : Nat) (separated : Bool) : Nat → List Char → Except NumberError Nat
  | acc, [] => .ok acc
  | acc, c :: cs =>
    if separated && c == '_' then readBase base separated acc cs
    else if digitValue c ≥ base then .error .malformed
    else
      let v := acc * base + digitValue c
      if v > maxUnsigned then .error .outOfRange else readBase base separated v cs

/-- Whether the underscores of a literal (after an optional sign) stand only between digits,
or between a base prefix and a digit. The state is what was seen last: `0` a digit or prefix,
`_` an underscore, `!` anything else, `^` nothing yet. -/
def separatorsFit (s : List Char) : Bool :=
  let body := match s with
    | '+' :: r => r
    | '-' :: r => r
    | r => r
  let (start, hex, rest) := match body with
    | '0' :: p :: r =>
      if p.toLower == 'b' || p.toLower == 'o' || p.toLower == 'x' then ('0', p.toLower == 'x', r)
      else ('^', false, body)
    | _ => ('^', false, body)
  let step := fun (saw : Char) (c : Char) =>
    if c.isDigit || (hex && 'a' ≤ c.toLower && c.toLower ≤ 'f') then '0'
    else if c == '_' then (if saw == '0' then '_' else '!')
    else '!'
  -- an underscore after anything but a digit, or before a non-digit, spoils the literal
  let rec scan : Char → List Char → Bool
    | saw, [] => saw != '_'
    | saw, c :: cs =>
      if c == '_' && saw != '0' then false
      else if saw == '_' && !(c.isDigit || (hex && 'a' ≤ c.toLower && c.toLower ≤ 'f')) then false
      else scan (step saw c) cs
  scan start rest

/-- An unsigned word written in base 10, or with a base prefix when `prefixed`. -/
def parseUnsignedLiteral (prefixed : Bool) (s : List Char) : Except NumberError Nat :=
  if s.isEmpty then .error .malformed
  else
    let (base, digits) :=
      if !prefixed then (10, s)
      else match s with
        | '0' :: p :: r =>
          if r.isEmpty then (8, p :: r)
          else if p.toLower == 'b' then (2, r)
          else if p.toLower == 'o' then (8, r)
          else if p.toLower == 'x' then (16, r)
          else (8, p :: r)
        | '0' :: [] => (8, [])
        | _ => (10, s)
    match readBase base prefixed 0 digits with
    | .error e => .error e
    | .ok v =>
      if prefixed && s.contains '_' && !separatorsFit s then .error .malformed else .ok v

/-- A signed word written with an optional sign, then as `parseUnsignedLiteral` reads. -/
def parseSignedLiteral (prefixed : Bool) (s : String) : Except NumberError Int :=
  let (neg, body) := match s.toList with
    | '+' :: r => (false, r)
    | '-' :: r => (true, r)
    | r => (false, r)
  match parseUnsignedLiteral prefixed body with
  | .error .malformed => .error .malformed
  | .error .outOfRange => .error .outOfRange
  | .ok u =>
    if !neg && u ≥ Nat.pow 2 63 then .error .outOfRange
    else if neg && u > Nat.pow 2 63 then .error .outOfRange
    else .ok (if neg then -(u : Int) else u)

end HttpRetry.Text
