/-!
Decimal integers in text: an optional sign, then one or more digits, read into a whole number of
64 bits.

Reading goes digit by digit: a character that is not a digit is a syntax error, and a value
that has grown past `2^64 - 1` is a range error at the digit that makes it so, whatever follows.
A value that fits in 64 bits but not in a signed word is a range error too. The text of a
signed word is its decimal digits with a minus sign in front when negative.
-/

namespace HttpRetry.Text

/-- Why a text is not a whole number of 64 bits. -/
inductive NumberError where
  /-- A character that is not a digit, or no digits at all. -/
  | malformed
  /-- The number does not fit. -/
  | outOfRange
  deriving DecidableEq, Repr

/-- The largest unsigned word. -/
def maxUnsigned : Nat := Nat.pow 2 64 - 1

/-- The largest signed word. -/
def maxSigned : Int := Int.pow 2 63 - 1

/-- The smallest signed word. -/
def minSigned : Int := -Int.pow 2 63

/-- The digits after `acc`, read until they end, stop at a non-digit or grow past `maxUnsigned`. -/
def readDigits : Nat → List Char → Except NumberError Nat
  | acc, [] => .ok acc
  | acc, c :: cs =>
    if c.isDigit then
      let v := acc * 10 + (c.toNat - '0'.toNat)
      if v > maxUnsigned then .error .outOfRange else readDigits v cs
    else .error .malformed

/-- An unsigned word written with one or more digits. -/
def parseUnsigned (cs : List Char) : Except NumberError Nat :=
  if cs.isEmpty then .error .malformed else readDigits 0 cs

/-- A signed word written with an optional `+` or `-` and one or more digits. -/
def parseSigned (s : String) : Except NumberError Int :=
  let (neg, digits) := match s.toList with
    | '+' :: r => (false, r)
    | '-' :: r => (true, r)
    | r => (false, r)
  match parseUnsigned digits with
  | .error e => .error e
  | .ok u =>
    let v : Int := if neg then -(u : Int) else u
    if v > maxSigned || v < minSigned then .error .outOfRange else .ok v

/-- The signed word written by the text, if the text writes one. -/
def parseSigned? (s : String) : Option Int := (parseSigned s).toOption

/-- `n` clamped to the signed words. -/
def clampSigned (n : Int) : Int := max minSigned (min maxSigned n)

end HttpRetry.Text
