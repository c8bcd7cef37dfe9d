import HttpRetry.Settings.Value
import HttpRetry.Text.Integer
import HttpRetry.Text.Double
import HttpRetry.Time.Timestamp

/-!
What a YAML scalar means. A plain scalar is null, a boolean, a special double, or, starting with
a digit or a sign, tried as a timestamp, an integer, an unsigned integer, a double and a signed
binary or octal integer, in that order; anything else is text. An explicit tag asks for one of
these readings and must get it.
-/

namespace HttpRetry.Yaml

/-- The standard tags, in short form. -/
def nullTag : String := "!!null"
def boolTag : String := "!!bool"
def strTag : String := "!!str"
def intTag : String := "!!int"
def floatTag : String := "!!float"
def timestampTag : String := "!!timestamp"
def seqTag : String := "!!seq"
def mapTag : String := "!!map"
def binaryTag : String := "!!binary"
def mergeTag : String := "!!merge"

/-- A tag in short form: the standard prefix becomes `!!`. -/
def shortTag (tag : String) : String :=
  let long := "tag:yaml.org,2002:"
  if tag.startsWith long then "!!" ++ (tag.drop long.length).toString else tag

/-- Digits of `cs` in order, the rest of `cs`, and whether an underscore was met. -/
def digitRun : List Char → List Char × List Char × Bool
  | c :: cs =>
    if c.isDigit || c == '_' then
      let (ds, rest, u) := digitRun cs
      (if c == '_' then ds else c :: ds, rest, u || c == '_')
    else ([], c :: cs, false)
  | [] => ([], [], false)

/-- The number written by decimal digits. -/
def digitsValue (ds : List Char) : Nat := ds.foldl (fun acc c => acc * 10 + (c.toNat - 48)) 0

/-- A double written in decimal: digits with an optional point and exponent, underscores only
between digits, or `inf`, `infinity` and `nan` in any case; a value too large for a double is
none. -/
def parseDouble? (s : String) : Option Float :=
  let (neg, body) := match s.toList with
    | '+' :: r => (false, r)
    | '-' :: r => (true, r)
    | r => (false, r)
  let lower := String.ofList (body.map Char.toLower)
  if lower == "inf" || lower == "infinity" then some (if neg then -(1.0 / 0.0) else 1.0 / 0.0)
  else if lower == "nan" then some (0.0 / 0.0)
  else
    let (intDigits, rest, u1) := digitRun body
    let (fracDigits, rest, u2) := match rest with
      | '.' :: r => digitRun r
      | r => ([], r, false)
    if intDigits.isEmpty && fracDigits.isEmpty then none
    else
      let exp : Option (Int × List Char × Bool) := match rest with
        | e :: r =>
          if e == 'e' || e == 'E' then
            let (eneg, r) := match r with
              | '+' :: r1 => (false, r1)
              | '-' :: r1 => (true, r1)
              | r1 => (false, r1)
            let (eds, r2, u) := digitRun r
            if eds.isEmpty then none
            else some ((if eneg then -(digitsValue eds : Int) else digitsValue eds), r2, u)
          else some (0, e :: r, false)
        | [] => some (0, [], false)
      match exp with
      | none => none
      | some (e, tail, u3) =>
        if !tail.isEmpty then none
        else if (u1 || u2 || u3) && !Text.separatorsFit s.toList then none
        else
          Text.Double.ofDecimal? neg (digitsValue (intDigits ++ fracDigits))
            (e - fracDigits.length)

/-- Whether a plain text has the shape `[-+]?(\.[0-9]+|[0-9]+(\.[0-9]*)?)([eE][-+]?[0-9]+)?`. -/
def looksDecimal (s : String) : Bool :=
  let body := match s.toList with
    | '+' :: r => r
    | '-' :: r => r
    | r => r
  let intDigits := body.takeWhile Char.isDigit
  let rest := body.dropWhile Char.isDigit
  let (fracDigits, rest, dot) := match rest with
    | '.' :: r => (r.takeWhile Char.isDigit, r.dropWhile Char.isDigit, true)
    | r => (([] : List Char), r, false)
  let mantissaOk := if intDigits.isEmpty then dot && !fracDigits.isEmpty else true
  let expOk := match rest with
    | [] => true
    | e :: r =>
      (e == 'e' || e == 'E') &&
        (let r := match r with
          | '+' :: r1 => r1
          | '-' :: r1 => r1
          | r1 => r1
         !r.isEmpty && r.all Char.isDigit)
  mantissaOk && expOk

/-- A whole number of a signed reading, as the word it fits. -/
def wholeOf (n : Int) : Setting := .whole n .word

/-- The integer readings of a plain text without underscores, tried in the order of the module
comment after the timestamp. -/
def integerReading (plain : String) : Option Setting :=
  match Text.parseSignedLiteral true plain with
  | .ok n => some (wholeOf n)
  | .error _ =>
    match Text.parseUnsignedLiteral true plain.toList with
    | .ok n => some (.whole n .unsigned64)
    | .error _ => none

/-- A signed word in `base` written with an optional sign and at least one digit. -/
def signedInBase (base : Nat) (cs : List Char) : Option Int :=
  let (neg, ds) := match cs with
    | '+' :: r => (false, r)
    | '-' :: r => (true, r)
    | r => (false, r)
  if ds.isEmpty then none
  else match Text.readBase base false 0 ds with
    | .ok u =>
      if (!neg && u ≥ Nat.pow 2 63) || (neg && u > Nat.pow 2 63) then none
      else some (if neg then -(u : Int) else u)
    | .error _ => none

/-- An unsigned word in `base` written with at least one digit. -/
def unsignedInBase (base : Nat) (cs : List Char) : Option Nat :=
  if cs.isEmpty then none
  else match Text.readBase base false 0 cs with
    | .ok u => some u
    | .error _ => none

/-- A binary or octal reading of a text that starts with `0b`, `-0b`, `0o` or `-0o`: the digits
after the prefix as a signed word, else (without the minus) as an unsigned one. -/
def prefixedReading (plain : String) : Option Setting :=
  let unprefixed := fun (base : Nat) (r : List Char) =>
    match signedInBase base r with
    | some n => some (wholeOf n)
    | none => (unsignedInBase base r).map (.whole · .unsigned64)
  match plain.toList with
  | '0' :: 'b' :: r => unprefixed 2 r
  | '-' :: '0' :: 'b' :: r => (signedInBase 2 ('-' :: r)).map wholeOf
  | '0' :: 'o' :: r => unprefixed 8 r
  | '-' :: '0' :: 'o' :: r => (signedInBase 8 ('-' :: r)).map wholeOf
  | _ => none

/-- The tag and value a text resolves to without an explicit tag. -/
def resolvePlain (s : String) (tryTimestamp : Bool) : String × Setting :=
  match s with
  | "" | "~" | "null" | "Null" | "NULL" => (nullTag, .null)
  | "true" | "True" | "TRUE" => (boolTag, .bool true)
  | "false" | "False" | "FALSE" => (boolTag, .bool false)
  | ".nan" | ".NaN" | ".NAN" => (floatTag, .float (0.0 / 0.0))
  | ".inf" | ".Inf" | ".INF" | "+.inf" | "+.Inf" | "+.INF" => (floatTag, .float (1.0 / 0.0))
  | "-.inf" | "-.Inf" | "-.INF" => (floatTag, .float (-(1.0 / 0.0)))
  | _ =>
    let first := s.front
    if first == '.' then
      match parseDouble? s with
      | some x => (floatTag, .float x)
      | none => (strTag, .text s)
    else if first.isDigit || first == '+' || first == '-' then
      match (if tryTimestamp then Time.Timestamp.parse? s else none) with
      | some t => (timestampTag, .instant t)
      | none =>
        let plain := String.ofList (s.toList.filter (· != '_'))
        match integerReading plain with
        | some v => (intTag, v)
        | none =>
          match (if looksDecimal plain then parseDouble? plain else none) with
          | some x => (floatTag, .float x)
          | none =>
            match prefixedReading plain with
            | some v => (intTag, v)
            | none => (strTag, .text s)
    else (strTag, .text s)

/-- The tag and value of a text under the (short) tag `tag`, or the refusal when an explicit
tag asks for a reading the text does not have. Tags other than the standard scalar ones keep
the text as it is. -/
def resolve (tag : String) (s : String) : Except String (String × Setting) :=
  let tag := shortTag tag
  if !(tag == "" || tag == strTag || tag == boolTag || tag == intTag || tag == floatTag ||
      tag == timestampTag || tag == nullTag) then .ok (tag, .text s)
  else
    let (rtag, v) :=
      if tag == strTag then (strTag, .text s)
      else resolvePlain s (tag == "" || tag == timestampTag)
    let refused := "cannot decode " ++ shortTag rtag ++ " `" ++ s ++ "` as a " ++ shortTag tag
    if tag == "" || tag == rtag || tag == strTag then .ok (rtag, v)
    else if tag == floatTag && rtag == intTag then
      match v with
      | .whole n .word => .ok (floatTag, .float (Float.ofInt n))
      | _ => .error refused
    else .error refused

end HttpRetry.Yaml
