import HttpRetry.Settings.Value
import HttpRetry.Text.Integer
import HttpRetry.Text.Double
import HttpRetry.Time.Duration

/-!
Giving loosely typed settings their types. Conversions are lenient: whole numbers, booleans,
texts, durations and lists are each taken from several kinds of value (a text read as a literal,
a number truncated or wrapped, a single value as a list of one), and a null leaves what was
there. Faults are collected, each prefixed with the quoted dotted name of its setting, so that
all are reported at once.
-/

namespace HttpRetry

namespace Setting

/-- The refusal of a value whose type cannot be converted to `expected`. -/
def unconvertible (expected : String) (v : Setting) : String :=
  "expected type '" ++ expected ++ "', got unconvertible type '" ++ v.typeName ++ "'"

/-- A double converted to a signed word: truncated, or the least word when out of range. -/
def truncateDouble (x : Float) : Int :=
  if x.isNaN || x ≥ 9223372036854775808.0 || x < -9223372036854775808.0 then -Int.pow 2 63
  else if x < 0 then -((-x).toUInt64.toNat : Int)
  else (x.toUInt64.toNat : Int)

/-- A whole number as a signed word; `expected` names the target type in refusals. -/
def toWhole (expected : String) : Setting → Except String Int
  | .whole n .unsigned64 => .ok (if n ≥ Int.pow 2 63 then n - Int.pow 2 64 else n)
  | .whole n _ => .ok n
  | .float x => .ok (truncateDouble x)
  | .bool b => .ok (if b then 1 else 0)
  | .text s =>
    match Text.parseSignedLiteral true (if s.isEmpty then "0" else s) with
    | .ok n => .ok n
    | .error .malformed =>
      .error ("cannot parse value as '" ++ expected ++ "': strconv.ParseInt: invalid syntax")
    | .error .outOfRange =>
      .error ("cannot parse value as '" ++ expected ++ "': strconv.ParseInt: value out of range")
  | v => .error (unconvertible expected v)

/-- The boolean a text spells, if any. -/
def boolWord? : String → Option Bool
  | "1" | "t" | "T" | "TRUE" | "true" | "True" => some true
  | "0" | "f" | "F" | "FALSE" | "false" | "False" => some false
  | _ => none

/-- A boolean. -/
def toFlag : Setting → Except String Bool
  | .bool b => .ok b
  | .whole n _ => .ok (n != 0)
  | .float x => .ok (x != 0)
  | .text s =>
    match boolWord? s with
    | some b => .ok b
    | none =>
      if s.isEmpty then .ok false
      else .error "cannot parse value as 'bool': strconv.ParseBool: invalid syntax"
  | v => .error (unconvertible "bool" v)

/-- A text. -/
def toText : Setting → Except String String
  | .text s => .ok s
  | .bool b => .ok (if b then "1" else "0")
  | .whole n _ => .ok (toString n)
  | .float x => .ok (Text.Double.fixedText x)
  | v => .error (unconvertible "string" v)

/-- A refusal of a duration text cut before the value it quotes. -/
def shortDurationFault (msg : String) : String :=
  if msg.startsWith "time: unknown unit " then "time: unknown unit"
  else if msg.startsWith "time: " then
    let cs := msg.toList
    let keep := cs.length - 1 - ((cs.reverse.findIdx? (· == ' ')).getD 0)
    String.ofList (cs.take keep)
  else msg

/-- A duration in nanoseconds. -/
def toDuration : Setting → Except String Int
  | .text s => (Time.parseDuration s).mapError shortDurationFault
  | v => toWhole "time.Duration" v

end Setting

/-- Decoding steps, which collect faults as they go. -/
abbrev Decoding := StateM (List String)

namespace Decoding

/-- Notes a fault of the setting called `name`. -/
def fault (name : String) (msg : String) : Decoding Unit :=
  modify (· ++ ["'" ++ name ++ "' " ++ msg])

/-- Converts the setting called `name`; a null or a failed conversion keeps `current`. -/
def convert (conv : Setting → Except String α) (name : String) (current : α) :
    Setting → Decoding α
  | .null => pure current
  | v =>
    match conv v with
    | .ok a => pure a
    | .error e => do
      fault name e
      pure current

/-- Decodes a list whose items are decoded by `item` (named with their index, starting from
`zero`); see the module comment for what stands for a list. -/
def list (item : String → α → Setting → Decoding α) (zero : α) (name : String)
    (current : List α) : Setting → Decoding (List α)
  | .null => pure current
  | .list items =>
    (List.range items.length).zip items |>.mapM fun (i, v) =>
      item (name ++ "[" ++ toString i ++ "]") zero v
  | .table [] => pure []
  | v => do return [← item (name ++ "[0]") zero v]

/-- The dotted name of a field of the setting called `name`. -/
def child (name field : String) : String := if name.isEmpty then field else name ++ "." ++ field

/-- Whether a name matches a field name when case is ignored (the long s and the Kelvin sign
count as `s` and `k`). -/
def sameFolded (a b : String) : Bool :=
  let fold := fun (c : Char) =>
    if c == '\u017F' then 's' else if c == '\u212A' then 'k' else c.toLower
  a.length == b.length && (a.toList.zip b.toList).all fun (x, y) => fold x == fold y

/-- The entry for a field: the one of that exact name, else one that matches it ignoring case. -/
def lookup (entries : List (String × Setting)) (field : String) : Option Setting :=
  match entries.find? (·.1 == field) with
  | some (_, v) => some v
  | none => (entries.find? (sameFolded ·.1 field)).map (·.2)

/-- Decodes the field `field` of a table with `dec`, keeping `current` when it is absent. -/
def field (entries : List (String × Setting)) (name field : String) (current : α)
    (dec : String → α → Setting → Decoding α) : Decoding α :=
  match lookup entries field with
  | some v => dec (child name field) current v
  | none => pure current

/-- The refusal of a value that should have been a table. -/
def notTable (name : String) (v : Setting) : Decoding Unit :=
  fault name ("expected a map or struct, got \"" ++ v.shapeName ++ "\"")

end Decoding

end HttpRetry
