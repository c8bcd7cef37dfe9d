import HttpRetry.Text.Double
import HttpRetry.Text.Quote
import HttpRetry.Text.Decimal

/-!
Structured log entries: a level (`trace` -1 up to `panic` 5, then no level and `disabled`), named
fields and a message. For machines an entry is one JSON object per line, durations in
milliseconds; for people, one coloured line with the fields sorted by name, a text quoted when it
holds a space, a quote, a backslash or anything outside printable ASCII.
-/

namespace HttpRetry.Log

/-- A log level, by rank. -/
structure Level where
  rank : Int
  deriving DecidableEq, Repr

namespace Level

def trace : Level := ⟨-1⟩
def debug : Level := ⟨0⟩
def info : Level := ⟨1⟩
def warn : Level := ⟨2⟩
def error : Level := ⟨3⟩
def fatal : Level := ⟨4⟩
def panic : Level := ⟨5⟩
def unset : Level := ⟨6⟩
def disabled : Level := ⟨7⟩

/-- The name of a level; levels without a name are written as their rank. -/
def name (l : Level) : String :=
  match l.rank with
  | -1 => "trace"
  | 0 => "debug"
  | 1 => "info"
  | 2 => "warn"
  | 3 => "error"
  | 4 => "fatal"
  | 5 => "panic"
  | 6 => ""
  | 7 => "disabled"
  | n => toString n

/-- The level a text names, ignoring case, or a rank from -128 to 127 in decimal. -/
def parse? (s : String) : Option Level :=
  let lower := s.toLower
  let named := [trace, debug, info, warn, error, fatal, panic, disabled, unset]
  match named.find? (fun l => l.name == lower) with
  | some l => some l
  | none =>
    match Text.parseSigned? s with
    | some n => if -128 ≤ n && n ≤ 127 then some ⟨n⟩ else none
    | none => none

/-- The short name of a level for people, with its colour (0 for none). -/
def badge (l : Level) : String × Nat :=
  match l.rank with
  | -1 => ("TRC", 34)
  | 0 => ("DBG", 0)
  | 1 => ("INF", 32)
  | 2 => ("WRN", 33)
  | 3 => ("ERR", 31)
  | 4 => ("FTL", 31)
  | 5 => ("PNC", 31)
  | _ => (String.ofList ((l.name.toUpper.toList).take 3), 0)

end Level

/-- The value of a field. -/
inductive Value where
  | int (n : Int)
  | text (s : String)
  | flag (b : Bool)
  /-- A duration in nanoseconds, written as milliseconds. -/
  | duration (nanos : Int)
  /-- The message of an error. -/
  | failure (msg : String)

/-- A log entry. -/
structure Entry where
  level : Level
  fields : List (String × Value)
  message : String

/-- A text as a JSON string: quotes, backslashes and control characters escaped. -/
def jsonString (s : String) : String :=
  let one := fun (c : Char) =>
    match c with
    | '"' => "\\\""
    | '\\' => "\\\\"
    | '\x08' => "\\b"
    | '\x0c' => "\\f"
    | '\n' => "\\n"
    | '\r' => "\\r"
    | '\t' => "\\t"
    | c => if c.toNat < 0x20 then "\\u00" ++ Text.hexPadded 2 c.toNat else c.toString
  "\"" ++ String.join (s.toList.map one) ++ "\""

/-- The JSON text of a double: see the module comment. Values that are not finite are written
as strings. -/
def numberText (x : Float) : String :=
  match Text.Double.shortest x with
  | none => "\"" ++ Text.Double.nonFiniteText x ++ "\""
  | some d =>
    let a := if x < 0 then -x else x
    if a != 0 && (a < 0.000001 || a ≥ 1e21) then
      let s := Text.Double.scientific d
      let cs := s.toList
      let n := cs.length
      if n ≥ 4 && cs.getD (n - 4) ' ' == 'e' && cs.getD (n - 3) ' ' == '-' &&
          cs.getD (n - 2) ' ' == '0' then
        String.ofList (cs.take (n - 2) ++ [cs.getD (n - 1) '0'])
      else s
    else Text.Double.fixed d

/-- A duration in nanoseconds as milliseconds. -/
def millisText (nanos : Int) : String := numberText (Float.ofInt nanos / 1000000.0)

/-- The JSON text of a value. -/
def Value.json : Value → String
  | .int n => toString n
  | .text s => jsonString s
  | .flag b => toString b
  | .duration d => millisText d
  | .failure m => jsonString m

/-- A field in JSON. -/
def fieldJson (f : String × Value) : String := jsonString f.1 ++ ":" ++ f.2.json

/-- An entry as a JSON line (without the line break). -/
def Entry.json (e : Entry) (time : Option String) : String :=
  let parts := [fieldJson ("level", .text e.level.name)] ++ e.fields.map fieldJson ++
    (match time with
      | some t => [fieldJson ("time", .text t)]
      | none => []) ++
    (if e.message.isEmpty then [] else [fieldJson ("message", .text e.message)])
  "\x7b" ++ ",".intercalate parts ++ "\x7d"

/-- A text in a terminal colour (0 for none). -/
def colored (code : Nat) (s : String) : String :=
  if code == 0 then s else "\x1b[" ++ toString code ++ "m" ++ s ++ "\x1b[0m"

/-- Whether a text value must be quoted for people. -/
def needsQuote (s : String) : Bool :=
  s.toList.any fun c => c.toNat < 0x20 || c.toNat > 0x7e || c == ' ' || c == '\\' || c == '"'

/-- The text of a value for people. -/
def Value.console : Value → String
  | .text s => if needsQuote s then Text.quote s else s
  | .failure s => if needsQuote s then Text.quote s else s
  | v => v.json

/-- Sorts field names alphabetically. -/
def sortFields (fs : List (String × Value)) : List (String × Value) :=
  fs.mergeSort fun a b => decide (a.1 ≤ b.1)

/-- An entry as a line for people (without the line break). -/
def Entry.console (e : Entry) (time : String) : String :=
  let (badge, color) := e.level.badge
  let message :=
    if e.message.isEmpty then ""
    else if e.level.rank ≥ 1 && e.level.rank ≤ 5 then colored 1 e.message else e.message
  let sorted := sortFields e.fields
  let errors := sorted.filter (·.1 == "error")
  let others := sorted.filter (·.1 != "error")
  let errorText := errors.map fun f => colored 36 (f.1 ++ "=") ++ colored 31 (colored 1 f.2.console)
  let fieldText := others.map fun f => colored 36 (f.1 ++ "=") ++ f.2.console
  let head := [colored 90 time, colored color badge, message].filter (!·.isEmpty)
  " ".intercalate (head ++ errorText ++ fieldText)

/-- Whether a logger at `threshold` writes an entry at `l`. -/
def Level.admits (threshold l : Level) : Bool := l.rank ≥ threshold.rank

end HttpRetry.Log
