import HttpRetry.Text.Integer
import HttpRetry.Text.Quote

/-!
Command-line flags: a long name, perhaps a one-letter short name, a type (text, whole number or
boolean), a default and a usage line, written `--name value`, `--name=value`, `-s value`,
`-svalue` or `-s=value`. A boolean needs no value, short flags may share one dash, and `--` ends
the flags.
-/

namespace HttpRetry.Cli

/-- The type of a flag's value. -/
inductive FlagType where
  | text
  | whole
  | bool
  deriving DecidableEq, Repr

/-- A flag's definition. -/
structure FlagSpec where
  name : String
  short : Option Char := none
  type : FlagType
  /-- The default, as text. -/
  default : String
  usage : String

/-- A flag's value. -/
inductive FlagValue where
  | text (s : String)
  | whole (n : Int)
  | bool (b : Bool)

/-- The flags set on a command line, in order; a later setting wins. -/
abbrev FlagSettings := List (String × FlagValue)

/-- The last value a command line gives the flag `name`. -/
def FlagSettings.lookup (fs : FlagSettings) (name : String) : Option FlagValue :=
  (fs.reverse.find? (·.1 == name)).map (·.2)

/-- The value a command line gives a flag, or its default. -/
def FlagSettings.text (fs : FlagSettings) (spec : FlagSpec) : String :=
  match fs.lookup spec.name with
  | some (.text s) => s
  | _ => spec.default

/-- The whole number a command line gives a flag, or its default. -/
def FlagSettings.whole (fs : FlagSettings) (spec : FlagSpec) : Int :=
  match fs.lookup spec.name with
  | some (.whole n) => n
  | _ => (Text.parseSignedLiteral true spec.default).toOption.getD 0

/-- Whether a command line sets a boolean flag. -/
def FlagSettings.bool (fs : FlagSettings) (name : String) : Bool :=
  match fs.lookup name with
  | some (.bool b) => b
  | _ => false

/-- The value a boolean flag takes when it is given without one. -/
def FlagSpec.bareValue (f : FlagSpec) : Option String :=
  if f.type == .bool then some "true" else none

/-- The name of a flag as refusals show it. -/
def FlagSpec.shown (f : FlagSpec) : String :=
  match f.short with
  | some c => "-" ++ c.toString ++ ", --" ++ f.name
  | none => "--" ++ f.name

/-- A character as a quoted character literal. -/
def quoteChar (c : Char) : String :=
  if c == '\'' then "'\\''"
  else if c == '"' then "'\"'"
  else
    let q := Text.quote c.toString
    "'" ++ String.ofList ((q.toList.drop 1).dropLast) ++ "'"

/-- The first byte of a character's UTF-8 encoding. -/
def leadByte (c : Char) : Nat := (c.toString.toUTF8.toList.headD 0).toNat

/-- A short flag is one byte of the command line; a refusal shows the first byte of the encoding
of that byte taken as a character. That is the character itself for ASCII, and `Ã` for the lead
byte of any other character. -/
def shortShown (c : Char) : Char := Char.ofNat (leadByte (Char.ofNat (leadByte c)))

/-- Reads a flag's value text. -/
def FlagSpec.read (f : FlagSpec) (value : String) : Except String FlagValue :=
  let refuse := fun (why : String) =>
    Except.error ("invalid argument " ++ Text.quote value ++ " for " ++ Text.quote f.shown ++
      " flag: " ++ why)
  match f.type with
  | .text => .ok (.text value)
  | .whole =>
    match Text.parseSignedLiteral true value with
    | .ok n => .ok (.whole n)
    | .error .malformed => refuse ("strconv.ParseInt: parsing " ++ Text.quote value ++ ": invalid syntax")
    | .error .outOfRange =>
      refuse ("strconv.ParseInt: parsing " ++ Text.quote value ++ ": value out of range")
  | .bool =>
    match value with
    | "1" | "t" | "T" | "TRUE" | "true" | "True" => .ok (.bool true)
    | "0" | "f" | "F" | "FALSE" | "false" | "False" => .ok (.bool false)
    | _ => refuse ("strconv.ParseBool: parsing " ++ Text.quote value ++ ": invalid syntax")

/-- Why reading a command line stopped: help was asked for by an unknown `--help`, or a
refusal. -/
inductive FlagStop where
  | help
  | refused (msg : String)

/-- What reading a command line gives: the flags set and the arguments. -/
structure Parsed where
  settings : FlagSettings := []
  args : List String := []

/-- Reads one group of short flags `shorts` (the text after a dash), with the words after it. -/
def readShorts (flags : List FlagSpec) : Nat → List Char → List String → Parsed →
    Except FlagStop (List String × Parsed)
  | 0, _, rest, p => .ok (rest, p)
  | _, [], rest, p => .ok (rest, p)
  | fuel + 1, c :: more, rest, p =>
    match flags.find? (·.short == some c) with
    | none =>
      if c == 'h' then .error .help
      else .error (.refused ("unknown shorthand flag: " ++ quoteChar (shortShown c) ++
        " in -" ++ String.ofList (c :: more)))
    | some f =>
      let (value, more, rest) : Option String × List Char × List String :=
        match more with
        | '=' :: v :: vs => (some (String.ofList (v :: vs)), [], rest)
        | _ =>
          match f.bareValue with
          | some v => (some v, more, rest)
          | none =>
            if !more.isEmpty then (some (String.ofList more), [], rest)
            else match rest with
              | w :: ws => (some w, [], ws)
              | [] => (none, [], [])
      match value with
      | none => .error (.refused ("flag needs an argument: " ++ quoteChar c ++ " in -" ++
          String.ofList [c]))
      | some v =>
        match f.read v with
        | .ok x => readShorts flags fuel more rest { p with settings := p.settings ++ [(f.name, x)] }
        | .error e => .error (.refused e)

/-- Reads a command line against the flags a command knows. -/
def parseFlags (flags : List FlagSpec) : Nat → List String → Parsed → Except FlagStop Parsed
  | 0, _, p => .ok p
  | _, [], p => .ok p
  | fuel + 1, w :: ws, p =>
    let cs := w.toList
    match cs with
    | '-' :: '-' :: [] => .ok { p with args := p.args ++ ws }
    | '-' :: '-' :: body =>
      match body with
      | '-' :: _ | '=' :: _ => .error (.refused ("bad flag syntax: " ++ w))
      | _ =>
        let name := String.ofList (body.takeWhile (· != '='))
        let inline := match body.dropWhile (· != '=') with
          | '=' :: v => some (String.ofList v)
          | _ => none
        match flags.find? (·.name == name) with
        | none =>
          if name == "help" then .error .help
          else .error (.refused ("unknown flag: --" ++ name))
        | some f =>
          let taken : Option (String × List String) :=
            match inline with
            | some v => some (v, ws)
            | none =>
              match f.bareValue with
              | some v => some (v, ws)
              | none =>
                match ws with
                | v :: rest => some (v, rest)
                | [] => none
          match taken with
          | none => .error (.refused ("flag needs an argument: " ++ w))
          | some (v, rest) =>
            match f.read v with
            | .ok x => parseFlags flags fuel rest { p with settings := p.settings ++ [(f.name, x)] }
            | .error e => .error (.refused e)
    | '-' :: shorts@(_ :: _) =>
      if (String.ofList shorts).startsWith "test." then parseFlags flags fuel ws p
      else
        match readShorts flags (shorts.length + 1) shorts ws p with
        | .ok (rest, p) => parseFlags flags fuel rest p
        | .error e => .error e
    | _ => parseFlags flags fuel ws { p with args := p.args ++ [w] }

/-- Reads a whole command line. -/
def readCommandLine (flags : List FlagSpec) (words : List String) : Except FlagStop Parsed :=
  parseFlags flags (words.length + 1) words {}

end HttpRetry.Cli
