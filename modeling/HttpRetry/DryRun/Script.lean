import HttpRetry.Outcome
import HttpRetry.Text.Quote
import HttpRetry.Text.Decimal
import HttpRetry.Text.Space

/-!
Scripted outcomes for a dry run: the text a user writes for what one attempt meets.

A script entry, trimmed of white space, is either the name of a failure kind (`connect`, `read`,
`write` or `other`, in any case), which stands for a failure of that kind, or a status code from
100 to 599, which stands for a response. A status may be followed by `:` and a whole number of
seconds, which the response carries as its `Retry-After` header. Numbers are decimal words with
an optional sign.
-/

namespace HttpRetry.DryRun

/-- Why a script entry was refused. -/
inductive ScriptError where
  /-- The entry is neither a kind name nor a status code. -/
  | notAnOutcome (entry : String)
  /-- The text after the colon is not a non-negative number. -/
  | badAdvice (entry : String)
  /-- The script has no entries. -/
  | empty
  deriving DecidableEq, Repr

/-- The text of a refusal. -/
def ScriptError.message : ScriptError → String
  | .notAnOutcome s =>
    "invalid outcome " ++ Text.quote s ++
      ": want connect, read, write, other, or an HTTP status code"
  | .badAdvice s =>
    "invalid outcome " ++ Text.quote s ++ ": Retry-After must be a non-negative number of seconds"
  | .empty => "empty outcome script"

/-- A character in lower case, as far as it matters for kind names: ASCII capitals, and the two
capitals outside ASCII whose lower case is an ASCII letter (dotted capital I and the Kelvin
sign). -/
def lowerLetter (c : Char) : Char :=
  if c == 'İ' then 'i' else if c == 'K' then 'k' else c.toLower

/-- The text in lower case, as far as it matters for kind names. -/
def lowerCase (s : String) : String := String.ofList (s.toList.map lowerLetter)

/-- The failure kinds a script may name, each under its name in lower case. -/
def kindNames : List (String × FailureKind) :=
  [("connect", .connect), ("read", .read), ("write", .write), ("other", .other)]

/-- The kind a text names in any case, with its name in lower case. -/
def kindNamed (s : String) : Option (String × FailureKind) :=
  kindNames.find? (·.1 == lowerCase s)

/-- The text before the first `sep` and, when `sep` occurs, the text after it. -/
def cut (sep : Char) (s : String) : String × Option String :=
  match s.toList.span (· != sep) with
  | (before, _ :: after) => (String.ofList before, some (String.ofList after))
  | (before, []) => (String.ofList before, none)

/-- The outcome a script entry stands for. -/
def parseOutcome (entry : String) : Except ScriptError Outcome :=
  let s := Text.trimSpace entry
  match kindNamed s with
  | some (name, k) => .ok (Outcome.transport k (some (.text ("simulated " ++ name ++ " failure"))))
  | none =>
    let (code, advice) := cut ':' s
    match Text.parseSigned? code with
    | some status =>
      if status < 100 || status > 599 then .error (.notAnOutcome s)
      else
        match advice with
        | none => .ok (Outcome.ofStatus status none)
        | some a =>
          match Text.parseSigned? a with
          | some n =>
            if n < 0 then .error (.badAdvice s)
            else .ok (Outcome.ofStatus status (some (({} : Header).putRaw "Retry-After" [a])))
          | none => .error (.badAdvice s)
    | none => .error (.notAnOutcome s)

/-- The outcomes of a whole script, refusing an empty one and stopping at the first bad entry. -/
def parseOutcomes (entries : List String) : Except ScriptError (List Outcome) :=
  if entries.isEmpty then .error .empty else entries.mapM parseOutcome

end HttpRetry.DryRun
