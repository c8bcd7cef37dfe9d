import HttpRetry.Settings.Config
import HttpRetry.Refusal

/-!
Checking a configuration's fields. Each field has a rule (`required`, `oneof`, `gte`, `lte`,
`gt`), and a field that breaks one is reported once, with its path from `Config` and the first
rule it broke, fields visited depth first in declaration order. A configuration that passes is
then checked as a whole: `and` and `or` limiters need both branches, `max_error_responses` a
status, and no other limiter may have branches.
-/

namespace HttpRetry

/-- A field that breaks its rule: its path below `Config`, its name, and the rule's tag. -/
structure FieldFault where
  path : String
  field : String
  tag : String

/-- The line that reports a broken rule. -/
def FieldFault.message (f : FieldFault) : String :=
  "Key: 'Config." ++ f.path ++ "' Error:Field validation for '" ++ f.field ++
    "' failed on the '" ++ f.tag ++ "' tag"

/-- The report of all broken rules, one per line. -/
def FieldFault.report (faults : List FieldFault) : String :=
  "\n".intercalate (faults.map FieldFault.message)

namespace FieldFault

/-- A fault of the field `field` of the part at `path` (empty for `Config` itself). -/
def named (path field tag : String) : FieldFault :=
  ⟨if path.isEmpty then field else path ++ "." ++ field, field, tag⟩

/-- Checks that a text is one of `allowed`. -/
def oneOf (path field : String) (allowed : List String) (s : String) : List FieldFault :=
  if allowed.contains s then [] else [named path field "oneof"]

/-- Checks that a number is at least 0. -/
def nonNegative (path field : String) (n : Int) : List FieldFault :=
  if n ≥ 0 then [] else [named path field "gte"]

/-- Checks that a number is above 0. -/
def positive (path field : String) (n : Int) : List FieldFault :=
  if n > 0 then [] else [named path field "gt"]

/-- Checks each item of a list with `rule`, naming the items by index. -/
def eachItem (path field : String) (rule : Int → Option String) (items : List Int) :
    List FieldFault :=
  ((List.range items.length).zip items).filterMap fun (i, n) =>
    (rule n).map fun tag => named path (field ++ "[" ++ toString i ++ "]") tag

end FieldFault

/-- The limiter types. -/
def limiterKinds : List String := ["and", "or", "dont_retry", "max_errors", "max_error_responses"]

/-- The faults of a limiter at `path` and of its branches. -/
def LimiterSettings.faults (path : String) : LimiterSettings → List FieldFault
  | ⟨kind, max, codes, left, right, _, _⟩ =>
    let kindFaults :=
      if kind.isEmpty then [FieldFault.named path "Type" "required"]
      else FieldFault.oneOf path "Type" limiterKinds kind
    let codeRule := fun (n : Int) =>
      if n < 100 then some "gte" else if n > 599 then some "lte" else none
    let leftFaults := match left with
      | some l => LimiterSettings.faults (path ++ ".Left") l
      | none => []
    let rightFaults := match right with
      | some r => LimiterSettings.faults (path ++ ".Right") r
      | none => []
    kindFaults ++ FieldFault.nonNegative path "Max" max ++
      FieldFault.eachItem path "StatusCodes" codeRule codes ++ leftFaults ++ rightFaults

/-- The faults of a schedule. -/
def ScheduleSettings.faults (s : ScheduleSettings) : List FieldFault :=
  let p := "Schedule"
  FieldFault.oneOf p "Type" ["constant", "exponential"] s.kind ++
    FieldFault.nonNegative p "Delay" s.delay ++
    FieldFault.nonNegative p "Factor" s.factor ++
    FieldFault.nonNegative p "Max" s.max ++
    FieldFault.oneOf p "RetryAfter" ["ignore", "override", "floor"] s.retryAfter ++
    FieldFault.nonNegative p "MaxRetryAfter" s.maxRetryAfter

/-- The faults of the attempt deadlines. -/
def TimeoutSettings.faults (t : TimeoutSettings) : List FieldFault :=
  FieldFault.positive "Timeout" "Usual" t.usual ++
    FieldFault.eachItem "Timeout" "After" (fun n => if n > 0 then none else some "gt") t.after

/-- The faults of logging. -/
def LogSettings.faults (l : LogSettings) : List FieldFault :=
  FieldFault.oneOf "Log" "Level" ["trace", "debug", "info", "warn", "error"] l.level

/-- The faults of a whole configuration, in field order. -/
def Config.faults (c : Config) : List FieldFault :=
  (match c.retries with
    | some n => FieldFault.nonNegative "" "Retries" n
    | none => []) ++
  (match c.limiter with
    | some l => l.faults "Limiter"
    | none => []) ++
  c.schedule.faults ++ c.timeout.faults ++ c.log.faults

/-- Checks the shape of a limiter tree at `path`: see the module comment. -/
def LimiterSettings.checkShape (path : String) : LimiterSettings → Except Refusal Unit
  | ⟨kind, _, codes, left, right, _, _⟩ =>
    if kind == "and" || kind == "or" then
      match left, right with
      | none, _ => .error (.invalid ⟨path ++ ".left", "<nil>", "required for " ++ kind⟩)
      | _, none => .error (.invalid ⟨path ++ ".right", "<nil>", "required for " ++ kind⟩)
      | some l, some r => do
        LimiterSettings.checkShape (path ++ ".left") l
        LimiterSettings.checkShape (path ++ ".right") r
    else if kind == "max_error_responses" && codes.isEmpty then
      .error (.invalid ⟨path ++ ".status_codes", "[]", "must list at least one status code"⟩)
    else if left.isSome || right.isSome then
      .error (.invalid ⟨path, kind, "only and and or take left and right"⟩)
    else .ok ()

end HttpRetry
