import HttpRetry.Fault

/-!
Failure kinds: where in an exchange a failure happened. A failure while connecting or reading
is worth another attempt; one while writing may have reached the server, and any other is not
understood, so neither is retried.

`Fault.kind` reads the kind off a failure's chain (`Fault.chain`) in a fixed order of questions:
the caller's context ending wins over everything, then the first network operation if it names
a phase, then a failed lookup, then the first system code if it names a phase, then the end of
the input, then a timeout.
-/

namespace HttpRetry

/-- Where a failure happened. A kind outside the four named ones keeps its number. -/
inductive FailureKind where
  | other
  | connect
  | read
  | write
  | unnamed (code : Int)
  deriving DecidableEq, Repr, Inhabited

namespace FailureKind

/-- The kind with a given number: 0 to 3 are other, connect, read and write. -/
def ofCode : Int → FailureKind
  | 0 => other
  | 1 => connect
  | 2 => read
  | 3 => write
  | n => unnamed n

/-- The kind's name; a kind outside the four is written `Kind(?)`. -/
def name : FailureKind → String
  | other => "Other"
  | connect => "Connect"
  | read => "Read"
  | write => "Write"
  | unnamed _ => "Kind(?)"

/-- A connect or read failure is worth another attempt. -/
def retryable : FailureKind → Bool
  | connect | read => true
  | _ => false

/-- The kind a network operation's name stands for, if it names a phase. -/
def ofOperation? : String → Option FailureKind
  | "dial" => some connect
  | "write" => some write
  | "read" => some read
  | _ => none

/-- The kind a system code stands for, if it names a phase. -/
def ofSysError? : SysError → Option FailureKind
  | .connRefused => some connect
  | .connReset | .timedOut => some read
  | .brokenPipe => some write
  | _ => none

end FailureKind

namespace Fault

/-- The kind of a failure, read off its chain. -/
def kind (f : Fault) : FailureKind :=
  let c := f.chain
  if c.any isContextEnd then .other
  else
    match (c.findSome? netOpName?).bind FailureKind.ofOperation? with
    | some k => k
    | none =>
      if c.any isLookup then .connect
      else
        match (c.findSome? sysCode?).bind FailureKind.ofSysError? with
        | some k => k
        | none =>
          if c.any isEndOfInput then .read
          else if f.isTimeout then .read
          else .other

/-- A failure of a kind worth another attempt. -/
def retryable (f : Fault) : Bool := f.kind.retryable

/-- The kind of a failure that may be absent: no failure is of kind `Other`. -/
def kindOf : Option Fault → FailureKind
  | some f => f.kind
  | none => .other

/-- A failure that may be absent is worth another attempt; no failure is not. -/
def retryableOf (f? : Option Fault) : Bool := (kindOf f?).retryable

/-- A failure that may be absent timed out; no failure did not. -/
def timedOutOf (f? : Option Fault) : Bool := f?.any isTimeout

end Fault

end HttpRetry
