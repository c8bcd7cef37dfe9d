import HttpRetry.Refusal

/-!
The events of an execution, in the order they can happen: before the execution starts, before
each attempt, after an attempt that timed out, after each attempt, before each wait, after the
execution timed out, and after it ends.
-/

namespace HttpRetry

/-- A point in an execution at which handlers run. -/
inductive EventKind where
  | beforeExecutionStart
  | beforeAttempt
  | afterAttemptTimeout
  | afterAttempt
  | beforeWait
  | afterExecutionTimeout
  | afterExecutionEnd
  deriving DecidableEq, Repr, Inhabited

namespace EventKind

/-- Every event, in order. -/
def all : List EventKind :=
  [beforeExecutionStart, beforeAttempt, afterAttemptTimeout, afterAttempt, beforeWait,
   afterExecutionTimeout, afterExecutionEnd]

/-- The event's name. -/
def name : EventKind → String
  | beforeExecutionStart => "BeforeExecutionStart"
  | beforeAttempt => "BeforeAttempt"
  | afterAttemptTimeout => "AfterAttemptTimeout"
  | afterAttempt => "AfterAttempt"
  | beforeWait => "BeforeWait"
  | afterExecutionTimeout => "AfterExecutionTimeout"
  | afterExecutionEnd => "AfterExecutionEnd"

/-- The name of the event with a number (its place in `all`); a number outside the list has
no name and is refused, as an index out of range. -/
def nameOfCode (n : Int) : Except Refusal String :=
  if n < 0 then .error (.crash ("runtime error: index out of range [" ++ toString n ++ "]"))
  else
    match all[n.toNat]? with
    | some e => .ok e.name
    | none => .error (.crash ("runtime error: index out of range [" ++ toString n ++
        "] with length " ++ toString all.length))

end EventKind

end HttpRetry
