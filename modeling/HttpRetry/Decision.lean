/-!
Decisions a limiter takes on an outcome: give up, retry, or pass (no opinion: the outcome is not
the limiter's concern). Two limiters combine their decisions in one of two ways:

* `both` (all must agree): giving up wins, then retrying, else pass;
* `either` (one suffices): retrying wins, then giving up, else pass.
-/

namespace HttpRetry

/-- A limiter's answer to one outcome. -/
inductive Decision where
  | giveUp
  | retry
  | pass
  deriving DecidableEq, Repr, Inhabited

namespace Decision

/-- The decision's name. -/
def name : Decision → String
  | giveUp => "GiveUp"
  | retry => "Retry"
  | pass => "Pass"

/-- The decision with a number: 0 to 2 are give up, retry and pass. -/
def ofCode? : Int → Option Decision
  | 0 => some giveUp
  | 1 => some retry
  | 2 => some pass
  | _ => none

/-- The name of the decision with a number, or `Decision(?)`. -/
def nameOfCode (n : Int) : String := ((ofCode? n).map name).getD "Decision(?)"

/-- Both must agree to retry: giving up wins, then retrying. -/
def both : Decision → Decision → Decision
  | giveUp, _ | _, giveUp => giveUp
  | retry, _ | _, retry => retry
  | pass, pass => pass

/-- One suffices to retry: retrying wins, then giving up. -/
def either : Decision → Decision → Decision
  | retry, _ | _, retry => retry
  | giveUp, _ | _, giveUp => giveUp
  | pass, pass => pass

end Decision

end HttpRetry
