/-!
Refusals: why the library declines to build a value or to go on.

A setting out of its range is `invalid`, with the setting's name, its value as text and the
reason; its message is `retryflow/retry: invalid <field> <value>: <reason>`. A misuse that the
library refuses outright (a missing part, an impossible request) is a `crash` with a message.
-/

namespace HttpRetry

/-- A setting out of its range. -/
structure Invalid where
  field : String
  value : String
  reason : String
  deriving Inhabited, Repr

/-- The message of an out-of-range setting. -/
def Invalid.message (e : Invalid) : String :=
  "retryflow/retry: invalid " ++ e.field ++ " " ++ e.value ++ ": " ++ e.reason

/-- Why a value could not be built or an operation could not go on. -/
inductive Refusal where
  | invalid (e : Invalid)
  | crash (message : String)
  deriving Inhabited, Repr

/-- The message of a refusal. -/
def Refusal.message : Refusal → String
  | .invalid e => e.message
  | .crash m => m

/-- Refuses a negative number for a setting. -/
def requireNonNegative (field : String) (n : Int) : Except Refusal Unit :=
  if n < 0 then .error (.invalid ⟨field, toString n, "must not be negative"⟩) else .ok ()

/-- A setting that is not negative passes its check. -/
theorem requireNonNegative_of_nonneg {field : String} {n : Int} (h : 0 ≤ n) :
    requireNonNegative field n = .ok () := by
  simp [requireNonNegative, Int.not_lt.2 h]

end HttpRetry
