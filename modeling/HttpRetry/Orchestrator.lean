import HttpRetry.Flow
import HttpRetry.Limiter.Build
import HttpRetry.Schedule.Build

/-!
Orchestrators and policies: a limiter with a schedule, from which a flow is begun per request.

A policy may lack either part; an orchestrator has both (a missing part is `invalid`, "must not
be nil"). The default policy retries failures worth retrying three times, with exponential
backoff from 200 ms; `never` gives up at once. `Orchestrator.resolve` takes any of the ways a
caller may state retrying: an orchestrator, a policy, a limiter (with the default schedule) or
a number of retries; anything else is refused, naming its type.
-/

namespace HttpRetry

/-- A limiter and a schedule, either of which may be missing. -/
structure Policy where
  limiter : Option Limiter
  schedule : Option Schedule

/-- A limiter and a schedule. -/
structure Orchestrator where
  limiter : Limiter
  schedule : Schedule

/-- The factor of the default backoff: 200 ms. -/
def defaultFactor : Int := 200000000

/-- The default schedule: exponential backoff from 200 ms. -/
def defaultSchedule : Schedule := .exponential defaultFactor

namespace Policy

/-- Retries failures worth retrying `n` times, with the default schedule. -/
def times (n : Int) : Except Refusal Policy := do
  return ⟨some (← Limiter.maxErrorsOf n), some defaultSchedule⟩

/-- Retries failures worth retrying three times, with the default schedule. -/
def default : Policy := ⟨some (.maxErrors 3 Outcome.retryable), some defaultSchedule⟩

/-- Never retries. -/
def never : Policy := ⟨some .dontRetry, some (.constant 0)⟩

/-- A policy of both parts; a missing part is refused outright. -/
def make (l : Option Limiter) (s : Option Schedule) : Except Refusal Policy := do
  return ⟨some (← Limiter.require l), some (← Schedule.require s)⟩

end Policy

/-- Ways of stating how to retry. -/
inductive RetrySetting where
  | orchestrator (o : Option Orchestrator)
  | policy (p : Policy)
  | limiter (l : Limiter)
  | times (n : Int)
  /-- A value of another type, by the name of its type. -/
  | other (typeName : String)

namespace Orchestrator

/-- An orchestrator of both parts; a missing part is invalid. -/
def new (l : Option Limiter) (s : Option Schedule) : Except Refusal Orchestrator :=
  match l, s with
  | none, _ => .error (.invalid ⟨"Orchestrator.limiter", "<nil>", "must not be nil"⟩)
  | _, none => .error (.invalid ⟨"Orchestrator.schedule", "<nil>", "must not be nil"⟩)
  | some l, some s => .ok ⟨l, s⟩

/-- The orchestrator of a policy. -/
def ofPolicy (p : Policy) : Except Refusal Orchestrator := new p.limiter p.schedule

/-- The orchestrator of the default policy. -/
def default : Orchestrator := ⟨.maxErrors 3 Outcome.retryable, defaultSchedule⟩

/-- The orchestrator for a way of stating how to retry. -/
def resolve : RetrySetting → Except Refusal Orchestrator
  | .orchestrator (some o) => .ok o
  | .orchestrator none => unsupported "*retryflow.Orchestrator"
  | .policy p => ofPolicy p
  | .limiter l => new (some l) (some defaultSchedule)
  | .times n => do ofPolicy (← Policy.times n)
  | .other t => unsupported t
where
  unsupported (t : String) : Except Refusal Orchestrator :=
    .error (.invalid ⟨"retry", t, "unsupported retry configuration type"⟩)

/-- The shared state of the orchestrator's flows, with a key source. -/
def shared (o : Orchestrator) (keys : KeySource) : Shared := ⟨o.schedule.generators, keys⟩

/-- A flow for a request; a missing request is refused outright. -/
def begin (o : Orchestrator) : Option Request → Except Refusal Flow
  | some r => .ok { request := r, limiter := o.limiter.begin, schedule := o.schedule.begin }
  | none => .error (.crash "retryflow: nil request")

end Orchestrator

end HttpRetry
