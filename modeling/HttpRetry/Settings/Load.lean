import HttpRetry.Settings.Check
import HttpRetry.Settings.Resolve
import HttpRetry.Yaml.Load

/-!
Loading a configuration: settings are laid over the defaults, given their types, checked field by
field, checked as a whole, and finally built into a policy, which must succeed too.

The defaults are exponential backoff from 200 ms, advice ignored, a usual deadline of 5 s, and
logging at `info` for machines. Settings come from a YAML text (whose dotted names stay as they
are) or from a table whose top-level dotted names are split into nested tables.

Each stage has its own failure, with its own message prefix.
-/

namespace HttpRetry

/-- Why a configuration could not be loaded. -/
inductive ConfigFailure where
  /-- The text is not a YAML table. -/
  | unreadable (msg : String)
  /-- Some settings do not fit their fields. -/
  | undecodable (faults : List String)
  /-- Some fields break their rules. -/
  | unchecked (faults : List FieldFault)
  /-- The limiter tree is malformed, or the policy cannot be built. -/
  | refused (r : Refusal)

/-- The message of a failure. -/
def ConfigFailure.message : ConfigFailure → String
  | .unreadable m => "failed to load configuration: " ++ m
  | .undecodable faults =>
    "failed to unmarshal config: decoding failed due to the following error(s):\n\n" ++
      "\n".intercalate faults
  | .unchecked faults => "invalid configuration: " ++ FieldFault.report faults
  | .refused r => "invalid configuration: " ++ r.message

/-- The default settings. -/
def defaultSettings : List (String × Setting) :=
  Setting.nest [("schedule.type", .text "exponential"), ("schedule.factor", .text "200ms"),
    ("schedule.retry_after", .text "ignore"), ("timeout.usual", .text "5s"),
    ("log.level", .text "info"), ("log.pretty", .bool false)]

namespace Config

/-- The configuration of settings laid over the defaults; `clock` is the current instant, at which
the policy is built as a last check, over a clock stopped there. -/
def ofSettings (clock : Int) (entries : List (String × Setting)) : Except ConfigFailure Config := do
  let merged := Setting.overlayEntries entries defaultSettings
  let c ← (Config.decode merged).mapError .undecodable
  let faults := c.faults
  if !faults.isEmpty then throw (.unchecked faults)
  if let some l := c.limiter then
    (l.checkShape "limiter").mapError .refused
  let _ ← (c.policy clock fun _ => clock).mapError .refused
  return c

/-- The configuration of a YAML text (none when there is no text at all). -/
def parse (clock : Int) (text : Option String) : Except ConfigFailure Config := do
  let entries ← match text with
    | some t => (Yaml.loadSettings t).mapError .unreadable
    | none => pure []
  ofSettings clock entries

/-- The configuration of a table whose top-level names may be dotted paths. -/
def ofTable (clock : Int) (entries : List (String × Setting)) : Except ConfigFailure Config :=
  ofSettings clock (Setting.nest entries)

end Config

end HttpRetry
