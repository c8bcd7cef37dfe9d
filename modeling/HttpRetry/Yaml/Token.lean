/-!
YAML tokens and the problems met while reading a document. A `Problem` fails one of three stages
(reading, scanning, parsing) and names the line of its context or its own, if not the first.
-/

namespace HttpRetry.Yaml

/-- A position in the text. -/
structure Mark where
  index : Nat := 0
  line : Nat := 0
  column : Nat := 0
  deriving Inhabited, Repr

/-- How a scalar was written. -/
inductive ScalarStyle where
  | plain
  | singleQuoted
  | doubleQuoted
  | literal
  | folded
  deriving DecidableEq, Repr, Inhabited

/-- The kinds of token. -/
inductive TokenKind where
  | streamStart
  | streamEnd
  | versionDirective
  | tagDirective
  | documentStart
  | documentEnd
  | blockSequenceStart
  | blockMappingStart
  | blockEnd
  | flowSequenceStart
  | flowSequenceEnd
  | flowMappingStart
  | flowMappingEnd
  | blockEntry
  | flowEntry
  | key
  | value
  | alias
  | anchor
  | tag
  | scalar
  deriving DecidableEq, Repr, Inhabited

/-- A token: its kind, where it starts and ends, and its text. The text is a scalar's value, an
anchor's or alias's name, a tag's handle or a directive's handle; `suffix` is a tag's suffix or
a tag directive's prefix; `major` and `minor` are a version directive's numbers. -/
structure Token where
  kind : TokenKind
  start : Mark
  stop : Mark
  text : String := ""
  suffix : String := ""
  style : ScalarStyle := .plain
  major : Nat := 0
  minor : Nat := 0
  deriving Inhabited

/-- The stage at which a document was refused. -/
inductive Stage where
  | reading
  | scanning
  | parsing
  deriving DecidableEq, Repr

/-- Why a document was refused, and where. -/
structure Problem where
  stage : Stage
  problem : String
  context : Mark := {}
  mark : Mark := {}

/-- The text of a problem, with its line as the module comment says. -/
def Problem.message (p : Problem) : String :=
  let bump := if p.stage == .scanning then 1 else 0
  let line :=
    if p.context.line != 0 then p.context.line + bump
    else if p.mark.line != 0 then p.mark.line + bump
    else 0
  "yaml: " ++ (if line != 0 then "line " ++ toString line ++ ": " else "") ++ p.problem

end HttpRetry.Yaml
