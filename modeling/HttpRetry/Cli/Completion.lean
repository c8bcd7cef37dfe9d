import HttpRetry.Cli.Command

/-!
Answering the completion requests of shell scripts (`__complete` with the words typed so far).
The answer lists candidates, one a line, with a tab and a description unless descriptions are
off, and a last line `:N` (0 lets the shell offer files too, 4 not). The words before the last
must name a command; a value being typed, `--help` or a bad flag gives nothing; a word starting
with a dash gives the flags not given yet; otherwise the sub-commands and then what the command
offers for its arguments. A `--` ends the flags.
-/

namespace HttpRetry.Cli

/-- What a completion answer tells the shell besides its candidates. -/
inductive Directive where
  /-- The shell may offer files as well. -/
  | default
  /-- The shell offers no files. -/
  | noFiles
  deriving DecidableEq, Repr

namespace Directive

/-- The number a directive is written as. -/
def code : Directive → Nat
  | .default => 0
  | .noFiles => 4

/-- The name of a directive. -/
def name : Directive → String
  | .default => "ShellCompDirectiveDefault"
  | .noFiles => "ShellCompDirectiveNoFileComp"

end Directive

/-- A candidate: a word and what it is. -/
structure Candidate where
  word : String
  description : String

/-- A completion answer: the candidates in order and the directive. -/
structure Completions where
  candidates : List Candidate := []
  directive : Directive := .default

/-- A candidate as its line shows it: the word with a tab and its description when descriptions
are on, cut at the first line break and without white space at either end. -/
def Candidate.line (descriptions : Bool) (c : Candidate) : String :=
  let text := if descriptions then c.word ++ "\t" ++ c.description else c.word
  (text.splitOn "\n").headD "" |>.trimAscii.toString

/-- The whole answer: a line a candidate, then the directive's line. -/
def Completions.text (descriptions : Bool) (c : Completions) : String :=
  String.join (c.candidates.map fun x => x.line descriptions ++ "\n") ++
    ":" ++ toString c.directive.code ++ "\n"

/-- Whether a word is a flag with a name: `--` and at least one more character, or a dash and a
character other than a dash. -/
def isFlagWord (w : String) : Bool :=
  match w.toList with
  | '-' :: '-' :: _ :: _ => true
  | '-' :: c :: _ => c != '-'
  | _ => false

/-- The flag called `name` among `flags`: by its short name when `name` is one character. -/
def findFlag (flags : List FlagSpec) (name : String) : Option FlagSpec :=
  match name.toList with
  | [c] => flags.find? (·.short == some c)
  | _ => flags.find? (·.name == name)

/-- How the last word relates to a flag: the flag whose value is being typed (if any), the words
before the last with that flag's own word dropped, the text being completed, and whether the
flag named is not known. -/
structure FlagValueCheck where
  flag : Option FlagSpec
  words : List String
  typed : String
  unknown : Bool := false

/-- Finds the flag whose value the last word `last` completes, if any, after the words `words`.
A last word `--name=…` or `-s=…` names the flag itself (a group of short flags names its last one)
and completes the text after `=`; another last word starting with a dash is a flag name being
typed. Otherwise a flag word before it that has no `=` names the flag, and a boolean flag there
takes no value, so nothing is being completed for it. -/
def flagValueCheck (flags : List FlagSpec) (words : List String) (last : String) :
    FlagValueCheck :=
  let cs := last.toList
  let (named, typed, withEqual) : String × String × Bool :=
    if cs.head? == some '-' && cs.contains '=' then
      let before := cs.takeWhile (· != '=')
      let after := (cs.dropWhile (· != '=')).drop 1
      let name := match before with
        | '-' :: '-' :: rest => String.ofList rest
        | _ => String.ofList (before.drop (before.length - 1))
      (name, String.ofList after, true)
    else ("", last, false)
  if cs.head? == some '-' && !withEqual then { flag := none, words, typed := last }
  else
    let (named, trimmed) :=
      if !named.isEmpty then (named, words)
      else
        match words.getLast? with
        | some prev =>
          if isFlagWord prev && !prev.contains '=' then
            let name := match prev.toList with
              | '-' :: '-' :: rest => String.ofList rest
              | ps => String.ofList (ps.drop (ps.length - 1))
            (name, words.dropLast)
          else ("", words)
        | none => ("", words)
    if named.isEmpty then { flag := none, words := trimmed, typed }
    else
      match findFlag flags named with
      | none => { flag := none, words, typed := last, unknown := true }
      | some f =>
        if !withEqual && f.bareValue.isSome then { flag := none, words, typed }
        else { flag := some f, words := trimmed, typed }

/-- The flag-name candidates for `typed`: the flags not given yet whose `--name` or `-s` starts
with it, the inherited ones first, each group by name. -/
def flagCandidates (chain : Chain) (given : FlagSettings) (typed : String) : List Candidate :=
  let byName := fun (fs : List FlagSpec) => fs.mergeSort fun a b => decide (a.name ≤ b.name)
  let own := chain.last.flags ++ chain.last.passedDown ++ [chain.helpFlag]
  let offered := fun (f : FlagSpec) =>
    if given.any (·.1 == f.name) then []
    else
      (if ("--" ++ f.name).startsWith typed then [⟨"--" ++ f.name, f.usage⟩] else []) ++
      (match f.short with
        | some c => if ("-" ++ c.toString).startsWith typed then [⟨"-" ++ c.toString, f.usage⟩] else []
        | none => [])
  (byName chain.inherited ++ byName own).flatMap offered

/-- The listed sub-commands of a command (those available, and `help`), by name. -/
def listedChildren (c : Command) : List Command :=
  (c.children.mergeSort fun a b => decide (a.name ≤ b.name)).filter
    fun d => d.available || (d.name == "help" && !d.hidden)

/-- The listed sub-commands whose names start with `typed`, as candidates. -/
def commandCandidates (c : Command) (typed : String) : List Candidate :=
  ((listedChildren c).filter (·.name.startsWith typed)).map fun d => ⟨d.name, d.short⟩

/-- What the command of `chain` offers for its arguments `args`, added to `found`. -/
def argCandidates (root : Command) (chain : Chain) (args : List String) (typed : String)
    (found : Completions) : Completions :=
  match chain.last.completesArgs with
  | .files => found
  | .nothing => { found with directive := .noFiles }
  | .commandNames =>
    let (named, rest) := findCommand root args
    let more := match checkTopWords named rest with
      | .ok () => commandCandidates named.last typed
      | .error _ => []
    { candidates := found.candidates ++ more, directive := .noFiles }

/-- The answer for a command that takes every word as it is: flag names for a last word that
starts with a dash (nothing given yet), else nothing. -/
def rawCompletions (chain : Chain) (typed : String) : Completions :=
  if typed.startsWith "-" && !typed.contains '=' then
    { candidates := flagCandidates chain [] typed, directive := .noFiles }
  else {}

/-- The answer to a completion request for the words `words` (see the module comment); the last
word is the one being completed. -/
def complete (root : Command) (words : List String) : Completions :=
  let last := words.getLastD ""
  let (chain, rest) := findCommand root words.dropLast
  match checkTopWords chain rest with
  | .error _ => {}
  | .ok () =>
    if !chain.last.readsFlags then rawCompletions chain last
    else
      let flags := chain.knownFlags true
      let check := flagValueCheck flags rest last
      match readCommandLine flags check.words with
      | .error _ => {}
      | .ok parsed =>
        let flagsOpen := match readCommandLine flags (check.words ++ ["--"]) with
          | .ok p => p.args.length ≤ parsed.args.length
          | .error _ => true
        let typed := check.typed
        if check.unknown && flagsOpen then {}
        else if parsed.settings.bool "help" then { directive := .noFiles }
        else if check.flag.isNone && typed.startsWith "-" && !typed.contains '=' && flagsOpen then
          { candidates := flagCandidates chain parsed.settings typed, directive := .noFiles }
        else if check.flag.isSome && flagsOpen then {}
        else
          let ownGiven := parsed.settings.any fun s => chain.last.flags.any (·.name == s.1)
          let found : Completions :=
            if check.flag.isNone && parsed.args.isEmpty && !ownGiven then
              { candidates := commandCandidates chain.last typed,
                directive := if (listedChildren chain.last).isEmpty then .default else .noFiles }
            else {}
          argCandidates root chain parsed.args typed found

end HttpRetry.Cli
