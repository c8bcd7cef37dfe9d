import HttpRetry.Cli.Command
import HttpRetry.Cli.CompletionScript
import HttpRetry.Cli.Completion
import HttpRetry.Settings.Load
import HttpRetry.DryRun.Simulate
import HttpRetry.DryRun.Script
import HttpRetry.Log.Entry
import HttpRetry.Yaml.Emit
import HttpRetry.Text.Table
import HttpRetry.Time.Duration

/-!
The `retryplan` command line. `simulate OUTCOME...` drives one flow of the configured orchestrator
against scripted outcomes and prints a table or YAML report; `schedule` prints the first delays of
the configured schedule. A run never touches the world: the files, the clock and the time text of
log lines are given to it, and it returns what it prints and why it failed.
-/

namespace HttpRetry.Cli

open HttpRetry.DryRun

/-- The name of the program. -/
def programName : String := "retryplan"

/-- `-c`: where the configuration is. -/
def configFlag : FlagSpec :=
  { name := "config", short := some 'c', type := .text, default := "",
    usage := "Path to YAML retry configuration (default: built-in defaults)" }

/-- `-o`: how to print results. -/
def outputFlag : FlagSpec :=
  { name := "output", short := some 'o', type := .text, default := "text",
    usage := "Output format: text or yaml" }

/-- `--log-level`: the level to log at, overriding the configuration. -/
def logLevelFlag : FlagSpec :=
  { name := "log-level", type := .text, default := "",
    usage := "Override the configured log level" }

/-- `-X`: the method of the simulated request. -/
def methodFlag : FlagSpec :=
  { name := "method", short := some 'X', type := .text, default := "GET",
    usage := "HTTP method of the simulated request" }

/-- `-n`: how many delays to list. -/
def countFlag : FlagSpec :=
  { name := "count", short := some 'n', type := .whole, default := "8",
    usage := "Number of delays to list" }

/-- `--no-descriptions` of the completion scripts. -/
def noDescriptionsFlag : FlagSpec :=
  { name := "no-descriptions", type := .bool, default := "false",
    usage := "disable completion descriptions" }

/-- The `simulate` command. -/
def simulateCommand : Command :=
  { name := "simulate", use := "simulate OUTCOME...",
    short := "Drive one retry flow against scripted attempt outcomes",
    long := "Drive one retry flow against scripted attempt outcomes.\n\n" ++
      "Each OUTCOME is a transport failure kind (connect, read, write, other),\n" ++
      "an HTTP status code such as 503, or a status code with a Retry-After\n" ++
      "value in seconds such as 429:5. The last outcome repeats if the flow\n" ++
      "keeps retrying after the script runs out.",
    flags := [methodFlag], args := .atLeast 1 }

/-- The `schedule` command. -/
def scheduleCommand : Command :=
  { name := "schedule", use := "schedule",
    short := "List the delays produced by the configured schedule",
    flags := [countFlag], args := .none }

/-- The `help` command. -/
def helpCommand : Command :=
  { name := "help", use := "help [command]", short := "Help about any command",
    completesArgs := .commandNames,
    long := "Help provides help for any command in the application.\n" ++
      "Simply type " ++ programName ++ " help [path to command] for full details." }

/-- How to load the completions of a shell for every new session. -/
def everySession (shell : String) : String :=
  let run := programName ++ " completion " ++ shell
  match shell with
  | "bash" =>
    "#### Linux:\n\n\t" ++ run ++ " > /etc/bash_completion.d/" ++ programName ++
      "\n\n#### macOS:\n\n\t" ++ run ++ " > $(brew --prefix)/etc/bash_completion.d/" ++
      programName ++ "\n\n"
  | "zsh" =>
    "#### Linux:\n\n\t" ++ run ++ " > \"$\x7bfpath[1]\x7d/_" ++ programName ++
      "\"\n\n#### macOS:\n\n\t" ++ run ++ " > $(brew --prefix)/share/zsh/site-functions/_" ++
      programName ++ "\n\n"
  | _ => "\t" ++ run ++ " > ~/.config/fish/completions/" ++ programName ++ ".fish\n\n"

/-- The long description of the completion command of a shell. -/
def shellHelp (shell : String) : String :=
  let run := programName ++ " completion " ++ shell
  let current := "To load completions in your current shell session:\n\n"
  let every := "To load completions for every new session, execute once:\n\n"
  let restart := "You will need to start a new shell for this setup to take effect.\n"
  match shell with
  | "bash" =>
    "Generate the autocompletion script for the bash shell.\n\n" ++
      "This script depends on the 'bash-completion' package.\n" ++
      "If it is not installed already, you can install it via your OS's package manager.\n\n" ++
      current ++ "\tsource <(" ++ run ++ ")\n\n" ++ every ++ everySession shell ++ restart
  | "zsh" =>
    "Generate the autocompletion script for the zsh shell.\n\n" ++
      "If shell completion is not already enabled in your environment you will need\n" ++
      "to enable it.  You can execute the following once:\n\n" ++
      "\techo \"autoload -U compinit; compinit\" >> ~/.zshrc\n\n" ++
      current ++ "\tsource <(" ++ run ++ ")\n\n" ++ every ++ everySession shell ++ restart
  | "fish" =>
    "Generate the autocompletion script for the fish shell.\n\n" ++
      current ++ "\t" ++ run ++ " | source\n\n" ++ every ++ everySession shell ++ restart
  | _ =>
    "Generate the autocompletion script for powershell.\n\n" ++
      current ++ "\t" ++ run ++ " | Out-String | Invoke-Expression\n\n" ++
      "To load completions for every new session, add the output of the above command\n" ++
      "to your powershell profile.\n"

/-- The completion command of a shell. -/
def shellCommand (shell : String) : Command :=
  { name := shell, use := shell,
    short := "Generate the autocompletion script for " ++ shell,
    long := shellHelp shell, flags := [noDescriptionsFlag], args := .none,
    flagsInUseLine := false, completesArgs := .nothing }

/-- The `completion` command. -/
def completionCommand : Command :=
  { name := "completion", use := "completion",
    short := "Generate the autocompletion script for the specified shell",
    long := "Generate the autocompletion script for " ++ programName ++
      " for the specified shell.\n" ++
      "See each sub-command's help for details on how to use the generated script.\n",
    runnable := false, args := .none, completesArgs := .nothing,
    children := ["bash", "zsh", "fish", "powershell"].map shellCommand }

/-- The whole command tree. -/
def planCommand : Command :=
  { name := programName, use := programName,
    short := "retryplan - dry-run retry configurations",
    long := "retryplan loads a retry configuration and shows what it would do,\n" ++
      "without sending any requests or waiting out any delays.\n\n" ++
      "Run 'retryplan simulate 503 503 200' to see the decision made after\n" ++
      "each scripted attempt outcome. Run 'retryplan schedule' to list the\n" ++
      "delays the configured schedule produces.",
    passedDown := [configFlag, outputFlag, logLevelFlag], runnable := false,
    children := [simulateCommand, scheduleCommand, helpCommand, completionCommand] }

/-- What a run sees of the world around it. -/
structure Surroundings where
  /-- The files it can read, by path. -/
  files : List (String × String)
  /-- The current instant, in nanoseconds since the epoch, which a run reads throughout. -/
  clock : Int
  /-- The current time as log lines write it. -/
  timeText : String

/-- Why a run failed. -/
inductive Failure where
  /-- A refusal with a message of its own. -/
  | plain (msg : String)
  /-- The configuration could not be loaded. -/
  | config (f : ConfigFailure)
  /-- The configuration could not be built. -/
  | refused (r : Refusal)

/-- The message of a failure. -/
def Failure.message : Failure → String
  | .plain m => m
  | .config f => f.message
  | .refused r => r.message

/-- What a run printed, what it logged (one entry a line), and how it failed. -/
structure Run where
  out : String := ""
  log : List String := []
  failure : Option Failure := none

/-- A logger: entries from `threshold` up, written for people or for machines. -/
structure Logger where
  threshold : Log.Level
  pretty : Bool
  timeText : String

/-- The lines a logger writes for some entries. -/
def Logger.lines (lg : Logger) (entries : List Log.Entry) : List String :=
  (entries.filter fun e => lg.threshold.admits e.level).map fun e =>
    if lg.pretty then e.console lg.timeText else e.json (some lg.timeText)

/-- The configuration a run uses, with its level overridden by `--log-level` when given. -/
def loadConfig (env : Surroundings) (settings : FlagSettings) : Except Failure Config := do
  let path := settings.text configFlag
  let text ← if path.isEmpty then pure none
    else match env.files.lookup path with
      | some t => pure (some t)
      | none => throw (.config (.unreadable ("open " ++ path ++ ": no such file or directory")))
  let c ← (Config.parse env.clock text).mapError .config
  let level := settings.text logLevelFlag
  return if level.isEmpty then c else { c with log := { c.log with level := level } }

/-- The logger of a configuration. -/
def loggerOf (env : Surroundings) (c : Config) : Logger :=
  ⟨(Log.Level.parse? c.log.level).getD .info, c.log.pretty, env.timeText⟩

/-- The log entry of one simulated attempt. -/
def attemptEntry (a : AttemptReport) : Log.Entry :=
  ⟨.debug, [("attempt", .int a.attempt), ("outcome", .text a.outcome),
    ("decision", .text a.decision), ("delay", .duration a.delay)], "attempt simulated"⟩

/-- The log entry that ends a simulation. -/
def summaryEntry (r : Report) : Log.Entry :=
  ⟨.info, [("attempts", .int r.attempts.length), ("total_delay", .duration r.totalDelay)],
    "simulation complete"⟩

/-- The table of a dry run's attempts and its last line. -/
def reportText (r : Report) : String :=
  let head := ["ATTEMPT", "ELAPSED", "OUTCOME", "DECISION", "DELAY"]
  let rows := r.attempts.map fun a =>
    [toString a.attempt, Time.durationText a.elapsed, a.outcome, a.decision,
      if a.decision == "Retry" then Time.durationText a.delay else "-"]
  String.join ((Text.table 2 (head :: rows)).map (· ++ "\n")) ++
    "final: " ++ r.final ++ " after " ++ toString r.attempts.length ++ " attempt(s), " ++
    Time.durationText r.totalDelay ++ " total delay\n"

/-- A dry run's report as a YAML document. -/
def reportDoc (r : Report) : Yaml.Doc :=
  let attempt := fun (a : AttemptReport) => Yaml.Doc.map (
    [("attempt", .number (toString a.attempt)), ("outcome", .text a.outcome),
      ("decision", .text a.decision)] ++
    (if a.delay == 0 then [] else [("delay", .text (Time.durationText a.delay))]) ++
    [("elapsed", .text (Time.durationText a.elapsed))] ++
    (if a.headers.isEmpty then [] else [("headers", .list (a.headers.map .text))]))
  .map [("method", .text r.method), ("attempts", .list (r.attempts.map attempt)),
    ("final", .text r.final), ("total_delay", .text (Time.durationText r.totalDelay))]

/-- Prints a result as text or as YAML, as `-o` asks. -/
def render (settings : FlagSettings) (text : String) (doc : Yaml.Doc) : Except Failure String :=
  match settings.text outputFlag with
  | "text" => .ok text
  | "yaml" => .ok doc.render
  | other => .error (.plain ("unknown output format " ++ Text.quote other ++ ": want text or yaml"))

/-- Runs `simulate`. -/
def runSimulate (env : Surroundings) (settings : FlagSettings) (args : List String) : Run :=
  match loadConfig env settings with
  | .error f => { failure := some f }
  | .ok c =>
    let logger := loggerOf env c
    match parseOutcomes args with
    | .error e => { failure := some (.plain e.message) }
    | .ok script =>
      match c.orchestrator env.clock (fun _ => env.clock) with
      | .error r => { failure := some (.refused r) }
      | .ok o =>
        let d := simulate o (settings.text methodFlag) script .counter
        let steps := logger.lines ((d.report.map (·.attempts.map attemptEntry)).getD [])
        match d.failure, d.report with
        | some f, _ => { log := steps, failure := some (.plain f.message) }
        | none, none => { log := steps }
        | none, some r =>
          let log := steps ++ logger.lines [summaryEntry r]
          match render settings (reportText r) (reportDoc r) with
          | .ok out => { out := out, log := log }
          | .error f => { log := log, failure := some f }

/-- Runs `schedule`. -/
def runSchedule (env : Surroundings) (settings : FlagSettings) : Run :=
  let count := settings.whole countFlag
  if count < 1 then { failure := some (.plain ("--count must be positive, got " ++ toString count)) }
  else
    match loadConfig env settings with
    | .error f => { failure := some f }
    | .ok c =>
      match c.schedule.build env.clock (fun _ => env.clock) with
      | .error r => { failure := some (.refused r) }
      | .ok s =>
        let delays := s.firstDelays count.toNat
        let text := String.join ((List.range delays.length).zip delays |>.map fun (i, d) =>
          "retry " ++ toString (i + 1) ++ "\t" ++ Time.durationText d ++ "\n")
        let doc := Yaml.Doc.map [("delays", .list (delays.map fun d => .text (Time.durationText d)))]
        match render settings text doc with
        | .ok out => { out := out }
        | .error f => { failure := some f }

/-- A word as help topics show it: in backquotes when it can be, else quoted. -/
def topicText (w : String) : String :=
  let plain := w.toList.all fun c =>
    !(c.toNat < 0x20 && c != '\t') && c != '`' && c != '\x7f' && c != '\uFEFF'
  if plain then "`" ++ w ++ "`" else Text.quote w

/-- Runs `help`: the help of the command the words name. -/
def runHelp (args : List String) : Run :=
  let (chain, rest) := findCommand planCommand args
  match checkTopWords chain rest with
  | .ok () => { out := helpText chain }
  | .error _ =>
    { out := "Unknown help topic [" ++ " ".intercalate (args.map topicText) ++ "]\n" ++
        usageText [planCommand] false }

/-- The hidden command that answers the completion requests of shell scripts; called by its
other name, it answers without descriptions. It takes every word as it is. -/
def requestCommand : Command :=
  { name := "__complete", aliases := ["__completeNoDesc"], use := "__complete [command-line]",
    short := "Request shell completion choices for the specified command-line",
    hidden := true, readsFlags := false, args := .atLeast 1, flagsInUseLine := false }

/-- The command tree while a completion request is answered: the hidden command joins it. -/
def requestTree : Command :=
  { planCommand with children := planCommand.children ++ [requestCommand] }

/-- Answers a completion request for the words after the hidden command; the answer goes out,
and its directive to the log. -/
def runCompletion (descriptions : Bool) (chain : Chain) (words : List String) : Run :=
  match checkArgs chain words with
  | .error e => { failure := some (.plain e) }
  | .ok () =>
    let c := complete requestTree words
    { out := c.text descriptions, log := ["Completion ended with directive: " ++ c.directive.name] }

/-- The configuration file a command line would read, if it runs a command. -/
def configPathOf (words : List String) : Option String :=
  match dispatch planCommand words with
  | .run _ settings _ =>
    let path := settings.text configFlag
    if path.isEmpty then none else some path
  | _ => none

/-- Runs a command line. -/
def runPlan (env : Surroundings) (words : List String) : Run :=
  let (chain, rest) := findCommand requestTree words
  if chain.last.name == requestCommand.name then
    let flags := Chain.knownFlags [planCommand] false
    let calledAs := (commandWords flags (words.length + 1) words).headD ""
    runCompletion (calledAs == requestCommand.name) chain rest
  else
    match dispatch planCommand words with
    | .show text => { out := text }
    | .refuse msg => { failure := some (.plain msg) }
    | .run chain settings args =>
      match chain.last.name with
      | "simulate" => runSimulate env settings args
      | "schedule" => runSchedule env settings
      | "help" => runHelp args
      | name =>
        match Shell.ofName? name with
        | some shell =>
          { out := completionScript shell programName (!settings.bool noDescriptionsFlag.name) }
        | none => {}

end HttpRetry.Cli
