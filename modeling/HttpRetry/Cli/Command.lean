import HttpRetry.Cli.Flag

/-!
Command trees. A command line names a command by its first words that are neither flags nor flag
values, walking down the tree; the command then reads its flags (its own, those passed down, and
`-h`/`--help`), shows help when asked or when it cannot run by itself, checks its arguments, and
runs.
-/

namespace HttpRetry.Cli

/-- How a command checks its arguments. -/
inductive ArgRule where
  /-- Anything goes, except that the top command takes no arguments when it has sub-commands. -/
  | unchecked
  /-- No arguments: an argument is taken for an unknown sub-command. -/
  | none
  | atLeast (n : Nat)
  deriving DecidableEq, Repr

/-- What a command offers when the shell completes one of its arguments. -/
inductive ArgCompletion where
  /-- Nothing of its own: the shell may offer files. -/
  | files
  /-- Nothing, and no files either. -/
  | nothing
  /-- The sub-commands of the command that the arguments name, as `help` offers. -/
  | commandNames
  deriving DecidableEq, Repr

/-- A command. -/
structure Command where
  name : String
  /-- Other names the command answers to. -/
  aliases : List String := []
  use : String
  short : String := ""
  long : String := ""
  flags : List FlagSpec := []
  passedDown : List FlagSpec := []
  runnable : Bool := true
  args : ArgRule := .unchecked
  children : List Command := []
  /-- Whether the usage line mentions `[flags]`. -/
  flagsInUseLine : Bool := true
  /-- Whether the command is left out of listings and suggestions. -/
  hidden : Bool := false
  /-- Whether the command reads its flags; one that does not takes every word as it is. -/
  readsFlags : Bool := true
  completesArgs : ArgCompletion := .files

/-- A command with the commands above it, from the top. -/
abbrev Chain := List Command

namespace Chain

/-- The command a chain ends at. -/
def last (c : Chain) : Command := c.getLastD { name := "", use := "" }

/-- The names of the commands of a chain, joined by spaces. -/
def path (c : Chain) : String := " ".intercalate (c.map (·.name))

/-- The flags passed down to the last command from above. -/
def inherited (c : Chain) : List FlagSpec := (c.dropLast.map (·.passedDown)).flatten

/-- The `--help` flag of the last command. -/
def helpFlag (c : Chain) : FlagSpec :=
  { name := "help", short := some 'h', type := .bool, default := "false",
    usage := "help for " ++ c.last.name }

/-- The flags the last command knows, without `--help` unless `withHelp`. -/
def knownFlags (c : Chain) (withHelp : Bool) : List FlagSpec :=
  c.last.flags ++ c.last.passedDown ++ c.inherited ++ (if withHelp then [c.helpFlag] else [])

end Chain

/-- Whether a command is listed and suggested: it is not hidden, and it can run or has
sub-commands that can. The `help` command is listed but never suggested. -/
def Command.available (c : Command) : Bool :=
  !c.hidden && c.name != "help" && (c.runnable || c.children.any fun d => d.runnable)

/-- Whether a word is a flag that takes the next word as its value. -/
def takesNextWord (flags : List FlagSpec) (w : String) : Bool :=
  let cs := w.toList
  if cs.contains '=' then false
  else
    match cs with
    | '-' :: '-' :: name =>
      match flags.find? (·.name == String.ofList name) with
      | some f => f.bareValue.isNone
      | none => true
    | ['-', c] =>
      match flags.find? (·.short == some c) with
      | some f => f.bareValue.isNone
      | none => true
    | _ => false

/-- The words of a command line that are neither flags nor (as far as can be told) flag
values. -/
def commandWords (flags : List FlagSpec) : Nat → List String → List String
  | 0, _ => []
  | _, [] => []
  | fuel + 1, w :: ws =>
    if w == "--" then []
    else if takesNextWord flags w then
      if ws.length ≤ 1 then [] else commandWords flags fuel (ws.drop 1)
    else if !w.isEmpty && !w.startsWith "-" then w :: commandWords flags fuel ws
    else commandWords flags fuel ws

/-- The words of a command line without the first word `x` that is not a flag or flag value. -/
def withoutWord (flags : List FlagSpec) (x : String) : Nat → List String → List String
  | 0, ws => ws
  | _, [] => []
  | fuel + 1, w :: ws =>
    if w == "--" then w :: ws
    else if takesNextWord flags w then
      match ws with
      | v :: rest => w :: v :: withoutWord flags x fuel rest
      | [] => [w]
    else if !w.startsWith "-" && w == x then ws
    else w :: withoutWord flags x fuel ws

/-- The distance between two texts in single-byte edits of their UTF-8 encodings, ignoring the
case of ASCII letters. -/
def editDistance (a b : String) : Nat :=
  let s := a.toLower.toUTF8.toList
  let t := b.toLower.toUTF8.toList
  let first := List.range (t.length + 1)
  let rows := s.foldl (fun (prev : List Nat) (sc : UInt8) =>
    let start := prev.headD 0 + 1
    let (row, _) := (t.zip (List.range t.length)).foldl (fun (acc : List Nat × Nat) (tc, j) =>
      let (row, left) := acc
      let diag := prev.getD j 0
      let up := prev.getD (j + 1) 0
      let v := if sc == tc then diag else min (min up left) diag + 1
      (row ++ [v], v)) ([start], start)
    row) first
  rows.getD t.length 0

/-- The sub-commands suggested for a mistyped name. -/
def suggestions (c : Command) (typed : String) : List String :=
  (c.children.filter fun d =>
    d.available && (editDistance typed d.name ≤ 2 || d.name.toLower.startsWith typed.toLower)).map
    (·.name)

/-- Finds the command a command line names: the chain down to it and its words. -/
def findCommand (root : Command) (words : List String) : Chain × List String :=
  let rec walk : Nat → Chain → List String → Chain × List String
    | 0, chain, ws => (chain, ws)
    | fuel + 1, chain, ws =>
      let flags := chain.knownFlags false
      match commandWords flags (ws.length + 1) ws with
      | [] => (chain, ws)
      | next :: _ =>
        match chain.last.children.find? (fun d => d.name == next || d.aliases.contains next) with
        | some d => walk fuel (chain ++ [d]) (withoutWord flags next (ws.length + 1) ws)
        | none => (chain, ws)
  walk (words.length + 1) [root] words

/-- The refusal of an unknown command, with suggestions. -/
def unknownCommand (chain : Chain) (word : String) : String :=
  let hint := match suggestions chain.last word with
    | [] => ""
    | ss => "\n\nDid you mean this?\n" ++ String.join (ss.map fun s => "\t" ++ s ++ "\n")
  "unknown command " ++ Text.quote word ++ " for " ++ Text.quote chain.path ++ hint

/-- Checks the words left for the top command when it has sub-commands. -/
def checkTopWords (chain : Chain) (words : List String) : Except String Unit :=
  if chain.last.args == .unchecked && !chain.last.children.isEmpty && chain.length == 1 then
    match commandWords (chain.knownFlags false) (words.length + 1) words with
    | w :: _ => .error (unknownCommand chain w)
    | [] => .ok ()
  else .ok ()

/-- Checks a command's arguments. -/
def checkArgs (chain : Chain) (args : List String) : Except String Unit :=
  match chain.last.args with
  | .none =>
    match args with
    | a :: _ => .error ("unknown command " ++ Text.quote a ++ " for " ++ Text.quote chain.path)
    | [] => .ok ()
  | .atLeast n =>
    if args.length < n then
      .error ("requires at least " ++ toString n ++ " arg(s), only received " ++ toString args.length)
    else .ok ()
  | .unchecked => .ok ()

/-- A text without trailing white space. -/
def trimEnd (s : String) : String :=
  String.ofList ((s.toList.reverse.dropWhile Char.isWhitespace).reverse)

/-- The lines describing flags, sorted by name, their descriptions aligned. -/
def flagLines (flags : List FlagSpec) : String :=
  let sorted := flags.mergeSort fun a b => decide (a.name ≤ b.name)
  let head := fun (f : FlagSpec) =>
    (match f.short with
      | some c => "  -" ++ c.toString ++ ", --" ++ f.name
      | none => "      --" ++ f.name) ++
    (match f.type with
      | .text => " string"
      | .whole => " int"
      | .bool => "")
  let width := (sorted.map fun f => (head f).length + 1).foldl max 0
  let line := fun (f : FlagSpec) =>
    let zero := match f.type with
      | .text => f.default.isEmpty
      | .whole => f.default == "0"
      | .bool => f.default == "false"
    let dflt :=
      if zero then ""
      else if f.type == .text then " (default " ++ Text.quote f.default ++ ")"
      else " (default " ++ f.default ++ ")"
    head f ++ " " ++ String.ofList (List.replicate (width - (head f).length) ' ') ++ " " ++
      f.usage ++ dflt ++ "\n"
  String.join (sorted.map line)

/-- How to call a command. -/
def useLine (chain : Chain) (withHelp : Bool) : String :=
  let c := chain.last
  let base := if chain.length ≤ 1 then c.use else Chain.path chain.dropLast ++ " " ++ c.use
  let hasFlags := !(chain.knownFlags withHelp).isEmpty
  if c.flagsInUseLine && hasFlags && !((base.splitOn "[flags]").length > 1) then base ++ " [flags]"
  else base

/-- The usage of the last command of a chain; `withHelp` tells whether its `--help` flag is in
place. -/
def usageText (chain : Chain) (withHelp : Bool) : String :=
  let c := chain.last
  let subs := c.children.any (·.available)
  let listed := (c.children.mergeSort fun a b => decide (a.name ≤ b.name)).filter
    fun d => d.available || d.name == "help"
  let padding := max 11 ((c.children.map (·.name.length)).foldl max 0)
  let own := c.flags ++ c.passedDown ++ (if withHelp then [chain.helpFlag] else [])
  let inherited := chain.inherited
  "Usage:" ++
    (if c.runnable then "\n  " ++ useLine chain withHelp else "") ++
    (if subs then "\n  " ++ chain.path ++ " [command]" else "") ++
    (if subs then
      "\n\nAvailable Commands:" ++ String.join (listed.map fun d =>
        "\n  " ++ d.name ++ String.ofList (List.replicate (padding - d.name.length) ' ') ++ " " ++
          d.short)
    else "") ++
    (if own.isEmpty then "" else "\n\nFlags:\n" ++ trimEnd (flagLines own)) ++
    (if inherited.isEmpty then "" else "\n\nGlobal Flags:\n" ++ trimEnd (flagLines inherited)) ++
    (if subs then
      "\n\nUse \"" ++ chain.path ++ " [command] --help\" for more information about a command."
    else "") ++ "\n"

/-- The help of the last command of a chain. -/
def helpText (chain : Chain) : String :=
  let c := chain.last
  let about := trimEnd (if c.long.isEmpty then c.short else c.long)
  (if about.isEmpty then "" else about ++ "\n\n") ++
    (if c.runnable || !c.children.isEmpty then usageText chain true else "")

/-- What to do with a command line. -/
inductive Dispatch where
  /-- Print help (or other text) and stop. -/
  | show (text : String)
  /-- Stop with an error. -/
  | refuse (msg : String)
  /-- Run the command with its flags and arguments. -/
  | run (chain : Chain) (settings : FlagSettings) (args : List String)

/-- What a command line asks for. -/
def dispatch (root : Command) (words : List String) : Dispatch :=
  let (chain, rest) := findCommand root words
  match checkTopWords chain rest with
  | .error e => .refuse e
  | .ok () =>
    match readCommandLine (chain.knownFlags true) rest with
    | .error .help => .show (helpText chain)
    | .error (.refused e) => .refuse e
    | .ok parsed =>
      if parsed.settings.bool "help" || !chain.last.runnable then .show (helpText chain)
      else
        match checkArgs chain parsed.args with
        | .error e => .refuse e
        | .ok () => .run chain parsed.settings parsed.args

end HttpRetry.Cli
