import HttpRetry.Text.Utf8
import HttpRetry.Yaml.Token

/-!
The YAML scanner: turns text into tokens, on demand. It keeps the indentation of open blocks and,
per flow level, where a simple key may have started; a `:` after it on the same line, within 1024
characters, inserts a `KEY` token before the key. The queue is filled until it holds three
tokens and its first is not a pending simple key, and the text is checked in blocks of 512 bytes
as it is reached, so a problem ahead of the parser is met first. Loops run on fuel measured by the
characters left.
-/

namespace HttpRetry.Yaml

/-- Where a simple key may have started, on one flow level. -/
structure SimpleKey where
  possible : Bool := false
  required : Bool := false
  tokenNumber : Nat := 0
  mark : Mark := {}
  deriving Inhabited

/-- The scanner's state. `horizon` is the number of characters the reader supplies before it
meets a character that a text may not hold (`none` when it supplies them all). `queue` holds
tokens made and not yet taken; `parsed` counts the tokens taken. `keysByToken` maps a token
number to the flow level of the simple key that starts there. -/
structure Scanner where
  text : Array Char
  horizon : Option Nat := none
  mark : Mark := {}
  queue : Array Token := #[]
  parsed : Nat := 0
  available : Bool := false
  started : Bool := false
  flowLevel : Nat := 0
  indent : Int := -1
  indents : List Int := []
  keyAllowed : Bool := false
  keys : Array SimpleKey := #[]
  keysByToken : List (Nat × Nat) := []

/-- Scanning steps: they change the scanner or meet a problem. -/
abbrev ScanM := StateT Scanner (Except Problem)

namespace Scanner

/-- The character `k` places ahead, or NUL past the end. -/
def charAt (s : Scanner) (k : Nat) : Char := s.text.getD (s.mark.index + k) '\x00'

/-- The number of characters not yet consumed. -/
def remaining (s : Scanner) : Nat := s.text.size - s.mark.index

/-- Whether the text at the mark starts a document marker (`---` or `...` at the start of a
line, followed by a blank or the end). -/
def atDocumentMarker (s : Scanner) : Bool :=
  s.mark.column == 0 &&
    ((s.charAt 0 == '-' && s.charAt 1 == '-' && s.charAt 2 == '-') ||
      (s.charAt 0 == '.' && s.charAt 1 == '.' && s.charAt 2 == '.')) &&
    (s.charAt 3 == ' ' || s.charAt 3 == '\t' || s.charAt 3 == '\r' || s.charAt 3 == '\n' ||
      s.charAt 3 == '\u0085' || s.charAt 3 == '\u2028' || s.charAt 3 == '\u2029' ||
      s.charAt 3 == '\x00')

end Scanner

/-- A space or a tab. -/
def isBlank (c : Char) : Bool := c == ' ' || c == '\t'

/-- A line break. -/
def isBreak (c : Char) : Bool :=
  c == '\r' || c == '\n' || c == '\u0085' || c == '\u2028' || c == '\u2029'

/-- The end of the text. -/
def isEnd (c : Char) : Bool := c == '\x00'

/-- A blank, a break or the end. -/
def isBlankEnd (c : Char) : Bool := isBlank c || isBreak c || isEnd c

/-- A break or the end. -/
def isBreakEnd (c : Char) : Bool := isBreak c || isEnd c

/-- A letter, digit, `_` or `-`: the characters of anchor names and tag handles. -/
def isWordChar (c : Char) : Bool :=
  ('0' ≤ c && c ≤ '9') || ('a' ≤ c && c ≤ 'z') || ('A' ≤ c && c ≤ 'Z') || c == '_' || c == '-'

/-- A hexadecimal digit. -/
def isHexChar (c : Char) : Bool :=
  ('0' ≤ c && c ≤ '9') || ('a' ≤ c && c ≤ 'f') || ('A' ≤ c && c ≤ 'F')

/-- A character allowed in a tag; `,`, `[` and `]` only inside `!<…>`. -/
def isUriChar (verbatim : Bool) (c : Char) : Bool :=
  isWordChar c || ";/?:@&=+$.!~*'()%".contains c || (verbatim && ",[]".contains c)

/-- The character `k` places ahead. -/
def ahead (k : Nat) : ScanM Char := return (← get).charAt k

/-- Makes sure the reader has supplied `k` characters from the mark on; the reader fails when
that takes it into a block holding a character that a text may not hold. -/
def need (k : Nat) : ScanM Unit := do
  let s ← get
  if let some h := s.horizon then
    if s.mark.index + k > h then
      throw { stage := .reading, problem := "control characters are not allowed" }

/-- Consumes one character that is not a line break. -/
def skip : ScanM Unit := do
  modify fun s => { s with mark := { s.mark with index := s.mark.index + 1, column := s.mark.column + 1 } }
  need 1

/-- Consumes a line break (a CR LF pair counts as one). -/
def skipLine : ScanM Unit := do
  let s ← get
  if s.charAt 0 == '\r' && s.charAt 1 == '\n' then
    set { s with mark := { index := s.mark.index + 2, line := s.mark.line + 1, column := 0 } }
    need 1
  else if isBreak (s.charAt 0) then
    set { s with mark := { index := s.mark.index + 1, line := s.mark.line + 1, column := 0 } }
    need 1

/-- Consumes the current character and appends it to `acc`. -/
def readChar (acc : String) : ScanM String := do
  let c ← ahead 0
  skip
  return acc.push c

/-- Consumes a line break and appends it to `acc`: CR, LF, CR LF and NEL as a newline, line and
paragraph separators as themselves. -/
def readBreak (acc : String) : ScanM String := do
  let c ← ahead 0
  if c == '\r' || c == '\n' || c == '\u0085' then
    skipLine
    return acc.push '\n'
  else if c == '\u2028' || c == '\u2029' then
    skipLine
    return acc.push c
  else return acc

/-- Consumes characters while `p` holds of the scanner and the current character. -/
def skipWhile (p : Scanner → Char → Bool) : ScanM Unit := do
  let rec go : Nat → ScanM Unit
    | 0 => pure ()
    | fuel + 1 => do
      let s ← get
      if p s (s.charAt 0) then
        skip
        go fuel
  go ((← get).remaining + 1)

/-- Reads characters while `p` holds, into a text. -/
def readWhile (p : Char → Bool) : ScanM String := do
  let rec go : Nat → String → ScanM String
    | 0, acc => pure acc
    | fuel + 1, acc => do
      if p (← ahead 0) then go fuel (← readChar acc) else pure acc
  go ((← get).remaining + 1) ""

/-- A scanning problem, with the context's position. -/
def scanError (context : Mark) (problem : String) : ScanM α := do
  throw { stage := .scanning, problem, context, mark := (← get).mark }

/-- Appends a token to the queue. -/
def push (t : Token) : ScanM Unit := modify fun s => { s with queue := s.queue.push t }

/-- Inserts a token `i` places after the head of the queue. -/
def insertAt (i : Nat) (t : Token) : ScanM Unit :=
  modify fun s => { s with queue := (s.queue.toList.take i ++ t :: s.queue.toList.drop i).toArray }

/-- Consumes one character as a token of kind `k`. -/
def indicator (k : TokenKind) : ScanM Unit := do
  let start := (← get).mark
  skip
  push { kind := k, start, stop := (← get).mark }

/-- The map from token numbers to flow levels without `n`. -/
def forgetToken (byToken : List (Nat × Nat)) (n : Nat) : List (Nat × Nat) :=
  byToken.filter (·.1 != n)

/-- Drops the possible simple key of the current flow level; a required one is a problem. -/
def removeSimpleKey : ScanM Unit := do
  let s ← get
  let i := s.keys.size - 1
  let k := s.keys.getD i {}
  if k.possible then
    if k.required then scanError k.mark "could not find expected ':'"
    set { s with
      keys := s.keys.setIfInBounds i { k with possible := false }
      keysByToken := forgetToken s.keysByToken k.tokenNumber }

/-- Notes that a simple key may start at the mark, if one may. -/
def saveSimpleKey : ScanM Unit := do
  let s ← get
  if s.keyAllowed then
    let key : SimpleKey := {
      possible := true
      required := s.flowLevel == 0 && s.indent == (s.mark.column : Int)
      tokenNumber := s.parsed + s.queue.size
      mark := s.mark }
    removeSimpleKey
    modify fun s =>
      let i := s.keys.size - 1
      { s with
        keys := s.keys.setIfInBounds i key
        keysByToken := (key.tokenNumber, i) :: forgetToken s.keysByToken key.tokenNumber }

/-- Whether the simple key of flow level `i` may still be completed: it may not once the scanner
has left its line or gone 1024 characters past it. -/
def keyStillOpen (i : Nat) : ScanM Bool := do
  let s ← get
  let k := s.keys.getD i {}
  if !k.possible then return false
  if k.mark.line < s.mark.line || k.mark.index + 1024 < s.mark.index then
    if k.required then scanError k.mark "could not find expected ':'"
    set { s with keys := s.keys.setIfInBounds i { k with possible := false } }
    return false
  return true

/-- Enters a flow collection. -/
def increaseFlowLevel : ScanM Unit := do
  let s ← get
  let s := { s with keys := s.keys.push { mark := s.mark }, flowLevel := s.flowLevel + 1 }
  set s
  if s.flowLevel > 10000 then scanError s.mark "exceeded max depth of 10000"

/-- Leaves a flow collection. -/
def decreaseFlowLevel : ScanM Unit :=
  modify fun s =>
    if s.flowLevel > 0 then
      let top := s.keys.back?.getD {}
      { s with
        flowLevel := s.flowLevel - 1
        keysByToken := forgetToken s.keysByToken top.tokenNumber
        keys := s.keys.pop }
    else s

/-- In block context, opens an indentation level at `column` if it is deeper than the current
one, with a token of kind `k` placed at token number `number` (or last). -/
def rollIndent (column : Nat) (number : Option Nat) (k : TokenKind) (mark : Mark) :
    ScanM Unit := do
  let s ← get
  if s.flowLevel == 0 && s.indent < (column : Int) then
    let s := { s with indents := s.indent :: s.indents, indent := column }
    set s
    if s.indents.length > 10000 then
      scanError (s.keys.back?.getD {}).mark "exceeded max depth of 10000"
    let t : Token := { kind := k, start := mark, stop := mark }
    match number with
    | some n => insertAt (n - s.parsed) t
    | none => push t

/-- In block context, closes the indentation levels deeper than `column`, each with a
`BLOCK-END` placed just before `scanMark`. -/
def unrollIndent (column : Int) (scanMark : Mark) : ScanM Unit := do
  let blockMark := { scanMark with index := scanMark.index - 1 }
  let rec go : Nat → ScanM Unit
    | 0 => pure ()
    | fuel + 1 => do
      let s ← get
      if s.flowLevel == 0 && s.indent > column then
        push { kind := .blockEnd, start := blockMark, stop := blockMark }
        modify fun s => match s.indents with
          | i :: rest => { s with indent := i, indents := rest }
          | [] => { s with indent := -1 }
        go fuel
  go ((← get).indents.length + 1)

/-- Begins the stream. -/
def fetchStreamStart : ScanM Unit := do
  modify fun s =>
    { s with indent := -1, keys := s.keys.push {}, keysByToken := [], keyAllowed := true,
             started := true }
  let m := (← get).mark
  push { kind := .streamStart, start := m, stop := m }

/-- Ends the stream, on a fresh line. -/
def fetchStreamEnd : ScanM Unit := do
  modify fun s =>
    if s.mark.column != 0 then { s with mark := { s.mark with column := 0, line := s.mark.line + 1 } }
    else s
  unrollIndent (-1) (← get).mark
  removeSimpleKey
  modify fun s => { s with keyAllowed := false }
  let m := (← get).mark
  push { kind := .streamEnd, start := m, stop := m }

/-- Skips blanks, comments and line breaks up to the next token. Tabs are skipped only in flow
context or where no simple key may start; a line break in block context allows one. -/
def scanToNextToken : ScanM Unit := do
  let rec go : Nat → ScanM Unit
    | 0 => pure ()
    | fuel + 1 => do
      let s ← get
      if s.mark.column == 0 && s.charAt 0 == '\uFEFF' then skip
      skipWhile fun s c => c == ' ' || ((s.flowLevel > 0 || !s.keyAllowed) && c == '\t')
      if (← ahead 0) == '#' then skipWhile fun _ c => !isBreakEnd c
      if isBreak (← ahead 0) then
        skipLine
        modify fun s => if s.flowLevel == 0 then { s with keyAllowed := true } else s
        go fuel
  go ((← get).remaining + 1)

/-- A `---` or `...` marker. -/
def fetchDocumentIndicator (k : TokenKind) : ScanM Unit := do
  unrollIndent (-1) (← get).mark
  removeSimpleKey
  modify fun s => { s with keyAllowed := false }
  let start := (← get).mark
  skip; skip; skip
  push { kind := k, start, stop := (← get).mark }

/-- `[` or `{`: a simple key may start here, and another just after. -/
def fetchFlowCollectionStart (k : TokenKind) : ScanM Unit := do
  saveSimpleKey
  increaseFlowLevel
  modify fun s => { s with keyAllowed := true }
  indicator k

/-- `]` or `}`. -/
def fetchFlowCollectionEnd (k : TokenKind) : ScanM Unit := do
  removeSimpleKey
  decreaseFlowLevel
  modify fun s => { s with keyAllowed := false }
  indicator k

/-- `,` in flow context. -/
def fetchFlowEntry : ScanM Unit := do
  removeSimpleKey
  modify fun s => { s with keyAllowed := true }
  indicator .flowEntry

/-- `-` before a blank: a block sequence entry. -/
def fetchBlockEntry : ScanM Unit := do
  let s ← get
  if s.flowLevel == 0 then
    if !s.keyAllowed then scanError s.mark "block sequence entries are not allowed in this context"
    rollIndent s.mark.column none .blockSequenceStart s.mark
  removeSimpleKey
  modify fun s => { s with keyAllowed := true }
  indicator .blockEntry

/-- `?`: an explicit key. -/
def fetchKey : ScanM Unit := do
  let s ← get
  if s.flowLevel == 0 then
    if !s.keyAllowed then scanError s.mark "mapping keys are not allowed in this context"
    rollIndent s.mark.column none .blockMappingStart s.mark
  removeSimpleKey
  modify fun s => { s with keyAllowed := s.flowLevel == 0 }
  indicator .key

/-- `:`: completes a pending simple key (inserting its `KEY` token), or follows an explicit one. -/
def fetchValue : ScanM Unit := do
  let s ← get
  let i := s.keys.size - 1
  if ← keyStillOpen i then
    let s ← get
    let k := s.keys.getD i {}
    insertAt (k.tokenNumber - s.parsed) { kind := .key, start := k.mark, stop := k.mark }
    rollIndent k.mark.column (some k.tokenNumber) .blockMappingStart k.mark
    modify fun s =>
      { s with
        keys := s.keys.setIfInBounds i { k with possible := false }
        keysByToken := forgetToken s.keysByToken k.tokenNumber
        keyAllowed := false }
  else
    let s ← get
    if s.flowLevel == 0 then
      if !s.keyAllowed then scanError s.mark "mapping values are not allowed in this context"
      rollIndent s.mark.column none .blockMappingStart s.mark
    modify fun s => { s with keyAllowed := s.flowLevel == 0 }
  indicator .value

/-- A text being read as a scalar, with the blanks and breaks not yet placed. -/
structure Folds where
  value : String := ""
  leadingBreak : String := ""
  trailingBreaks : String := ""
  whitespaces : String := ""
  leadingBlanks : Bool := false

/-- Places pending blanks and breaks before more text: a single line break folds into a space,
further breaks are kept, and blanks within a line are kept. -/
def Folds.join (f : Folds) : Folds :=
  if f.leadingBlanks then
    let v :=
      if f.leadingBreak.startsWith "\n" then
        if f.trailingBreaks.isEmpty then f.value.push ' ' else f.value ++ f.trailingBreaks
      else f.value ++ f.leadingBreak ++ f.trailingBreaks
    { f with value := v, leadingBreak := "", trailingBreaks := "", leadingBlanks := false }
  else if f.whitespaces.isEmpty then f
  else { f with value := f.value ++ f.whitespaces, whitespaces := "" }

/-- Consumes blanks and breaks inside a scalar, noting them in `f`. In a plain scalar (`plain`
holds its start and indentation) a tab in the indentation of a continuation line is a problem. -/
def scalarBlanks (plain : Option (Mark × Int)) : Nat → Folds → ScanM Folds
  | 0, f => pure f
  | fuel + 1, f => do
    let s ← get
    let c := s.charAt 0
    if isBlank c then
      match plain with
      | some (start, indent) =>
        if f.leadingBlanks && (s.mark.column : Int) < indent && c == '\t' then
          scanError start "found a tab character that violates indentation"
      | none => pure ()
      if !f.leadingBlanks then
        scalarBlanks plain fuel { f with whitespaces := ← readChar f.whitespaces }
      else
        skip
        scalarBlanks plain fuel f
    else if isBreak c then
      if !f.leadingBlanks then
        let lb ← readBreak ""
        scalarBlanks plain fuel { f with whitespaces := "", leadingBreak := lb, leadingBlanks := true }
      else
        scalarBlanks plain fuel { f with trailingBreaks := ← readBreak f.trailingBreaks }
    else pure f

/-- Reads the non-blank characters of a plain scalar up to an indicator that ends it, and the
mark after the last one read. -/
def plainRun : Nat → Folds → Mark → ScanM (Folds × Mark)
  | 0, f, e => pure (f, e)
  | fuel + 1, f, e => do
    let s ← get
    let c := s.charAt 0
    if isBlankEnd c then return (f, e)
    if (c == ':' && isBlankEnd (s.charAt 1)) ||
        (s.flowLevel > 0 && (c == ',' || c == '?' || c == '[' || c == ']' || c == '{' || c == '}')) then
      return (f, e)
    let f := f.join
    let v ← readChar f.value
    plainRun fuel { f with value := v } (← get).mark

/-- Reads a plain scalar line by line until a comment, an ending indicator, a document marker, or
a line indented less than `indent` (in block context). -/
def plainLines (start : Mark) (indent : Int) : Nat → Folds → Mark → ScanM (Folds × Mark)
  | 0, f, e => pure (f, e)
  | fuel + 1, f, e => do
    let s ← get
    if s.atDocumentMarker || s.charAt 0 == '#' then return (f, e)
    let (f, e) ← plainRun (s.remaining + 1) f e
    let c ← ahead 0
    if !(isBlank c || isBreak c) then return (f, e)
    let f ← scalarBlanks (some (start, indent)) ((← get).remaining + 1) f
    let s ← get
    if s.flowLevel == 0 && (s.mark.column : Int) < indent then return (f, e)
    plainLines start indent fuel f e

/-- A plain scalar. After one that ran over a line break, a simple key may start. -/
def fetchPlainScalar : ScanM Unit := do
  saveSimpleKey
  modify fun s => { s with keyAllowed := false }
  let s ← get
  let start := s.mark
  let (f, e) ← plainLines start (s.indent + 1) (s.remaining + 1) {} start
  if f.leadingBlanks then modify fun s => { s with keyAllowed := true }
  push { kind := .scalar, start, stop := e, text := f.value, style := .plain }

/-- What an escape letter of a double-quoted scalar stands for: a character, or the number of
hexadecimal digits of a code point. -/
def escapeOf : Char → Option (Char ⊕ Nat)
  | '0' => some (.inl '\x00')
  | 'a' => some (.inl '\x07')
  | 'b' => some (.inl '\x08')
  | 't' => some (.inl '\t')
  | '\t' => some (.inl '\t')
  | 'n' => some (.inl '\n')
  | 'v' => some (.inl '\x0b')
  | 'f' => some (.inl '\x0c')
  | 'r' => some (.inl '\r')
  | 'e' => some (.inl '\x1b')
  | ' ' => some (.inl ' ')
  | '"' => some (.inl '"')
  | '\'' => some (.inl '\'')
  | '\\' => some (.inl '\\')
  | 'N' => some (.inl '\u0085')
  | '_' => some (.inl '\u00A0')
  | 'L' => some (.inl '\u2028')
  | 'P' => some (.inl '\u2029')
  | '/' => some (.inl '/')
  | 'x' => some (.inr 2)
  | 'u' => some (.inr 4)
  | 'U' => some (.inr 8)
  | _ => none

/-- The value of `n` hexadecimal digits ahead, if they are all hexadecimal. -/
def hexAhead (n : Nat) : ScanM (Option Nat) := do
  let s ← get
  let ds := (List.range n).map s.charAt
  if ds.all isHexChar then
    return some (ds.foldl (fun acc c => acc * 16 + (if c.isDigit then c.toNat - 48 else c.toLower.toNat - 87)) 0)
  else return none

/-- Reads the non-blank characters of a quoted scalar up to its closing quote, handling doubled
single quotes and escapes; an escaped line break sets `leadingBlanks`. -/
def quotedRun (start : Mark) (single : Bool) : Nat → Folds → ScanM Folds
  | 0, f => pure f
  | fuel + 1, f => do
    let s ← get
    let c := s.charAt 0
    let c1 := s.charAt 1
    if isBlankEnd c then return f
    if single && c == '\'' && c1 == '\'' then
      skip; skip
      quotedRun start single fuel { f with value := f.value.push '\'' }
    else if single && c == '\'' then return f
    else if !single && c == '"' then return f
    else if !single && c == '\\' && isBreak c1 then
      skip
      skipLine
      return { f with leadingBlanks := true }
    else if !single && c == '\\' then
      match escapeOf c1 with
      | none => scanError start "found unknown escape character"
      | some (.inl ch) =>
        skip; skip
        quotedRun start single fuel { f with value := f.value.push ch }
      | some (.inr n) =>
        skip; skip
        match ← hexAhead n with
        | none => scanError start "did not find expected hexdecimal number"
        | some v =>
          if (0xD800 ≤ v && v ≤ 0xDFFF) || v > 0x10FFFF then
            scanError start "found invalid Unicode character escape code"
          for _ in List.range n do skip
          quotedRun start single fuel { f with value := f.value.push (Char.ofNat v) }
    else
      quotedRun start single fuel { f with value := ← readChar f.value }

/-- Reads a quoted scalar's content, line by line, up to its closing quote. -/
def quotedLines (start : Mark) (single : Bool) : Nat → Folds → ScanM Folds
  | 0, f => pure f
  | fuel + 1, f => do
    let s ← get
    if s.atDocumentMarker then scanError start "found unexpected document indicator"
    if isEnd (s.charAt 0) then scanError start "found unexpected end of stream"
    let f ← quotedRun start single (s.remaining + 1) { f with leadingBlanks := false }
    let c ← ahead 0
    if (single && c == '\'') || (!single && c == '"') then return f
    let f ← scalarBlanks none ((← get).remaining + 1) f
    quotedLines start single fuel f.join

/-- A single- or double-quoted scalar. -/
def fetchQuotedScalar (single : Bool) : ScanM Unit := do
  saveSimpleKey
  modify fun s => { s with keyAllowed := false }
  let start := (← get).mark
  skip
  let f ← quotedLines start single ((← get).remaining + 2) {}
  skip
  push { kind := .scalar, start, stop := (← get).mark, text := f.value,
         style := if single then .singleQuoted else .doubleQuoted }

/-- Consumes the indentation and empty lines before a line of a block scalar, collecting the
breaks; settles the indentation if it is still open (zero). -/
def blockBreaks (start : Mark) (indent : Nat) (breaks : String) :
    ScanM (Nat × String × Mark) := do
  let rec go : Nat → Nat → String → Mark → ScanM (Nat × String × Mark)
    | 0, maxIndent, br, e => pure (maxIndent, br, e)
    | fuel + 1, maxIndent, br, e => do
      skipWhile fun s c => (indent == 0 || s.mark.column < indent) && c == ' '
      let s ← get
      let maxIndent := max maxIndent s.mark.column
      if (indent == 0 || s.mark.column < indent) && s.charAt 0 == '\t' then
        scanError start "found a tab character where an indentation space is expected"
      if !isBreak (s.charAt 0) then return (maxIndent, br, e)
      let br ← readBreak br
      go fuel maxIndent br (← get).mark
  let (maxIndent, br, e) ← go ((← get).remaining + 1) 0 breaks (← get).mark
  let s ← get
  let settled : Nat :=
    if indent != 0 then indent
    else max 1 (max maxIndent (s.indent + 1).toNat)
  return (settled, br, e)

/-- Reads the lines of a block scalar at indentation `indent`. -/
def blockLines (start : Mark) (literal : Bool) :
    Nat → Nat → Folds → Bool → Mark → ScanM (Folds × Mark)
  | 0, _, f, _, e => pure (f, e)
  | fuel + 1, indent, f, leadingBlank, e => do
    let s ← get
    if s.mark.column != indent || isEnd (s.charAt 0) then return (f, e)
    let trailingBlank := isBlank (s.charAt 0)
    let value :=
      if !literal && !leadingBlank && !trailingBlank && f.leadingBreak.startsWith "\n" then
        if f.trailingBreaks.isEmpty then f.value.push ' ' else f.value
      else f.value ++ f.leadingBreak
    let value := value ++ f.trailingBreaks
    let leadingBlank := isBlank (s.charAt 0)
    let rec line : Nat → String → ScanM String
      | 0, acc => pure acc
      | n + 1, acc => do if isBreakEnd (← ahead 0) then pure acc else line n (← readChar acc)
    let value ← line (s.remaining + 1) value
    let lb ← readBreak ""
    let (indent, tb, e) ← blockBreaks start indent ""
    blockLines start literal fuel indent
      { f with value, leadingBreak := lb, trailingBreaks := tb } leadingBlank e

/-- A literal (`|`) or folded (`>`) block scalar, with its optional chomping and indentation
indicators. -/
def fetchBlockScalar (literal : Bool) : ScanM Unit := do
  removeSimpleKey
  modify fun s => { s with keyAllowed := true }
  let start := (← get).mark
  skip
  let chompOf := fun (c : Char) => if c == '+' then (1 : Int) else -1
  let mut chomping : Int := 0
  let mut increment : Nat := 0
  let c ← ahead 0
  if c == '+' || c == '-' then
    chomping := chompOf c
    skip
    let d ← ahead 0
    if d.isDigit then
      if d == '0' then scanError start "found an indentation indicator equal to 0"
      increment := d.toNat - 48
      skip
  else if c.isDigit then
    if c == '0' then scanError start "found an indentation indicator equal to 0"
    increment := c.toNat - 48
    skip
    let d ← ahead 0
    if d == '+' || d == '-' then
      chomping := chompOf d
      skip
  skipWhile fun _ c => isBlank c
  if (← ahead 0) == '#' then skipWhile fun _ c => !isBreakEnd c
  if !isBreakEnd (← ahead 0) then scanError start "did not find expected comment or line break"
  if isBreak (← ahead 0) then skipLine
  let s ← get
  let indent : Nat :=
    if increment > 0 then (if s.indent ≥ 0 then s.indent.toNat + increment else increment) else 0
  let (indent, tb, e) ← blockBreaks start indent ""
  let (f, e) ← blockLines start literal ((← get).remaining + 1) indent
    { trailingBreaks := tb } false e
  let value := if chomping != -1 then f.value ++ f.leadingBreak else f.value
  let value := if chomping == 1 then value ++ f.trailingBreaks else value
  push { kind := .scalar, start, stop := e, text := value,
         style := if literal then .literal else .folded }

/-- An anchor (`&name`) or alias (`*name`). -/
def fetchAnchor (k : TokenKind) : ScanM Unit := do
  saveSimpleKey
  modify fun s => { s with keyAllowed := false }
  let start := (← get).mark
  skip
  let name ← readWhile isWordChar
  let s ← get
  let c := s.charAt 0
  if name.isEmpty || !(isBlankEnd c || c == '?' || c == ':' || c == ',' || c == ']' ||
      c == '}' || c == '%' || c == '@' || c == '`') then
    scanError start "did not find expected alphabetic or numeric character"
  push { kind := k, start, stop := s.mark, text := name }

/-- A problem inside a tag or a `%TAG` directive. -/
def tagError (start : Mark) (problem : String) : ScanM α := scanError start problem

/-- The number of bytes of a UTF-8 sequence with leading byte `b`, or 0 if `b` cannot lead. -/
def utf8Width (b : Nat) : Nat :=
  if b < 0x80 then 1 else if b / 32 == 6 then 2 else if b / 16 == 14 then 3
  else if b / 8 == 30 then 4 else 0

/-- Reads `%XX` escapes making up one UTF-8 sequence. -/
def uriEscapes (start : Mark) (acc : String) : ScanM String := do
  let rec go : Nat → Nat → List UInt8 → ScanM (List UInt8)
    | 0, _, bs => pure bs
    | fuel + 1, w, bs => do
      if w == 0 then return bs
      let s ← get
      if !(s.charAt 0 == '%' && isHexChar (s.charAt 1) && isHexChar (s.charAt 2)) then
        tagError start "did not find URI escaped octet"
      let hex := fun (c : Char) => if c.isDigit then c.toNat - 48 else c.toLower.toNat - 87
      let octet := hex (s.charAt 1) * 16 + hex (s.charAt 2)
      let w ←
        if bs.isEmpty then
          let w := utf8Width octet
          if w == 0 then tagError start "found an incorrect leading UTF-8 octet"
          pure w
        else
          if octet / 64 != 2 then tagError start "found an incorrect trailing UTF-8 octet"
          pure w
      skip; skip; skip
      go fuel (w - 1) (bs ++ [octet.toUInt8])
  let bs ← go 5 1024 []
  return acc ++ Text.decodeLossy bs

/-- Reads the characters of a tag after `head` (whose leading `!` is dropped). -/
def tagUri (verbatim : Bool) (head : String) (start : Mark) : ScanM String := do
  let rec go : Nat → String → Bool → ScanM (String × Bool)
    | 0, acc, seen => pure (acc, seen)
    | fuel + 1, acc, seen => do
      let c ← ahead 0
      if !isUriChar verbatim c then return (acc, seen)
      let acc ← if c == '%' then uriEscapes start acc else readChar acc
      go fuel acc true
  let (s, seen) ← go ((← get).remaining + 1) (if head.length > 1 then head.drop 1 |>.toString else "") (head.length > 0)
  if !seen then tagError start "did not find expected tag URI"
  return s

/-- A tag handle: `!`, `!!` or `!word!`; in a directive it must end with `!` (or be `!`). -/
def tagHandle (directive : Bool) (start : Mark) : ScanM String := do
  if (← ahead 0) != '!' then tagError start "did not find expected '!'"
  let h ← readChar ""
  let h := h ++ (← readWhile isWordChar)
  if (← ahead 0) == '!' then return (← readChar h)
  if directive && h != "!" then tagError start "did not find expected '!'"
  return h

/-- A tag: `!<uri>`, `!handle!suffix`, `!suffix` or `!`. -/
def fetchTag : ScanM Unit := do
  saveSimpleKey
  modify fun s => { s with keyAllowed := false }
  let start := (← get).mark
  let (handle, suffix) ←
    if (← ahead 1) == '<' then
      skip; skip
      let u ← tagUri true "" start
      if (← ahead 0) != '>' then scanError start "did not find the expected '>'"
      skip
      pure ("", u)
    else
      let h ← tagHandle false start
      if h.length > 1 && h.startsWith "!" && h.endsWith "!" then
        pure (h, ← tagUri false "" start)
      else
        let u ← tagUri false h start
        if u.isEmpty then pure ("", "!") else pure ("!", u)
  let s ← get
  let c := s.charAt 0
  if !isBlankEnd c && (s.flowLevel == 0 || c != ',') then
    scanError start "did not find expected whitespace or line break"
  push { kind := .tag, start, stop := s.mark, text := handle, suffix }

/-- A version number of at most two digits. -/
def versionNumber (start : Mark) : ScanM Nat := do
  let ds ← readWhile Char.isDigit
  if ds.length > 2 then scanError start "found extremely long version number"
  if ds.isEmpty then scanError start "did not find expected version number"
  return ds.foldl (fun acc c => acc * 10 + (c.toNat - 48)) 0

/-- A `%YAML` or `%TAG` directive, with the rest of its line. -/
def fetchDirective : ScanM Unit := do
  unrollIndent (-1) (← get).mark
  removeSimpleKey
  modify fun s => { s with keyAllowed := false }
  let start := (← get).mark
  skip
  let name ← readWhile isWordChar
  if name.isEmpty then scanError start "could not find expected directive name"
  if !isBlankEnd (← ahead 0) then scanError start "found unexpected non-alphabetical character"
  let token ←
    if name == "YAML" then
      skipWhile fun _ c => isBlank c
      let major ← versionNumber start
      if (← ahead 0) != '.' then scanError start "did not find expected digit or '.' character"
      skip
      let minor ← versionNumber start
      pure { kind := .versionDirective, start, stop := (← get).mark, major, minor : Token }
    else if name == "TAG" then
      skipWhile fun _ c => isBlank c
      let handle ← tagHandle true start
      if !isBlank (← ahead 0) then scanError start "did not find expected whitespace"
      skipWhile fun _ c => isBlank c
      let pfx ← tagUri true "" start
      if !isBlankEnd (← ahead 0) then scanError start "did not find expected whitespace or line break"
      pure { kind := .tagDirective, start, stop := (← get).mark, text := handle, suffix := pfx : Token }
    else scanError start "found unknown directive name"
  skipWhile fun _ c => isBlank c
  if (← ahead 0) == '#' then skipWhile fun _ c => !isBreakEnd c
  if !isBreakEnd (← ahead 0) then scanError start "did not find expected comment or line break"
  if isBreak (← ahead 0) then skipLine
  push token

/-- Whether a character at the mark starts a plain scalar. -/
def startsPlain (s : Scanner) : Bool :=
  let c := s.charAt 0
  let c1 := s.charAt 1
  !(isBlankEnd c || "-?:,[]\x7b\x7d#&*!|>'\"%@`".contains c) ||
    (c == '-' && !isBlank c1) ||
    (s.flowLevel == 0 && (c == '?' || c == ':') && !isBlankEnd c1)

/-- Makes the next token (or tokens). -/
def fetchNextToken : ScanM Unit := do
  need 1
  let s ← get
  if !s.started then
    fetchStreamStart
    return
  let scanMark := s.mark
  scanToNextToken
  unrollIndent (← get).mark.column scanMark
  need 4
  let s ← get
  let c := s.charAt 0
  let c1 := s.charAt 1
  let atLineStart := s.mark.column == 0
  let flow := s.flowLevel > 0
  if isEnd c then fetchStreamEnd
  else if atLineStart && c == '%' then fetchDirective
  else if atLineStart && c == '-' && s.atDocumentMarker then fetchDocumentIndicator .documentStart
  else if atLineStart && c == '.' && s.atDocumentMarker then fetchDocumentIndicator .documentEnd
  else if c == '[' then fetchFlowCollectionStart .flowSequenceStart
  else if c == '{' then fetchFlowCollectionStart .flowMappingStart
  else if c == ']' then fetchFlowCollectionEnd .flowSequenceEnd
  else if c == '}' then fetchFlowCollectionEnd .flowMappingEnd
  else if c == ',' then fetchFlowEntry
  else if c == '-' && isBlankEnd c1 then fetchBlockEntry
  else if c == '?' && (flow || isBlankEnd c1) then fetchKey
  else if c == ':' && (flow || isBlankEnd c1) then fetchValue
  else if c == '*' then fetchAnchor .alias
  else if c == '&' then fetchAnchor .anchor
  else if c == '!' then fetchTag
  else if c == '|' && !flow then fetchBlockScalar true
  else if c == '>' && !flow then fetchBlockScalar false
  else if c == '\'' then fetchQuotedScalar true
  else if c == '"' then fetchQuotedScalar false
  else if startsPlain s then fetchPlainScalar
  else scanError s.mark "found character that cannot start any token"

/-- Fills the queue until it holds three tokens and its head is not an open simple key. -/
def fetchMoreTokens : ScanM Unit := do
  let rec go : Nat → ScanM Unit
    | 0 => pure ()
    | fuel + 1 => do
      let s ← get
      let enough ←
        if s.queue.size ≥ 3 then
          match s.keysByToken.lookup s.parsed with
          | none => pure true
          | some i => do pure !(← keyStillOpen i)
        else pure false
      if !enough then
        fetchNextToken
        go fuel
  go ((← get).remaining + 8)
  modify fun s => { s with available := true }

/-- The next token, without taking it. -/
def peekToken : ScanM Token := do
  if !(← get).available then fetchMoreTokens
  return (← get).queue[0]?.getD { kind := .streamEnd, start := {}, stop := {} }

/-- Takes the next token. -/
def skipToken : ScanM Unit :=
  modify fun s =>
    { s with available := false, parsed := s.parsed + 1, queue := s.queue.extract 1 s.queue.size }

end HttpRetry.Yaml
