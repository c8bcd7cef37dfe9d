import HttpRetry.Yaml.Scanner
import HttpRetry.Yaml.Scalar

/-!
YAML nodes: the tree of the first document of a text, each node with its line. `Document.ofText`
asks the scanner for tokens in the order a recursive reading of the grammar needs them, so that
among several faults the one met first is reported.
-/

namespace HttpRetry.Yaml

/-- A node of a YAML document. Anchored nodes and aliases carry identities: an alias refers to
the anchored node by its identity, and has one of its own. -/
inductive Node where
  | scalar (value : String) (tag : String) (style : ScalarStyle) (line : Nat)
  | sequence (items : List Node) (tag : String) (line : Nat)
  | mapping (pairs : List (Node × Node)) (tag : String) (line : Nat)
  | alias (name : String) (self target : Nat) (line : Nat)
  deriving Inhabited

namespace Node

/-- The line a node starts on. -/
def line : Node → Nat
  | .scalar _ _ _ l => l
  | .sequence _ _ l => l
  | .mapping _ _ l => l
  | .alias _ _ _ l => l

end Node

/-- What the parser knows besides the scanner: anchors in force (name to identity), anchored
nodes once complete, the next identity, and the tag handles declared. -/
structure Anchors where
  names : List (String × Nat) := []
  nodes : List (Nat × Node) := []
  next : Nat := 0
  handles : List (String × String) := []

/-- Parsing steps. -/
abbrev ParseM := StateT Anchors ScanM

/-- The next token. -/
def peek : ParseM Token := peekToken

/-- Takes the next token. -/
def advance : ParseM Unit := skipToken

/-- A parsing problem with a context. -/
def parseError (context : Mark) (problem : String) (mark : Mark) : ParseM α :=
  throw { stage := .parsing, problem, context, mark }

/-- A problem with no position. -/
def plainError (problem : String) : ParseM α :=
  throw { stage := .parsing, problem }

/-- A fresh identity. -/
def freshId : ParseM Nat := modifyGet fun a => (a.next, { a with next := a.next + 1 })

/-- Puts `name` in force for a node with a fresh identity, if there is a name. -/
def defineAnchor (name : String) : ParseM (Option Nat) := do
  if name.isEmpty then return none
  let id ← freshId
  modify fun a => { a with names := (name, id) :: a.names.filter (·.1 != name) }
  return some id

/-- Records a complete anchored node. -/
def recordAnchor (id : Option Nat) (n : Node) : ParseM Node := do
  if let some i := id then modify fun a => { a with nodes := (i, n) :: a.nodes }
  return n

/-- The tag of a new node: an explicit tag (other than `!`) in short form, else `fallback`. -/
def nodeTag (tag : String) (fallback : String) : String :=
  if tag != "" && tag != "!" then shortTag tag else fallback

/-- A scalar node. -/
def scalarNode (value tag : String) (style : ScalarStyle) (mark : Mark) : Node :=
  let fallback :=
    if style != .plain then strTag
    else if value == "<<" then mergeTag
    else (resolvePlain value true).1
  .scalar value (nodeTag tag fallback) style (mark.line + 1)

/-- The empty scalar that stands for a missing node. -/
def emptyNode (mark : Mark) : Node := scalarNode "" "" .plain mark

/-- An anchor and a tag before a node, in either order: the anchor, the full tag, the mark
where the node starts, and the first token after them. -/
def properties (t : Token) : ParseM (String × String × Mark × Token) := do
  let start := t.start
  let (anchor, handle, suffix, tagMark, t) ←
    if t.kind == .anchor then
      advance
      let t2 ← peek
      if t2.kind == .tag then
        advance
        pure (t.text, some t2.text, t2.suffix, t2.start, ← peek)
      else pure (t.text, none, "", start, t2)
    else if t.kind == .tag then
      advance
      let t2 ← peek
      if t2.kind == .anchor then
        advance
        pure (t2.text, some t.text, t.suffix, t.start, ← peek)
      else pure ("", some t.text, t.suffix, t.start, t2)
    else pure ("", none, "", start, t)
  let tag ← match handle with
    | none => pure ""
    | some "" => pure suffix
    | some h =>
      match (← get).handles.lookup h with
      | some pfx => pure (pfx ++ suffix)
      | none => parseError start "found undefined tag handle" tagMark
  return (anchor, tag, start, t)

mutual

/-- A node; `block` allows block collections, `indentless` a sequence at the indentation of
its mapping. -/
def parseNode : Nat → Bool → Bool → ParseM Node
  | 0, _, _ => plainError "document too deeply nested"
  | fuel + 1, block, indentless => do
    let t ← peek
    if t.kind == .alias then
      match (← get).names.lookup t.text with
      | none => plainError ("unknown anchor '" ++ t.text ++ "' referenced")
      | some target =>
        let self ← freshId
        advance
        return .alias t.text self target (t.start.line + 1)
    let (anchor, tag, start, t) ← properties t
    if indentless && t.kind == .blockEntry then
      let id ← defineAnchor anchor
      let items ← indentlessEntries fuel []
      recordAnchor id (.sequence items (nodeTag tag seqTag) (start.line + 1))
    else if t.kind == .scalar then
      let id ← defineAnchor anchor
      advance
      recordAnchor id (scalarNode t.text tag t.style start)
    else if t.kind == .flowSequenceStart then
      let id ← defineAnchor anchor
      advance
      let items ← flowSequenceEntries fuel t.start true []
      recordAnchor id (.sequence items (nodeTag tag seqTag) (start.line + 1))
    else if t.kind == .flowMappingStart then
      let id ← defineAnchor anchor
      advance
      let pairs ← flowMappingEntries fuel t.start true []
      recordAnchor id (.mapping pairs (nodeTag tag mapTag) (start.line + 1))
    else if block && t.kind == .blockSequenceStart then
      let id ← defineAnchor anchor
      advance
      let items ← blockSequenceEntries fuel t.start []
      recordAnchor id (.sequence items (nodeTag tag seqTag) (start.line + 1))
    else if block && t.kind == .blockMappingStart then
      let id ← defineAnchor anchor
      advance
      let pairs ← blockMappingEntries fuel t.start []
      recordAnchor id (.mapping pairs (nodeTag tag mapTag) (start.line + 1))
    else if !anchor.isEmpty || !tag.isEmpty then
      let id ← defineAnchor anchor
      recordAnchor id (scalarNode "" tag .plain start)
    else
      parseError start "did not find expected node content" t.start

/-- The entries of a block sequence after its start token. -/
def blockSequenceEntries : Nat → Mark → List Node → ParseM (List Node)
  | 0, _, _ => plainError "document too deeply nested"
  | fuel + 1, first, acc => do
    let t ← peek
    if t.kind == .blockEntry then
      advance
      let t2 ← peek
      let item ←
        if t2.kind != .blockEntry && t2.kind != .blockEnd then parseNode fuel true false
        else pure (emptyNode t.stop)
      blockSequenceEntries fuel first (acc ++ [item])
    else if t.kind == .blockEnd then
      advance
      return acc
    else parseError first "did not find expected '-' indicator" t.start

/-- The entries of a sequence written at its mapping's indentation; it ends at the first token
that is not an entry, which is left for the mapping. -/
def indentlessEntries : Nat → List Node → ParseM (List Node)
  | 0, _ => plainError "document too deeply nested"
  | fuel + 1, acc => do
    let t ← peek
    if t.kind == .blockEntry then
      advance
      let t2 ← peek
      let item ←
        if t2.kind != .blockEntry && t2.kind != .key && t2.kind != .value && t2.kind != .blockEnd then
          parseNode fuel true false
        else pure (emptyNode t.stop)
      indentlessEntries fuel (acc ++ [item])
    else return acc

/-- The pairs of a block mapping after its start token. -/
def blockMappingEntries : Nat → Mark → List (Node × Node) → ParseM (List (Node × Node))
  | 0, _, _ => plainError "document too deeply nested"
  | fuel + 1, first, acc => do
    let t ← peek
    if t.kind == .key then
      advance
      let t2 ← peek
      let k ←
        if t2.kind != .key && t2.kind != .value && t2.kind != .blockEnd then parseNode fuel true true
        else pure (emptyNode t.stop)
      let t3 ← peek
      let v ←
        if t3.kind == .value then
          advance
          let t4 ← peek
          if t4.kind != .key && t4.kind != .value && t4.kind != .blockEnd then
            parseNode fuel true true
          else pure (emptyNode t3.stop)
        else pure (emptyNode t3.start)
      blockMappingEntries fuel first (acc ++ [(k, v)])
    else if t.kind == .blockEnd then
      advance
      return acc
    else parseError first "did not find expected key" t.start

/-- The entries of a flow sequence after `[`; `[a: b]` entries are one-pair mappings. -/
def flowSequenceEntries : Nat → Mark → Bool → List Node → ParseM (List Node)
  | 0, _, _, _ => plainError "document too deeply nested"
  | fuel + 1, first, isFirst, acc => do
    let t ← peek
    let t ←
      if t.kind != .flowSequenceEnd && !isFirst then
        if t.kind == .flowEntry then
          advance
          peek
        else parseError first "did not find expected ',' or ']'" t.start
      else pure t
    if t.kind == .flowSequenceEnd then
      advance
      return acc
    if t.kind == .key then
      advance
      let t2 ← peek
      let k ←
        if t2.kind != .value && t2.kind != .flowEntry && t2.kind != .flowSequenceEnd then
          parseNode fuel false false
        else
          advance
          pure (emptyNode t2.stop)
      let t3 ← peek
      let v ←
        if t3.kind == .value then
          advance
          let t4 ← peek
          if t4.kind != .flowEntry && t4.kind != .flowSequenceEnd then parseNode fuel false false
          else pure (emptyNode t3.start)
        else pure (emptyNode t3.start)
      let _ ← peek
      flowSequenceEntries fuel first false (acc ++ [.mapping [(k, v)] mapTag (t.start.line + 1)])
    else
      let item ← parseNode fuel false false
      flowSequenceEntries fuel first false (acc ++ [item])

/-- The pairs of a flow mapping after `{`; a key without `:` has an empty value. -/
def flowMappingEntries : Nat → Mark → Bool → List (Node × Node) → ParseM (List (Node × Node))
  | 0, _, _, _ => plainError "document too deeply nested"
  | fuel + 1, first, isFirst, acc => do
    let t ← peek
    let t ←
      if t.kind != .flowMappingEnd && !isFirst then
        if t.kind == .flowEntry then
          advance
          peek
        else parseError first "did not find expected ',' or '\x7d'" t.start
      else pure t
    if t.kind == .flowMappingEnd then
      advance
      return acc
    if t.kind == .key then
      advance
      let t2 ← peek
      let k ←
        if t2.kind != .value && t2.kind != .flowEntry && t2.kind != .flowMappingEnd then
          parseNode fuel false false
        else pure (emptyNode t2.start)
      let t3 ← peek
      let v ←
        if t3.kind == .value then
          advance
          let t4 ← peek
          if t4.kind != .flowEntry && t4.kind != .flowMappingEnd then parseNode fuel false false
          else pure (emptyNode t4.start)
        else pure (emptyNode t3.start)
      flowMappingEntries fuel first false (acc ++ [(k, v)])
    else
      let k ← parseNode fuel false false
      let t2 ← peek
      flowMappingEntries fuel first false (acc ++ [(k, emptyNode t2.start)])

end

/-- The tag handles every document has. -/
def defaultHandles : List (String × String) := [("!", "!"), ("!!", "tag:yaml.org,2002:")]

/-- Reads `%YAML` and `%TAG` directives before a document. -/
def directives : Nat → Bool → ParseM Unit
  | 0, _ => pure ()
  | fuel + 1, seenVersion => do
    let t ← peek
    if t.kind == .versionDirective then
      if seenVersion then parseError {} "found duplicate %YAML directive" t.start
      if t.major != 1 || (t.minor != 1 && t.minor != 2) then
        parseError {} "found incompatible YAML document" t.start
      advance
      directives fuel true
    else if t.kind == .tagDirective then
      if ((← get).handles.lookup t.text).isSome then
        parseError {} "found duplicate %TAG directive" t.start
      modify fun a => { a with handles := a.handles ++ [(t.text, t.suffix)] }
      advance
      directives fuel seenVersion
    else
      modify fun a =>
        { a with handles := a.handles ++ defaultHandles.filter fun d => (a.handles.lookup d.1).isNone }

/-- The first document's root node, if the text has a document, and the anchored nodes. -/
def parseDocument (fuel : Nat) : ParseM (Option Node) := do
  let _ ← peek
  advance
  let t ← peek
  let isDirective := t.kind == .versionDirective || t.kind == .tagDirective
  if !isDirective && t.kind != .documentStart && t.kind != .streamEnd then
    directives fuel false
    let root ← parseNode fuel true false
    let t ← peek
    if t.kind == .documentEnd then advance
    return some root
  else if t.kind != .streamEnd then
    directives fuel false
    let t ← peek
    if t.kind != .documentStart then parseError {} "did not find expected <document start>" t.start
    advance
    let t ← peek
    let root ←
      if t.kind == .versionDirective || t.kind == .tagDirective || t.kind == .documentStart ||
          t.kind == .documentEnd || t.kind == .streamEnd then pure (emptyNode t.start)
      else parseNode fuel true false
    let t ← peek
    if t.kind == .documentEnd then advance
    return some root
  else return none

/-- Whether a character may appear in a YAML text. -/
def isPrintable (c : Char) : Bool :=
  let v := c.toNat
  v == 0x09 || v == 0x0A || v == 0x0D || (0x20 ≤ v && v ≤ 0x7E) || v == 0x85 ||
    (0xA0 ≤ v && v ≤ 0xD7FF) || (0xE000 ≤ v && v ≤ 0xFFFD) || (0x10000 ≤ v && v ≤ 0x10FFFF)

/-- A parsed document: its root (if any) and its anchored nodes by identity. -/
structure Document where
  root : Option Node
  anchored : List (Nat × Node)

/-- The number of characters of `cs` that a reader supplies before it meets one that a text
may not hold, when `cs` starts `start` bytes into the input. The reader decodes blocks of 512
bytes, a character going with the block that holds its last byte, and refuses a whole block
that holds such a character; `none` when there is none. -/
def readableChars (start : Nat) (cs : List Char) : Option Nat :=
  let ends := (cs.foldl (fun (acc : List Nat × Nat) c =>
    ((acc.2 + c.utf8Size) :: acc.1, acc.2 + c.utf8Size)) ([], start)).1.reverse
  match (cs.zip ends).find? (fun p => !isPrintable p.1) with
  | none => none
  | some (_, stop) =>
    let blockStart := (stop - 1) / 512 * 512
    some (ends.filter (· ≤ blockStart)).length

/-- Parses the first document of a text. An empty text reads as a single line break, and a
byte-order mark at the start is dropped. -/
def Document.ofText (text : String) : Except Problem Document :=
  let (start, cs) := match text.toList with
    | '\uFEFF' :: r => (3, r)
    | [] => (0, ['\n'])
    | r => (0, r)
  let fuel := 4 * cs.length + 16
  match ((parseDocument fuel).run {}).run { text := cs.toArray, horizon := readableChars start cs } with
  | .ok ((root, anchors), _) => .ok ⟨root, anchors.nodes⟩
  | .error p => .error p

end HttpRetry.Yaml
