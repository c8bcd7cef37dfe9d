import HttpRetry.Yaml.Node
import HttpRetry.Text.Quote
import HttpRetry.Text.Base64

/-!
Loading a YAML text as a table of settings. The first document's root must be a mapping (or
null, or absent); keys become names and values settings by what their scalars resolve to, and a
merge key lays the mappings it names under its own, written keys winning. Some faults (a root
that is not a mapping, a collection as a key, a repeated key) are noted and loading goes on;
others (an alias inside its node, a bad merge, a tag that does not fit) stop it at once.
-/

namespace HttpRetry.Yaml

/-- Loading state: the faults noted so far, the aliases being expanded, and counts of nodes
decoded in all and through aliases. -/
structure LoadState where
  errors : List String := []
  expanding : List Nat := []
  decoded : Nat := 0
  throughAliases : Nat := 0
  aliasDepth : Nat := 0

/-- Loading steps; an error string stops loading. -/
abbrev LoadM := StateT LoadState (Except String)

/-- At most the first seven bytes of a text: a character cut by the limit leaves one
replacement character per byte kept. -/
def firstBytes (s : String) : String :=
  let rec go : List Char → Nat → String → String
    | [], _, acc => acc
    | c :: cs, room, acc =>
      let w := (String.singleton c).utf8ByteSize
      if w ≤ room then go cs (room - w) (acc.push c)
      else acc ++ String.ofList (List.replicate room '\uFFFD')
  go s.toList 7 ""

/-- Notes that a node cannot be loaded as `target`. -/
def mismatch (n : Node) (tag : String) (target : String) : LoadM Unit := do
  let (tag, value, line) := match n with
    | .scalar v t _ l => (if t.isEmpty then tag else t, v, l)
    | .sequence _ t l => (if t.isEmpty then tag else t, "", l)
    | .mapping _ t l => (if t.isEmpty then tag else t, "", l)
    | .alias name _ _ l => (tag, name, l)
  let shown :=
    if tag == seqTag || tag == mapTag then ""
    else if value.utf8ByteSize > 10 then " `" ++ firstBytes value ++ "...`"
    else " `" ++ value ++ "`"
  modify fun st => { st with errors := st.errors ++
    ["line " ++ toString line ++ ": cannot unmarshal " ++ shortTag tag ++ shown ++ " into " ++ target] }

/-- The anchored node with identity `id`. -/
def anchoredNode (doc : Document) (id : Nat) : Node :=
  (doc.anchored.lookup id).getD (.scalar "" nullTag .plain 0)

/-- The tag a node stands under (an alias under its node's). -/
def effectiveTag (doc : Document) : Node → String
  | .scalar _ t _ _ => t
  | .sequence _ t _ => t
  | .mapping _ t _ => t
  | .alias _ _ target _ =>
    match anchoredNode doc target with
    | .scalar _ t _ _ => t
    | .sequence _ t _ => t
    | .mapping _ t _ => t
    | .alias .. => ""

/-- Counts a decoded node, and stops a document that expands aliases far beyond its size. -/
def countNode : LoadM Unit := do
  let st ← get
  let st := { st with decoded := st.decoded + 1,
                      throughAliases := st.throughAliases + (if st.aliasDepth > 0 then 1 else 0) }
  set st
  if st.throughAliases > 100 && st.decoded > 1000 && st.throughAliases * 100 > st.decoded * 99 then
    throw "yaml: document contains excessive aliasing"

/-- The setting a scalar stands for: quoted and `!!str` scalars are text, a `!!binary` scalar is
the text of the bytes its base64 stands for, and other scalars are what their text resolves to
under their tag. -/
def scalarSetting (value tag : String) : LoadM Setting :=
  if tag == strTag then pure (.text value)
  else if tag == binaryTag then
    match Text.Base64.decode? value with
    | some bytes => pure (.text (Text.decodeLossy bytes))
    | none => throw "yaml: !!binary value contains invalid base64 data"
  else
    match resolve tag value with
    | .ok (_, v) => pure v
    | .error e => throw ("yaml: " ++ e)

/-- A setting written as a map key, for keys that are not all strings. -/
def keyText : Setting → String
  | .null => "<nil>"
  | .bool b => toString b
  | .whole n _ => toString n
  | .float x => Text.Double.compactText x
  | .text s => s
  | .instant t => t.text
  | .list _ => "[]"
  | .table _ => "map[]"

/-- Whether two key nodes are the same key: the same kind and text. -/
def sameKey : Node → Node → Bool
  | .scalar a _ _ _, .scalar b _ _ _ => a == b
  | .sequence .., .sequence .. => true
  | .mapping .., .mapping .. => true
  | .alias a _ _ _, .alias b _ _ _ => a == b
  | _, _ => false

/-- Notes every key of `pairs` that repeats an earlier one; whether there was one. -/
def noteRepeats (pairs : List (Node × Node)) : LoadM Bool := do
  let rec go : List (Node × Node) → List String → List String
    | [], acc => acc
    | (k, _) :: rest, acc =>
      let later := rest.filter fun p => sameKey k p.1
      let shown := match k with
        | .scalar v .. => v
        | .alias v .. => v
        | _ => ""
      go rest (acc ++ later.map fun p =>
        "line " ++ toString p.1.line ++ ": mapping key " ++ Text.quote shown ++
          " already defined at line " ++ toString k.line)
  let found := go pairs []
  modify fun st => { st with errors := st.errors ++ found }
  return !found.isEmpty

/-- Whether a key node is a merge key: `<<` under the merge tag, which a plain `<<` has unless
its tag says otherwise. -/
def isMergeKey : Node → Bool
  | .scalar "<<" t _ _ => t == mergeTag
  | _ => false

/-- What tells keys apart when merging: a key's type and text. -/
def keyIdentity (v : Setting) : String := Setting.typeName v ++ ":" ++ keyText v

/-- A scalar's value written as a literal: null as a nil interface, an unsigned word in hex, a
double in its shortest form, a text quoted, a timestamp as the call that builds it. -/
def goScalar : Setting → String
  | .null => "interface \x7b\x7d(nil)"
  | .bool b => toString b
  | .whole n .unsigned64 => "0x" ++ String.ofList (Nat.toDigits 16 n.toNat)
  | .whole n _ => toString n
  | .float x => Text.Double.compactText x
  | .text s => Text.quote s
  | .instant t => t.goSyntax
  | .list _ => "[]interface \x7b\x7d\x7b\x7d"
  | .table _ => "map[string]interface \x7b\x7d\x7b\x7d"

/-- Entries with `additions` laid under them: an added key already present is left out. -/
def addUnder (entries additions : List (String × String)) : List (String × String) :=
  entries ++ additions.filter fun a => !entries.any (·.1 == a.1)

/-- Sets an entry, replacing an entry of the same key in place. -/
def setEntry (entries : List (String × String)) (k v : String) : List (String × String) :=
  if entries.any (·.1 == k) then entries.map fun e => if e.1 == k then (k, v) else e
  else entries ++ [(k, v)]

mutual

/-- A node's loaded value written as a literal, as the refusal of a collection used as a key
shows it: a sequence as a slice of its items, a mapping as a map of its entries in the order of
their keys (keys written as a literal too, with merged mappings laid under). -/
def goValue (doc : Document) : Nat → Node → LoadM String
  | 0, _ => throw "yaml: document too deeply nested"
  | fuel + 1, n =>
    match n with
    | .scalar v t _ _ => return goScalar (← scalarSetting v t)
    | .sequence items _ _ => do
      let parts ← goItems doc fuel items
      return "[]interface \x7b\x7d\x7b" ++ ", ".intercalate parts ++ "\x7d"
    | .mapping pairs _ _ => do
      let stringKeys := pairs.all fun p =>
        let t := effectiveTag doc p.1
        t == strTag || t == mergeTag
      let entries ← goEntries doc fuel pairs
      let sorted := entries.mergeSort fun a b => decide (a.1 ≤ b.1)
      let kind :=
        if stringKeys then "map[string]interface {}" else "map[interface \x7b\x7d]interface \x7b\x7d"
      return kind ++ "\x7b" ++ ", ".intercalate (sorted.map fun (k, v) => k ++ ":" ++ v) ++ "\x7d"
    | .alias _ _ target _ => goValue doc fuel (anchoredNode doc target)

/-- The items of a sequence written as a literal. -/
def goItems (doc : Document) : Nat → List Node → LoadM (List String)
  | 0, _ => throw "yaml: document too deeply nested"
  | _, [] => pure []
  | fuel + 1, n :: rest => do
    let here ← goValue doc fuel n
    return here :: (← goItems doc fuel rest)

/-- Pairs written as a literal, set one by one into `acc`: a later key replaces an earlier one. -/
def goPairs (doc : Document) : Nat → List (Node × Node) → List (String × String) →
    LoadM (List (String × String))
  | 0, _, _ => throw "yaml: document too deeply nested"
  | _, [], acc => pure acc
  | fuel + 1, (k, v) :: rest, acc => do
    let key ← goValue doc fuel k
    let value ← goValue doc fuel v
    goPairs doc fuel rest (setEntry acc key value)

/-- The entries of a mapping written as a literal: its own pairs, with the entries that its last
merge key brings laid under them. -/
def goEntries (doc : Document) : Nat → List (Node × Node) → LoadM (List (String × String))
  | 0, _ => throw "yaml: document too deeply nested"
  | fuel + 1, pairs => do
    let own ← goPairs doc fuel (pairs.filter fun p => !isMergeKey p.1) []
    match (pairs.filter fun p => isMergeKey p.1).getLast? with
    | none => return own
    | some (_, m) => return addUnder own (← goMerged doc fuel m)

/-- The entries a merge key brings: those of its mapping, or of its mappings (an earlier one
winning over a later one). -/
def goMerged (doc : Document) : Nat → Node → LoadM (List (String × String))
  | 0, _ => throw "yaml: document too deeply nested"
  | fuel + 1, m =>
    match m with
    | .mapping pairs _ _ => goEntries doc fuel pairs
    | .alias _ _ target _ =>
      match anchoredNode doc target with
      | .mapping pairs _ _ => goEntries doc fuel pairs
      | _ => throw "yaml: map merge requires map or sequence of maps as the value"
    | .sequence (n :: ns) t l => do
      let first ← goMerged doc fuel n
      let more ← goMerged doc fuel (.sequence ns t l)
      return addUnder first more
    | .sequence [] _ _ => pure []
    | _ => throw "yaml: map merge requires map or sequence of maps as the value"

end

/-- A loaded mapping: its table and the identities of the keys a merge must leave alone. -/
abbrev Merged := List (String × Setting) × List String

mutual

/-- Loads a node as a loosely typed value; `none` when the node is dropped. -/
def loadValue (doc : Document) : Nat → Node → LoadM (Option Setting)
  | 0, _ => throw "yaml: document too deeply nested"
  | fuel + 1, n => do
    countNode
    match n with
    | .scalar v t _ _ => return some (← scalarSetting v t)
    | .sequence items _ _ =>
      let vs ← loadItems doc fuel items
      return some (.list vs)
    | .mapping pairs _ _ =>
      let stringKeys := pairs.all fun p =>
        let t := effectiveTag doc p.1
        t == strTag || t == mergeTag
      return (← loadMapping doc fuel pairs stringKeys [] none).map (.table ·.1)
    | .alias name self target _ =>
      if (← get).expanding.contains self then
        throw ("yaml: anchor '" ++ name ++ "' value contains itself")
      modify fun st => { st with expanding := self :: st.expanding, aliasDepth := st.aliasDepth + 1 }
      let r ← loadValue doc fuel (anchoredNode doc target)
      modify fun st => { st with expanding := st.expanding.erase self, aliasDepth := st.aliasDepth - 1 }
      return r

/-- Loads the items of a sequence, dropping those that are dropped. -/
def loadItems (doc : Document) : Nat → List Node → LoadM (List Setting)
  | 0, _ => throw "yaml: document too deeply nested"
  | _, [] => pure []
  | fuel + 1, n :: rest => do
    let v ← loadValue doc fuel n
    let vs ← loadItems doc fuel rest
    return (match v with | some x => x :: vs | none => vs)

/-- Loads a key as its name and identity: as text when the table's keys are strings (the text as
written, or the text a `!!binary` key stands for; a null key gives `none`, a collection a noted
fault), else as a value written out as text. -/
def loadKey (doc : Document) : Nat → Bool → Node → LoadM (Option (String × String))
  | 0, _, _ => throw "yaml: document too deeply nested"
  | fuel + 1, stringKeys, n => do
    if !stringKeys then
      match ← loadValue doc fuel n with
      | some (.list _) | some (.table _) =>
        throw ("yaml: invalid map key: " ++ (← goValue doc fuel n))
      | some v => return some (keyText v, keyIdentity v)
      | none => return none
    countNode
    match n with
    | .scalar v t _ _ =>
      match ← scalarSetting v t with
      | .null => return none
      | .text decoded => do
        let name := if t == binaryTag then decoded else v
        return some (name, keyIdentity (.text name))
      | _ => return some (v, keyIdentity (.text v))
    | .sequence .. =>
      mismatch n seqTag "string"
      return none
    | .mapping .. =>
      mismatch n mapTag "string"
      return none
    | .alias name self target _ =>
      if (← get).expanding.contains self then
        throw ("yaml: anchor '" ++ name ++ "' value contains itself")
      modify fun st => { st with expanding := self :: st.expanding, aliasDepth := st.aliasDepth + 1 }
      let r ← loadKey doc fuel stringKeys (anchoredNode doc target)
      modify fun st => { st with expanding := st.expanding.erase self, aliasDepth := st.aliasDepth - 1 }
      return r

/-- Loads the pairs of a mapping into the table `into`. With `kept`, a key whose identity is
in `kept` is not set again (a merged mapping gives way), and the keys met are added to it.
The value of the last merge key is merged after the other pairs. `none` when a key repeats. -/
def loadMapping (doc : Document) : Nat → List (Node × Node) → Bool →
    List (String × Setting) → Option (List String) → LoadM (Option Merged)
  | 0, _, _, _, _ => throw "yaml: document too deeply nested"
  | fuel + 1, pairs, stringKeys, into, kept => do
    if ← noteRepeats pairs then return none
    let (table, merge, kept) ← loadPairs doc fuel pairs stringKeys into kept none
    match merge with
    | none => return some (table, kept.getD [])
    | some m =>
      let kept ← match kept with
        | some k => pure k
        | none => keyIdentities doc fuel pairs
      return some (← loadMerge doc fuel m stringKeys (table, kept))

/-- Loads pairs one by one, holding back the value of the last merge key. -/
def loadPairs (doc : Document) : Nat → List (Node × Node) → Bool → List (String × Setting) →
    Option (List String) → Option Node →
    LoadM (List (String × Setting) × Option Node × Option (List String))
  | 0, _, _, _, _, _ => throw "yaml: document too deeply nested"
  | _, [], _, table, kept, merge => pure (table, merge, kept)
  | fuel + 1, (k, v) :: rest, stringKeys, table, kept, merge => do
    if isMergeKey k then
      loadPairs doc fuel rest stringKeys table kept (some v)
    else
      match ← loadKey doc fuel stringKeys k with
      | none => loadPairs doc fuel rest stringKeys table kept merge
      | some (name, id) =>
        if (kept.map (·.contains id)).getD false then
          loadPairs doc fuel rest stringKeys table kept merge
        else
          let kept := kept.map (· ++ [id])
          match ← loadValue doc fuel v with
          | some x => loadPairs doc fuel rest stringKeys (Setting.putEntry table name x) kept merge
          | none => loadPairs doc fuel rest stringKeys table kept merge

/-- The identities of the keys written in a mapping, merge keys included. -/
def keyIdentities (doc : Document) : Nat → List (Node × Node) → LoadM (List String)
  | 0, _ => throw "yaml: document too deeply nested"
  | _, [] => pure []
  | fuel + 1, (k, _) :: rest => do
    let here ← loadValue doc fuel k
    let more ← keyIdentities doc fuel rest
    return (match here with | some v => keyIdentity v :: more | none => more)

/-- Lays the mapping (or the mappings, in order) a merge key names under the table. -/
def loadMerge (doc : Document) : Nat → Node → Bool → Merged → LoadM Merged
  | 0, _, _, _ => throw "yaml: document too deeply nested"
  | fuel + 1, m, stringKeys, (table, kept) => do
    let wantMap := "yaml: map merge requires map or sequence of maps as the value"
    match m with
    | .mapping pairs _ _ =>
      return (← loadMapping doc fuel pairs stringKeys table (some kept)).getD (table, kept)
    | .alias name self target _ =>
      match anchoredNode doc target with
      | .mapping pairs _ _ =>
        if (← get).expanding.contains self then
          throw ("yaml: anchor '" ++ name ++ "' value contains itself")
        modify fun st => { st with expanding := self :: st.expanding, aliasDepth := st.aliasDepth + 1 }
        let r ← loadMapping doc fuel pairs stringKeys table (some kept)
        modify fun st => { st with expanding := st.expanding.erase self, aliasDepth := st.aliasDepth - 1 }
        return r.getD (table, kept)
      | _ => throw wantMap
    | .sequence (n :: ns) t l =>
      match n with
      | .mapping .. | .alias _ _ _ _ =>
        let r ← loadMerge doc fuel n stringKeys (table, kept)
        loadMerge doc fuel (.sequence ns t l) stringKeys r
      | _ => throw wantMap
    | .sequence [] _ _ => return (table, kept)
    | _ => throw wantMap

end

/-- Loads the root of a document as a table; `none` when there is no table (no document, a
null root, or a root that is not a mapping, which is noted). -/
def loadRoot (doc : Document) : LoadM (Option (List (String × Setting))) := do
  let fuel := 100000
  match doc.root with
  | none => return none
  | some root =>
    let root := match root with
      | .alias _ _ target _ => anchoredNode doc target
      | other => other
    match root with
    | .mapping pairs _ _ => return (← loadMapping doc fuel pairs true [] none).map (·.1)
    | .scalar v t _ _ =>
      match ← scalarSetting v t with
      | .null => return none
      | _ =>
        mismatch root t "map[string]interface {}"
        return none
    | .sequence _ t _ =>
      mismatch root t "map[string]interface {}"
      return none
    | .alias .. => return none

/-- The settings a YAML text holds at its top level, or the text of what is wrong with it. -/
def loadSettings (text : String) : Except String (List (String × Setting)) :=
  match Document.ofText text with
  | .error p => .error p.message
  | .ok doc =>
    match (loadRoot doc).run {} with
    | .error e => .error e
    | .ok (table, st) =>
      if st.errors.isEmpty then .ok (table.getD [])
      else .error ("yaml: unmarshal errors:\n  " ++ "\n  ".intercalate st.errors)

end HttpRetry.Yaml
