/-!
Header maps: names with lists of values. A name is stored as given; the operations that look a
name up, set it or add to it first bring the name to its canonical form (`canonicalName`: the
first letter and every letter after a dash in upper case, the rest in lower case), so a name
stored in another spelling is not found by them.

A header keeps its names in the order they were first stored; `lines` lists every value as
`Name: value`, sorted, so that no order of storage shows.
-/

namespace HttpRetry

/-- A character allowed in a header name (a token character). -/
def isTokenChar (c : Char) : Bool :=
  c.isAlphanum || "!#$%&'*+-.^_`|~".contains c

/-- A valid header name: one or more token characters. -/
def isHeaderName (s : String) : Bool :=
  !s.isEmpty && s.all isTokenChar

/-- The canonical form of a header name: if the name has only token characters, its first
letter and each letter after a dash in upper case and the other letters in lower case;
otherwise the name unchanged. -/
def canonicalName (s : String) : String :=
  if s.all isTokenChar then
    let step (acc : List Char × Bool) (c : Char) : List Char × Bool :=
      let c' := if acc.2 then c.toUpper else c.toLower
      (c' :: acc.1, c' == '-')
    String.ofList (s.toList.foldl step ([], true)).1.reverse
  else s

/-- A header map: each stored name with its values, in the order the names were first stored. -/
structure Header where
  entries : List (String × List String) := []
  deriving Inhabited, BEq, Repr

namespace Header

/-- The values stored under exactly this name. -/
def valuesRaw (h : Header) (name : String) : List String :=
  match h.entries.find? (·.1 == name) with
  | some e => e.2
  | none => []

/-- The values under the canonical form of the name. -/
def values (h : Header) (name : String) : List String := h.valuesRaw (canonicalName name)

/-- The first value under the canonical form of the name, or the empty text. -/
def get (h : Header) (name : String) : String := (h.values name).headD ""

/-- Stores the values under exactly this name, replacing what it held. -/
def putRaw (h : Header) (name : String) (vs : List String) : Header :=
  if h.entries.any (·.1 == name) then
    ⟨h.entries.map fun e => if e.1 == name then (name, vs) else e⟩
  else ⟨h.entries ++ [(name, vs)]⟩

/-- Makes the value the only one under the canonical form of the name. -/
def set (h : Header) (name value : String) : Header := h.putRaw (canonicalName name) [value]

/-- Adds a value after those under the canonical form of the name. -/
def add (h : Header) (name value : String) : Header :=
  let k := canonicalName name
  h.putRaw k (h.valuesRaw k ++ [value])

/-- Adds a value after those stored under exactly this name. -/
def addRaw (h : Header) (name value : String) : Header :=
  h.putRaw name (h.valuesRaw name ++ [value])

/-- Every value as a line `Name: value`, sorted. -/
def lines (h : Header) : List String :=
  (h.entries.flatMap fun e => e.2.map fun v => e.1 ++ ": " ++ v).mergeSort (· ≤ ·)

end Header

end HttpRetry
