import HttpRetry.Time.Timestamp

/-!
Setting values: the loosely typed tree a configuration is read into before it is given its types.
A whole number remembers the kind of word it arrived as, table entries keep their order, and
`Setting.overlay` lays one table over another, the upper value winning.
-/

namespace HttpRetry

/-- The kind of word a whole number arrived as. -/
inductive WholeKind where
  | word
  | word64
  | unsigned64
  deriving DecidableEq, Repr

/-- The name of a kind of word. -/
def WholeKind.name : WholeKind → String
  | .word => "int"
  | .word64 => "int64"
  | .unsigned64 => "uint64"

/-- A loosely typed setting. -/
inductive Setting where
  | null
  | bool (b : Bool)
  | whole (n : Int) (kind : WholeKind)
  | float (x : Float)
  | text (s : String)
  | instant (t : Time.Timestamp)
  | list (items : List Setting)
  | table (entries : List (String × Setting))
  deriving Inhabited

namespace Setting

/-- The name of a value's type, as conversions report it. -/
def typeName : Setting → String
  | .null => "<nil>"
  | .bool _ => "bool"
  | .whole _ k => k.name
  | .float _ => "float64"
  | .text _ => "string"
  | .instant _ => "time.Time"
  | .list _ => "[]interface {}"
  | .table _ => "map[string]interface {}"

/-- The name of a value's shape, as conversions to records report it. -/
def shapeName : Setting → String
  | .null => "invalid"
  | .bool _ => "bool"
  | .whole _ k => k.name
  | .float _ => "float64"
  | .text _ => "string"
  | .instant _ => "struct"
  | .list _ => "slice"
  | .table _ => "map"

/-- The entries of a table with `name` set to `v`, in place if the name is there, else last. -/
def putEntry (entries : List (String × Setting)) (name : String) (v : Setting) :
    List (String × Setting) :=
  if entries.any (·.1 == name) then entries.map fun e => if e.1 == name then (name, v) else e
  else entries ++ [(name, v)]

mutual
/-- Lays `upper` over `lower`: see the module comment. -/
def overlay : Setting → Setting → Setting
  | .table upper, .table lower => .table (overlayEntries upper lower)
  | upper, _ => upper

/-- Lays the entries `upper` over the entries `lower`, one by one. -/
def overlayEntries : List (String × Setting) → List (String × Setting) → List (String × Setting)
  | [], lower => lower
  | (name, v) :: rest, lower =>
    let merged := match lower.find? (·.1 == name), v with
      | some (_, old@(.table _)), .table _ => overlay v old
      | _, _ => v
    overlayEntries rest (putEntry lower name merged)
end

/-- The table found at `name` in `entries`, if the name holds a table. -/
def tableAt (entries : List (String × Setting)) (name : String) : Option (List (String × Setting)) :=
  match entries.find? (·.1 == name) with
  | some (_, .table t) => some t
  | _ => none

/-- Puts `v` at the dotted path `path` inside `entries`, creating tables on the way. A step
whose name holds something other than a table is passed over, so what follows it is placed one
level higher. -/
def putPath : List String → Setting → List (String × Setting) → List (String × Setting)
  | [], _, entries => entries
  | [name], v, entries => putEntry entries name v
  | name :: rest, v, entries =>
    match entries.find? (·.1 == name) with
    | none => putEntry entries name (.table (putPath rest v []))
    | some (_, .table t) => putEntry entries name (.table (putPath rest v t))
    | some _ => putPath rest v entries

/-- A table whose dotted names are split into nested tables, name by name in order. -/
def nest (entries : List (String × Setting)) : List (String × Setting) :=
  entries.foldl (fun acc e => putPath (e.1.splitOn ".") e.2 acc) []

end Setting

end HttpRetry
