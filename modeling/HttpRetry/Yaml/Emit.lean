import HttpRetry.Yaml.Scalar
import HttpRetry.Text.Quote

/-!
Writing YAML documents in block style with two spaces of indentation, empty collections as `[]`
and `{}`. A text is written plain only when reading it back gives the same text, of the same
type; otherwise it is single-quoted, or double-quoted with escapes when single quotes cannot hold
it or its plain reading would be another type.
-/

namespace HttpRetry.Yaml

/-- A document to write. -/
inductive Doc where
  | text (s : String)
  /-- A number, written as it is. -/
  | number (s : String)
  | list (items : List Doc)
  | map (entries : List (String × Doc))

/-- Whether a text reads as a boolean in older YAML. -/
def isOldBool (s : String) : Bool :=
  ["y", "Y", "yes", "Yes", "YES", "on", "On", "ON", "n", "N", "no", "No", "NO", "off", "Off",
    "OFF"].contains s

/-- Whether a text reads as a sexagesimal number: `[-+]?[0-9][0-9_]*(:[0-5]?[0-9])+(\.[0-9_]*)?`. -/
def isSexagesimal (s : String) : Bool :=
  let cs := match s.toList with
    | '+' :: r => r
    | '-' :: r => r
    | r => r
  let digitish := fun (c : Char) => c.isDigit || c == '_'
  match cs with
  | c :: rest =>
    if !c.isDigit then false
    else
      let rest := rest.dropWhile digitish
      let rec groups : Nat → List Char → Bool → Option (List Char)
        | 0, r, seen => if seen then some r else none
        | fuel + 1, r, seen =>
          match r with
          | ':' :: a :: b :: r2 =>
            if a.isDigit && a.toNat ≤ '5'.toNat && b.isDigit then groups fuel r2 true
            else if a.isDigit then groups fuel (b :: r2) true
            else if seen then some (':' :: a :: b :: r2) else none
          | ':' :: [a] => if a.isDigit then some [] else if seen then some (':' :: [a]) else none
          | r => if seen then some r else none
      match groups (rest.length + 1) rest false with
      | none => false
      | some tail =>
        match tail with
        | [] => true
        | '.' :: r => r.all digitish
        | _ => false
  | [] => false

/-- Whether a character may be written as it is: a line feed, printable ASCII, or a character
of the basic plane from U+00A0 on that is not a surrogate, a byte-order mark or a non-character. -/
def yamlPrintable (c : Char) : Bool :=
  let n := c.toNat
  n == 0x0A || (0x20 ≤ n && n ≤ 0x7E) || (0xA0 ≤ n && n ≤ 0xD7FF) ||
    (0xE000 ≤ n && n ≤ 0xFFFD && n != 0xFEFF)

/-- What a text allows in block context: a plain scalar, a single-quoted one. -/
def plainAndQuotable (s : String) : Bool × Bool :=
  let cs := s.toList
  if cs.isEmpty then (true, true)
  else
    let n := cs.length
    let marker := n ≥ 3 && (cs.take 3 == ['-', '-', '-'] || cs.take 3 == ['.', '.', '.'])
    let blank := fun (c : Char) => c == ' ' || c == '\t'
    let lineBreak := fun (c : Char) =>
      c == '\n' || c == '\r' || c == '\u0085' || c == '\u2028' || c == '\u2029'
    let indexed := (List.range n).zip cs
    let indicator := indexed.any fun (i, c) =>
      let followedByBlank := i + 1 ≥ n || blank (cs.getD (i + 1) ' ')
      let precededByBlank := i == 0 || blank (cs.getD (i - 1) ' ') || lineBreak (cs.getD (i - 1) ' ')
      if i == 0 then
        "#,[]{}&*!|>'\"%@`".contains c || ((c == '?' || c == ':' || c == '-') && followedByBlank)
      else (c == ':' && followedByBlank) || (c == '#' && precededByBlank)
    let special := cs.any fun c => c != '\t' && !yamlPrintable c
    let tabs := cs.contains '\t'
    let breaks := cs.any lineBreak
    let edgeSpace := blank (cs.getD 0 ' ') || blank (cs.getD (n - 1) ' ') || lineBreak (cs.getD 0 ' ') ||
      lineBreak (cs.getD (n - 1) ' ')
    let spaceBreak := indexed.any fun (i, c) => i + 1 < n && c == ' ' && lineBreak (cs.getD (i + 1) ' ')
    let breakSpace := indexed.any fun (i, c) => i + 1 < n && lineBreak c && cs.getD (i + 1) ' ' == ' '
    let plain := !(marker || indicator || special || tabs || breaks || edgeSpace || spaceBreak || breakSpace)
    let quotable := !(special || tabs || spaceBreak || breakSpace)
    (plain, quotable)

/-- A character inside double quotes: escaped when it is not printable, a byte-order mark, a
line break, a quote or a backslash. -/
def doubleQuotedChar (c : Char) : String :=
  let lineBreak := c == '\n' || c == '\r' || c == '\u0085' || c == '\u2028' || c == '\u2029'
  if yamlPrintable c && c != '\uFEFF' && !lineBreak && c != '"' && c != '\\' then c.toString
  else
    match c with
    | '"' => "\\\""
    | '\\' => "\\\\"
    | '\x00' => "\\0"
    | '\x07' => "\\a"
    | '\x08' => "\\b"
    | '\t' => "\\t"
    | '\n' => "\\n"
    | '\x0b' => "\\v"
    | '\x0c' => "\\f"
    | '\r' => "\\r"
    | '\x1b' => "\\e"
    | '\u0085' => "\\N"
    | '\u2028' => "\\L"
    | '\u2029' => "\\P"
    | c =>
      if c.toNat ≤ 0xFF then "\\x" ++ (Text.hexPadded 2 c.toNat).toUpper
      else if c.toNat ≤ 0xFFFF then "\\u" ++ (Text.hexPadded 4 c.toNat).toUpper
      else "\\U" ++ (Text.hexPadded 8 c.toNat).toUpper

/-- A text as a scalar: see the module comment. -/
def scalarText (s : String) : String :=
  let readsAsText := (resolvePlain s true).1 == strTag && !isSexagesimal s && !isOldBool s
  let (plain, quotable) := plainAndQuotable s
  if readsAsText && plain && !s.isEmpty then s
  else if readsAsText && quotable then "'" ++ String.join (s.toList.map fun c => if c == '\'' then "''" else c.toString) ++ "'"
  else "\"" ++ String.join (s.toList.map doubleQuotedChar) ++ "\""

/-- Spaces for an indentation. -/
def pad (n : Nat) : String := String.ofList (List.replicate n ' ')

/-- Puts a list marker at `indent` in front of lines indented by `indent + 2`. -/
def marked (indent : Nat) : List String → List String
  | [] => []
  | first :: rest => (pad indent ++ "- " ++ String.ofList (first.toList.drop (indent + 2))) :: rest

/-- The text of a scalar document. -/
def Doc.scalar : Doc → String
  | .text s => scalarText s
  | .number s => s
  | .list _ => "[]"
  | .map _ => "{}"

mutual

/-- The lines of mapping entries at `indent`. -/
def entryLines (indent : Nat) : List (String × Doc) → List String
  | [] => []
  | (k, v) :: rest => valueLines indent (scalarText k) v ++ entryLines indent rest

/-- The lines of one mapping entry with key text `k` at `indent`. -/
def valueLines (indent : Nat) (k : String) : Doc → List String
  | .list (i :: is) => (pad indent ++ k ++ ":") :: itemLines (indent + 2) (i :: is)
  | .map (e :: es) => (pad indent ++ k ++ ":") :: entryLines (indent + 2) (e :: es)
  | v => [pad indent ++ k ++ ": " ++ v.scalar]

/-- The lines of list items at `indent`. -/
def itemLines (indent : Nat) : List Doc → List String
  | [] => []
  | d :: rest => itemOf indent d ++ itemLines indent rest

/-- The lines of one list item at `indent`. -/
def itemOf (indent : Nat) : Doc → List String
  | .list (i :: is) => marked indent (itemLines (indent + 2) (i :: is))
  | .map (e :: es) => marked indent (entryLines (indent + 2) (e :: es))
  | v => [pad indent ++ "- " ++ v.scalar]

end

/-- A whole document as text, each line ended by a line break. -/
def Doc.render (d : Doc) : String :=
  let lines := match d with
    | .map (e :: es) => entryLines 0 (e :: es)
    | .list (i :: is) => itemLines 0 (i :: is)
    | v => [v.scalar]
  String.join (lines.map (· ++ "\n"))

end HttpRetry.Yaml
