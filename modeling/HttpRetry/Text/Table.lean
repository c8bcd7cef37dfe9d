/-!
Aligned text tables.

Each row is a list of cells. Every cell but the last of its row belongs to a column, and a column
is as wide as its widest cell (counted in characters) plus the padding; cells are left-aligned and
filled with spaces to their column's width. The last cell of a row is written as it is, so
trailing cells are never padded. Tables here have the same number of cells in every row.
-/

namespace HttpRetry.Text

/-- A text filled with spaces on the right to `width` characters. -/
def padRight (width : Nat) (s : String) : String :=
  s ++ String.ofList (List.replicate (width - s.length) ' ')

/-- The widths of the columns of a table: for each column, the widest cell in it plus the
padding. -/
def columnWidths (padding : Nat) (rows : List (List String)) : List Nat :=
  let columns := (rows.map fun r => r.length - 1).foldl max 0
  (List.range columns).map fun k =>
    (rows.map fun r => if k + 1 < r.length then (r.getD k "").length else 0).foldl max 0 + padding

/-- A row written with the column widths. -/
def rowText (widths : List Nat) : List String → String
  | [] => ""
  | [last] => last
  | cell :: rest => padRight (widths.headD 0) cell ++ rowText (widths.drop 1) rest

/-- The lines of a table with `padding` spaces after the widest cell of each column. -/
def table (padding : Nat) (rows : List (List String)) : List String :=
  let widths := columnWidths padding rows
  rows.map (rowText widths)

end HttpRetry.Text
