import FacetSearch.Text.Split

/-!
# Tables as text

Cells between quotes, a quote inside a cell written twice, semicolons between the cells of a row, and
a line break behind every row.
-/

namespace FacetSearch.Text.Csv

def escape : List Char → List Char
  | [] => []
  | c :: rest => if c = '"' then '"' :: '"' :: escape rest else c :: escape rest

def cell (s : String) : List Char :=
  '"' :: (escape s.toList ++ ['"'])

def row (cells : List String) : List Char :=
  [';'].intercalate (cells.map cell) ++ ['\r', '\n']

def table (rows : List (List String)) : String :=
  String.ofList ('\uFEFF' :: rows.flatMap row)

end FacetSearch.Text.Csv
