import FacetSearch.Text.Csv

/-!
# Reading tables

A reader of tables in quoted cells takes one character after another. Between quotes a character stands
for itself and two quotes for one; elsewhere a semicolon ends a cell, and a carriage return with a line
feed a record. What was written is read as it was.
-/

namespace FacetSearch.Text.Csv

inductive Place where
  | start
  | bare
  | quoted
  /-- Behind a quote of a quoted cell, which ends the cell unless another one follows. -/
  | closing
  /-- Between the two characters of a line break. -/
  | breaking
  deriving DecidableEq, Repr

/-- What was read: whole records, the cells before the current one, and the text of that so far. -/
structure Reader where
  records : List (List String) := []
  cells : List String := []
  text : List Char := []
  place : Place := .start
  deriving DecidableEq, Repr

namespace Reader

def leave (r : Reader) (c : Char) : Option Reader :=
  let ended := { r with cells := r.cells ++ [String.ofList r.text], text := [] }
  if c = ';' then some { ended with place := .start }
  else if c = '\r' then some { ended with place := .breaking }
  else none

def take (r : Reader) (c : Char) (place : Place) : Reader :=
  { r with text := r.text ++ [c], place }

/-- A quote within a cell without quotes is refused, and so is half a line break. -/
def step (r : Reader) (c : Char) : Option Reader :=
  match r.place with
  | .start =>
    if c = '"' then some { r with place := .quoted }
    else if c = '\n' then none
    else (r.leave c).or (some (r.take c .bare))
  | .bare => if c = '"' ∨ c = '\n' then none else (r.leave c).or (some (r.take c .bare))
  | .quoted => some (if c = '"' then { r with place := .closing } else r.take c .quoted)
  | .closing => if c = '"' then some (r.take '"' .quoted) else r.leave c
  | .breaking =>
    if c = '\n' then some { records := r.records ++ [r.cells] } else none

end Reader

/-- The records of a table; the last one too must be ended. -/
def read? (cs : List Char) : Option (List (List String)) := do
  let r ← cs.foldlM Reader.step {}
  if r.place = .start ∧ r.cells = [] then some r.records else none

/-! ### What was written -/

section

variable (records : List (List String)) (cells : List String) (text : List Char)

theorem step_inner {c : Char} (other : c ≠ '"') : Reader.step ⟨records, cells, text, .quoted⟩ c =
    some ⟨records, cells, text ++ [c], .quoted⟩ :=
  congrArg some (if_neg other)

/-- Between quotes no character ends the cell, whatever it does elsewhere. -/
theorem foldlM_escape (cs : List Char) :
    (escape cs).foldlM Reader.step ⟨records, cells, text, .quoted⟩ =
      some ⟨records, cells, text ++ cs, .quoted⟩ := by
  induction cs generalizing text with
  | nil =>
    rw [List.append_nil]
    rfl
  | cons c rest ih =>
    have onward := ih (text ++ [c])
    rw [List.append_assoc, List.singleton_append] at onward
    rw [escape]
    split
    · -- The first quote seems to end the cell, the second one takes that back.
      rename_i quote
      subst quote
      exact onward
    · rename_i other
      rw [List.foldlM_cons, step_inner records cells text other]
      exact onward

theorem foldlM_cell (s : String) : (cell s).foldlM Reader.step ⟨records, cells, [], .start⟩ =
    some ⟨records, cells, s.toList, .closing⟩ := by
  have opened : Reader.step ⟨records, cells, [], .start⟩ '"' = some ⟨records, cells, [], .quoted⟩ := rfl
  rw [cell, List.foldlM_cons, opened, Option.bind_eq_bind, Option.bind_some, List.foldlM_append,
    foldlM_escape]
  rfl

theorem step_ended (s : String) : Reader.step ⟨records, cells, s.toList, .closing⟩ ';' =
    some ⟨records, cells ++ [s], [], .start⟩ := by
  simp [Reader.step, Reader.leave]

theorem foldlM_break (s : String) : ['\r', '\n'].foldlM Reader.step ⟨records, cells, s.toList, .closing⟩ =
    some { records := records ++ [cells ++ [s]] } := by
  simp [Reader.step, Reader.leave]

/-- A record is read cell by cell; behind each stands a semicolon or the line break. -/
theorem foldlM_row (s : String) (rest : List String) :
    (row (s :: rest)).foldlM Reader.step ⟨records, cells, [], .start⟩ =
      some { records := records ++ [cells ++ s :: rest] } := by
  induction rest generalizing cells s with
  | nil =>
    rw [row, List.map_singleton, List.intercalate_singleton, List.foldlM_append, foldlM_cell]
    exact foldlM_break records cells s
  | cons next rest ih =>
    have parts : row (s :: next :: rest) = cell s ++ ';' :: row (next :: rest) := by
      simp [row, List.intercalate]
    rw [parts, List.foldlM_append, foldlM_cell, Option.bind_eq_bind, Option.bind_some,
      List.foldlM_cons, step_ended, Option.bind_eq_bind, Option.bind_some, ih, List.append_assoc,
      List.singleton_append]

theorem foldlM_rows {rows : List (List String)} (filled : ∀ row ∈ rows, row ≠ []) :
    (rows.flatMap row).foldlM Reader.step { records } = some { records := records ++ rows } := by
  induction rows generalizing records with
  | nil =>
    rw [List.append_nil]
    rfl
  | cons first rest ih =>
    obtain ⟨s, others, rfl⟩ := List.exists_cons_of_ne_nil (filled first List.mem_cons_self)
    rw [List.flatMap_cons, List.foldlM_append, foldlM_row, Option.bind_eq_bind, Option.bind_some,
      ih _ fun row later => filled row (List.mem_cons_of_mem _ later), List.append_assoc,
      List.nil_append, List.singleton_append]

end

/-- The rows of a table are read as they were written, if none is without cells. -/
theorem read?_rows {rows : List (List String)} (filled : ∀ row ∈ rows, row ≠ []) :
    read? (rows.flatMap row) = some rows := by
  rw [read?, foldlM_rows [] filled]
  rfl

/-- Cells may stand without quotes, but not be left open. -/
example : read? "1;\"a;\"\"b\"\r\n".toList = some [["1", "a;\"b"]] ∧ read? "\"a\r\n".toList = none := by
  decide

end FacetSearch.Text.Csv
