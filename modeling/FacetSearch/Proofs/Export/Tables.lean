import FacetSearch.Export
import FacetSearch.Proofs.Text.Bytes
import FacetSearch.Proofs.Text.Csv

/-!
# Exported tables are read again

An exported table begins with a mark of the byte order. What follows is read as the names of the columns
and one record for each hit, every cell as it was found in the record.
-/

namespace FacetSearch.Export

variable (documentType : DocumentType) (page : ResultPage)

theorem columns_ne_nil : documentType.columns ≠ [] := by
  cases documentType <;> exact List.cons_ne_nil _ _

def rows : List (List String) :=
  documentType.columns.map (·.header) :: page.hits.map (row documentType.columns)

theorem rows_ne_nil : ∀ cells ∈ rows documentType page, cells ≠ [] := by
  intro cells member
  rcases List.mem_cons.mp member with rfl | member
  · exact fun empty => columns_ne_nil documentType (List.map_eq_nil_iff.mp empty)
  · obtain ⟨record, -, rfl⟩ := List.mem_map.mp member
    exact fun empty => columns_ne_nil documentType (List.map_eq_nil_iff.mp empty)

theorem table_eq : table documentType page =
    String.ofList ('\uFEFF' :: (rows documentType page).flatMap Text.Csv.row) := rfl

theorem head?_rows : ((rows documentType page).flatMap Text.Csv.row).head? = some '"' := by
  cases documentType <;> rfl

/-- A table begins with one mark of the byte order. A reader finds behind it the names of the columns,
and for each record a row with a cell for each column: what stands in the record at the column's path. -/
theorem table_read : ∃ (written : List Char) (header : List String) (records : List (List String)),
    table documentType page = String.ofList ('\uFEFF' :: written) ∧
    Text.Utf8.bytes (table documentType page) =
      [0xEF, 0xBB, 0xBF] ++ Text.Utf8.bytes (String.ofList written) ∧
    written.head? = some '"' ∧
    Text.Csv.read? written = some (header :: records) ∧
    header = documentType.columns.map (·.header) ∧
    records.length = page.hits.length ∧
    ∀ (i : Nat) (hit : Json), page.hits[i]? = some hit → ∃ record : List String,
      records[i]? = some record ∧ record.length = documentType.columns.length ∧
      ∀ (j : Nat) (column : Column), documentType.columns[j]? = some column →
        record[j]? = some (cell hit column.path) := by
  refine ⟨(rows documentType page).flatMap Text.Csv.row, _, page.hits.map (row documentType.columns),
    table_eq documentType page, ?_, head?_rows documentType page,
    Text.Csv.read?_rows (rows_ne_nil documentType page), rfl, List.length_map _, ?_⟩
  · rw [table_eq, Text.Utf8.bytes_ofList, Text.Utf8.bytes_ofList, List.flatMap_cons]
    rfl
  · intro i hit shown
    refine ⟨row documentType.columns hit, ?_, List.length_map _, fun j column listed => ?_⟩
    · rw [List.getElem?_map, shown, Option.map_some]
    · rw [row, List.getElem?_map, listed, Option.map_some]

end FacetSearch.Export
