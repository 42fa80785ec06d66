import Mathlib.Data.List.Basic
import Mathlib.Data.List.Induction
import Mathlib.Order.Bounds.Lattice
import TypeDocs.Console

/-!
# Widths of columns

A column is as wide as the longest of its texts, the header among them. A table can be made by
number as well: every cell looks up the width of its column where it stands in one. No look goes
beyond the widths, whatever shape the rows have, and the table is the same.
-/

namespace TypeDocs.Console

variable {headers row : List String} {rows : List (List String)} {ws : List Nat} {i k : Nat}

@[simp] theorem length_widths (headers : List String) (rows : List (List String)) :
    (widths headers rows).length = headers.length :=
  List.length_mapIdx

section Greatest

/-- The lengths of the texts in a column. -/
def columnLengths (rows : List (List String)) (i : Nat) : Set Nat :=
  {n | ∃ row ∈ rows, ∃ cell, row[i]? = some cell ∧ cell.length = n}

theorem columnLengths_append (rows others : List (List String)) (i : Nat) :
    columnLengths (rows ++ others) i = columnLengths rows i ∪ columnLengths others i := by
  ext n
  simp only [columnLengths, List.mem_append, or_and_right, exists_or, Set.mem_union,
    Set.mem_ofPred_eq]

theorem columnLengths_singleton_of_none (h : row[i]? = none) : columnLengths [row] i = ∅ := by
  simp [columnLengths, h]

theorem columnLengths_singleton {cell : String} (h : row[i]? = some cell) :
    columnLengths [row] i = {cell.length} := by
  ext n
  simp [columnLengths, h, eq_comm]

/-- A column is as wide as the longest of its texts. -/
theorem isGreatest_width {w : Nat} (hw : (widths headers rows)[i]? = some w) :
    IsGreatest (columnLengths (headers :: rows) i) w := by
  rw [widths, List.getElem?_mapIdx, Option.map_eq_some_iff] at hw
  obtain ⟨header, hheader, rfl⟩ := hw
  induction rows using List.reverseRecOn with
  | nil =>
    rw [columnLengths_singleton hheader]
    exact isGreatest_singleton
  | append_singleton rows row ih =>
    rw [List.foldl_append, List.foldl_cons, List.foldl_nil, ← List.cons_append,
      columnLengths_append]
    cases hcell : row[i]? with
    | none =>
      rw [columnLengths_singleton_of_none hcell, Set.union_empty, Option.elim_none, Nat.max_zero]
      exact ih
    | some cell =>
      rw [columnLengths_singleton hcell, Option.elim_some]
      exact ih.union isGreatest_singleton

/-- No cell is longer than its column is wide. -/
def Fits (ws : List Nat) (row : List String) : Prop :=
  ∀ (i w : Nat) (cell : String), ws[i]? = some w → row[i]? = some cell → cell.length ≤ w

theorem fits_widths (hrow : row ∈ headers :: rows) : Fits (widths headers rows) row :=
  fun _ _ cell hw hcell => (isGreatest_width hw).2 ⟨row, hrow, cell, hcell, rfl⟩

end Greatest

section Indexed

/-- The widths when the cell with a number is taken into account. A look beyond them is `none`. -/
def widened? (ws : List Nat) (cell : String × Nat) : Option (List Nat) :=
  if cell.2 < ws.length then ws[cell.2]?.map fun w => ws.set cell.2 (max w cell.1.length)
  else some ws

/-- The widths when the cells of all rows are taken into account. -/
def measured? (headers : List String) (rows : List (List String)) : Option (List Nat) :=
  rows.foldlM (fun ws row => row.zipIdx.foldlM widened? ws) (headers.map String.length)

def headerCells? (ws : List Nat) (headers : List String) : Option (List String) :=
  headers.zipIdx.mapM fun cell => ws[cell.2]?.map (padded · cell.1)

/-- The cells of a row, where those without a column are left as they are. -/
def rowCells (ws : List Nat) (row : List String) : List String :=
  row.mapIdx fun i cell => ws[i]?.elim cell (padded · cell)

/-- The table, with every width looked up by number. A look beyond the widths is `none`. -/
def table? (c : Console) (headers : List String) (rows : List (List String)) : Option Printed := do
  let ws ← measured? headers rows
  let top ← headerCells? ws headers
  let line (cells : List String) := Text.dropTrailing (" │ ".intercalate cells)
  let lines := c.paint .bold (line top) :: rule ws :: rows.map fun row => line (rowCells ws row)
  return ⟨String.join (lines.map (· ++ "\n")), ""⟩

theorem widened?_eq (ws : List Nat) (cell : String) (i : Nat) :
    widened? ws (cell, i) = some (ws.modify i (max · cell.length)) := by
  unfold widened?
  by_cases hi : i < ws.length
  · have hlook := List.getElem?_eq_getElem hi
    rw [if_pos hi, List.modify_eq_set_getElem?, hlook]
    rfl
  · rw [if_neg hi, List.modify_eq_self (Nat.le_of_not_lt hi)]

/-- The cells from number `k` on widen the columns from there on. -/
theorem foldlM_widened? (ws : List Nat) (row : List String) (k : Nat) :
    (row.zipIdx k).foldlM widened? ws =
      some (ws.mapIdx fun i w =>
        if i < k then w else max w (row[i - k]?.elim 0 String.length)) := by
  induction row generalizing ws k with
  | nil =>
    refine congrArg some (List.ext_getElem? fun i => ?_)
    simp
  | cons cell row ih =>
    rw [List.zipIdx_cons, List.foldlM_cons, widened?_eq]
    refine (ih _ (k + 1)).trans (congrArg some (List.ext_getElem? fun i => ?_))
    rw [List.getElem?_mapIdx, List.getElem?_mapIdx, List.getElem?_modify]
    cases ws[i]? with
    | none => rfl
    | some w =>
      refine congrArg some ?_
      beta_reduce
      rcases Nat.lt_trichotomy i k with hbefore | rfl | hbehind
      · rw [if_pos (Nat.lt_succ_of_lt hbefore), if_neg hbefore.ne', if_pos hbefore]
      · rw [if_pos (Nat.lt_succ_self i), if_pos rfl, if_neg (Nat.lt_irrefl i), Nat.sub_self]
        rfl
      · have hnext : i - k = i - (k + 1) + 1 := by omega
        rw [if_neg (by omega), if_neg hbehind.ne, if_neg (by omega), hnext,
          List.getElem?_cons_succ]

theorem foldlM_row (ws : List Nat) (row : List String) :
    row.zipIdx.foldlM widened? ws =
      some (ws.mapIdx fun i w => max w (row[i]?.elim 0 String.length)) := by
  rw [foldlM_widened?]
  simp

theorem foldlM_rows (ws : List Nat) (rows : List (List String)) :
    rows.foldlM (fun ws row => row.zipIdx.foldlM widened? ws) ws =
      some (ws.mapIdx fun i w =>
        rows.foldl (fun w row => max w (row[i]?.elim 0 String.length)) w) := by
  induction rows generalizing ws with
  | nil =>
    refine congrArg some (List.ext_getElem? fun i => ?_)
    simp
  | cons row rows ih =>
    rw [List.foldlM_cons, foldlM_row]
    refine (ih _).trans ?_
    rw [List.mapIdx_mapIdx]
    rfl

theorem measured?_eq (headers : List String) (rows : List (List String)) :
    measured? headers rows = some (widths headers rows) := by
  rw [measured?, foldlM_rows]
  refine congrArg some (List.ext_getElem? fun i => ?_)
  rw [widths, List.getElem?_mapIdx, List.getElem?_mapIdx, List.getElem?_map, Option.map_map]
  rfl

theorem cells_eq_rowCells (ws : List Nat) (row : List String) : cells ws row = rowCells ws row := by
  unfold rowCells
  induction row generalizing ws with
  | nil => cases ws <;> rfl
  | cons cell row ih =>
    cases ws with
    | nil =>
      rw [List.mapIdx_cons]
      exact congrArg (cell :: ·) (ih [])
    | cons w ws =>
      rw [cells, ih, List.mapIdx_cons]
      rfl

/-- The headers from number `k` on look up the widths from there on. -/
theorem mapM_padded (headers : List String) (h : k + headers.length ≤ ws.length) :
    (headers.zipIdx k).mapM (fun cell => ws[cell.2]?.map (padded · cell.1)) =
      some (headers.mapIdx fun i cell => ws[k + i]?.elim cell (padded · cell)) := by
  induction headers generalizing k with
  | nil => rfl
  | cons header headers ih =>
    rw [List.length_cons] at h
    have hk : k < ws.length := by omega
    have hrest := ih (k := k + 1) (by omega)
    have hshift : ∀ i, k + 1 + i = k + (i + 1) := by omega
    rw [List.zipIdx_cons, List.mapM_cons, hrest, List.mapIdx_cons, List.getElem?_eq_getElem hk]
    simp only [hshift, Nat.add_zero, List.getElem?_eq_getElem hk]
    rfl

theorem headerCells?_eq (h : headers.length ≤ ws.length) :
    headerCells? ws headers = some (rowCells ws headers) := by
  rw [headerCells?, mapM_padded headers (by omega), rowCells]
  simp only [Nat.zero_add]

/-- No look at a width is beyond the widths, and the table made so is the same. -/
theorem table?_eq (c : Console) (headers : List String) (rows : List (List String)) :
    table? c headers rows = some (c.table headers rows) := by
  have htop := headerCells?_eq (length_widths headers rows).ge
  rw [table?, measured?_eq, Option.bind_eq_bind, Option.bind_some, htop]
  simp only [← cells_eq_rowCells]
  rfl

end Indexed

end TypeDocs.Console
