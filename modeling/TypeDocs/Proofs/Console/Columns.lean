import TypeDocs.Proofs.Console.Widths
import TypeDocs.Proofs.Text.Lines

/-!
# Columns that line up

In a line of a table each cell stands in a field, and separators stand between the fields. The
fields of a column are as wide as the column in every line, so the separator behind it begins at
the same offset in the line of the headers, in the rule and in each row that has more cells. White
space at the end of a line is all that is taken away, and a separator keeps its bar.
-/

namespace TypeDocs.Console

open Text

variable {ws : List Nat} {row : List String} {sep line : List Char} {fields : List (List Char)}
  {j : Nat}

/-- The text, and spaces behind it. -/
def Fills (s : String) (field : List Char) : Prop :=
  ∃ n, field = s.toList ++ List.replicate n ' '

/-- The fields with separators between them. White space may be missing at the end of the line. -/
def Joined (sep : List Char) (fields : List (List Char)) (line : List Char) : Prop :=
  ∃ cut, cut.all isBlank = true ∧ line ++ cut = sep.intercalate fields

/-- The separator behind the first `j` fields begins at an offset of the line. White space at its
end may be missing, its bar is there. -/
def SeparatorAt (sep : List Char) (fields : List (List Char)) (line : List Char)
    (j offset : Nat) : Prop :=
  (sep.intercalate (fields.take j)).length = offset ∧
    sep.intercalate (fields.take j) ++ trimEnd sep <+: line

/-- Where the separator behind the first `j` columns begins. -/
def separatorOffset (ws : List Nat) (j : Nat) : Nat := (ws.take j).foldr (· + ·) 0 + 3 * (j - 1)

/-- The fields are joined in the line, and the separators behind columns stand at their offsets. -/
structure LinedUp (sep : List Char) (ws : List Nat) (fields : List (List Char))
    (line : List Char) : Prop where
  joined : Joined sep fields line
  separatorAt : ∀ j, 0 < j → j ≤ ws.length → j < fields.length →
    SeparatorAt sep fields line j (separatorOffset ws j)

/-- The line shows the cells of the row, each in full in its field. -/
def ShowsRow (ws : List Nat) (row : List String) (line : String) : Prop :=
  ∃ fields, List.Forall₂ Fills row fields ∧ LinedUp " │ ".toList ws fields line.toList

/-- The line is a rule with a field below each header. -/
def ShowsRule (ws : List Nat) (line : String) : Prop :=
  ∃ fields, fields.length = ws.length ∧ (∀ field ∈ fields, ∀ c ∈ field, c = '─') ∧
    LinedUp "─┼─".toList ws fields line.toList

section Join

theorem joined_trimEnd (sep : List Char) (fields : List (List Char)) :
    Joined sep fields (trimEnd (sep.intercalate fields)) :=
  exists_trimEnd_append _

/-- A separator with more fields behind it is in the line, but for white space at its end. -/
theorem Joined.separatorAt (h : Joined sep fields line) (hsep : EndsSolid (trimEnd sep))
    (hpos : 0 < j) (hlt : j < fields.length) :
    SeparatorAt sep fields line j (sep.intercalate (fields.take j)).length := by
  obtain ⟨cut, hcut, hline⟩ := h
  refine ⟨rfl, (hsep.append _).isPrefix_of_append hcut ?_⟩
  obtain ⟨space, -, hspace⟩ := exists_trimEnd_append sep
  -- There are fields on both sides, so the separator is between what is joined of each.
  have htake : fields.take j ≠ [] := by
    rw [Ne, List.take_eq_nil_iff, not_or]
    exact ⟨hpos.ne', List.ne_nil_of_length_pos (hpos.trans hlt)⟩
  have hdrop : fields.drop j ≠ [] := by
    rw [Ne, List.drop_eq_nil_iff]
    omega
  have hall := intercalate_append sep htake hdrop
  rw [List.take_append_drop] at hall
  refine ⟨space ++ sep.intercalate (fields.drop j), ?_⟩
  calc
    _ = sep.intercalate (fields.take j) ++ (trimEnd sep ++ space) ++
        sep.intercalate (fields.drop j) := by simp only [List.append_assoc]
    _ = line ++ cut := by rw [hspace, hline, hall]

/-- Fields as wide as their columns put the separators at the offsets of the columns. -/
theorem Joined.linedUp (h : Joined sep fields line) (hsep : EndsSolid (trimEnd sep))
    (hthree : sep.length = 3)
    (hwide : ∀ j ≤ ws.length, j ≤ fields.length → (fields.take j).map List.length = ws.take j) :
    LinedUp sep ws fields line := by
  refine ⟨h, fun j hpos hws hlt => ?_⟩
  have hoffset : (sep.intercalate (fields.take j)).length = separatorOffset ws j := by
    rw [length_intercalate, hwide j hws hlt.le, List.length_take_of_le hlt.le, hthree]
    rfl
  rw [← hoffset]
  exact h.separatorAt hsep hpos hlt

theorem Joined.notMem {c : Char} (h : Joined sep fields line) (hsep : c ∉ sep)
    (hfields : ∀ field ∈ fields, c ∉ field) : c ∉ line := by
  obtain ⟨cut, -, hline⟩ := h
  intro hmem
  have hjoin : c ∈ sep.intercalate fields := hline ▸ List.mem_append_left cut hmem
  rcases mem_intercalate hjoin with hc | ⟨field, hfield, hc⟩
  · exact hsep hc
  · exact hfields field hfield hc

end Join

section Lines

theorem length_padded {w : Nat} {s : String} (h : s.length ≤ w) :
    (padded w s).toList.length = w := by
  rw [padded, String.toList_append, String.toList_ofList, List.length_append,
    List.length_replicate, String.length_toList]
  omega

theorem cells_nil (row : List String) : cells [] row = row := by
  cases row <;> rfl

theorem fills_cells (ws : List Nat) (row : List String) :
    List.Forall₂ Fills row ((cells ws row).map String.toList) := by
  induction row generalizing ws with
  | nil => cases ws <;> exact .nil
  | cons cell row ih =>
    cases ws with
    | nil =>
      have hrest := ih []
      rw [cells_nil] at hrest ⊢
      exact .cons ⟨0, (List.append_nil _).symm⟩ hrest
    | cons w ws =>
      refine .cons ⟨w - cell.length, ?_⟩ (ih ws)
      rw [padded, String.toList_append, String.toList_ofList]

/-- The fields of a row that fits are as wide as the columns. -/
theorem map_length_take_cells (hfit : Fits ws row) (hws : j ≤ ws.length) (hrow : j ≤ row.length) :
    (((cells ws row).map String.toList).take j).map List.length = ws.take j := by
  induction j generalizing ws row with
  | zero => rfl
  | succ j ih =>
    cases ws with
    | nil => cases hws
    | cons w ws =>
      cases row with
      | nil => cases hrow
      | cons cell row =>
        have hcell := length_padded (hfit 0 w cell rfl rfl)
        have hfit' : Fits ws row := fun i => hfit (i + 1)
        have hrest := ih hfit' (Nat.le_of_succ_le_succ hws) (Nat.le_of_succ_le_succ hrow)
        rw [cells, List.map_cons, List.take_succ_cons, List.map_cons, hcell, hrest,
          List.take_succ_cons]

theorem length_cells (ws : List Nat) (row : List String) :
    ((cells ws row).map String.toList).length = row.length :=
  (fills_cells ws row).length_eq.symm

theorem showsRow_tableLine (hfit : Fits ws row) : ShowsRow ws row (tableLine ws row) := by
  have hline : (tableLine ws row).toList =
      trimEnd (" │ ".toList.intercalate ((cells ws row).map String.toList)) := by
    rw [tableLine, dropTrailing, String.toList_ofList, String.toList_intercalate]
  have hjoined := joined_trimEnd " │ ".toList ((cells ws row).map String.toList)
  rw [← hline] at hjoined
  refine ⟨_, fills_cells ws row, hjoined.linedUp ⟨'│', by decide, by decide⟩ (by decide) ?_⟩
  intro j hws hrow
  rw [length_cells] at hrow
  exact map_length_take_cells hfit hws hrow

theorem showsRule_rule (ws : List Nat) : ShowsRule ws (rule ws) := by
  refine ⟨ws.map (List.replicate · '─'), List.length_map _, ?_, ?_⟩
  · intro field hfield c hc
    obtain ⟨w, -, rfl⟩ := List.mem_map.mp hfield
    exact List.eq_of_mem_replicate hc
  · have hline : (rule ws).toList = "─┼─".toList.intercalate (ws.map (List.replicate · '─')) := by
      rw [rule, String.toList_intercalate, List.map_map]
      simp [Function.comp_def]
    have hjoined : Joined "─┼─".toList (ws.map (List.replicate · '─')) (rule ws).toList :=
      ⟨[], rfl, by rw [List.append_nil, hline]⟩
    refine hjoined.linedUp ⟨'─', by decide, by decide⟩ (by decide) fun j _ _ => ?_
    rw [← List.map_take, List.map_map]
    simp [Function.comp_def]

theorem ShowsRow.lineFeed_notMem {line : String} (h : ShowsRow ws row line)
    (hrow : ∀ cell ∈ row, '\n' ∉ cell.toList) : '\n' ∉ line.toList := by
  obtain ⟨fields, hfills, hlined⟩ := h
  refine hlined.joined.notMem (by decide) ?_
  -- Where the separators stand does not matter below, and the induction is on the fields.
  clear hlined
  induction hfills with
  | nil => exact List.forall_mem_nil _
  | cons hfill _ ih =>
    obtain ⟨n, rfl⟩ := hfill
    obtain ⟨hcell, hrest⟩ := List.forall_mem_cons.mp hrow
    refine List.forall_mem_cons.mpr ⟨fun hmem => ?_, ih hrest⟩
    rcases List.mem_append.mp hmem with hmem | hmem
    · exact hcell hmem
    · cases List.eq_of_mem_replicate hmem

theorem ShowsRule.lineFeed_notMem {line : String} (h : ShowsRule ws line) : '\n' ∉ line.toList := by
  obtain ⟨fields, -, hfields, hlined⟩ := h
  refine hlined.joined.notMem (by decide) fun field hfield hmem => ?_
  cases hfields field hfield _ hmem

theorem splitOn_join {lines : List String} (h : ∀ line ∈ lines, '\n' ∉ line.toList) :
    (String.join (lines.map (· ++ "\n"))).toList.splitOn '\n' =
      lines.map String.toList ++ [[]] := by
  have hjoin : (String.join (lines.map (· ++ "\n"))).toList =
      (lines.map String.toList).flatMap (· ++ ['\n']) := by
    rw [String.toList_join, List.flatMap_map, List.flatMap_map]
    simp only [String.toList_append]
    rfl
  rw [hjoin]
  apply splitOn_flatMap_concat
  simpa using h

end Lines

/-- In a table without colour the lines are those of the headers, the rule and the rows, whatever
shape the rows have. No look at a width is beyond the widths, each cell is shown in full but for
white space at the end of a line, and the separator behind a column begins at the same offset in
all of these lines. They are the lines between the line feeds where no text has one in it. -/
theorem table_columns (c : Console) (hplain : c.colored = false) (headers : List String)
    (rows : List (List String)) :
    table? c headers rows = some (c.table headers rows) ∧
    ∃ top rule body,
      c.table headers rows = ⟨String.join ((top :: rule :: body).map (· ++ "\n")), ""⟩ ∧
      List.Forall₂ (ShowsRow (widths headers rows)) (headers :: rows) (top :: body) ∧
      ShowsRule (widths headers rows) rule ∧
      ((∀ row ∈ headers :: rows, ∀ cell ∈ row, '\n' ∉ cell.toList) →
        (c.table headers rows).output.toList.splitOn '\n' =
          (top :: rule :: body).map String.toList ++ [[]]) := by
  let ws := widths headers rows
  have hshown : ∀ row ∈ headers :: rows, ShowsRow ws row (tableLine ws row) :=
    fun row hrow => showsRow_tableLine (fits_widths hrow)
  have hrule : ShowsRule ws (rule ws) := showsRule_rule ws
  have htable : c.table headers rows =
      ⟨String.join ((tableLine ws headers :: rule ws :: rows.map (tableLine ws)).map (· ++ "\n")),
        ""⟩ := by
    rw [table, paint, hplain, if_neg Bool.false_ne_true]
  refine ⟨table?_eq c headers rows, _, _, _, htable, ?_, hrule, fun hfeed => ?_⟩
  · exact List.forall₂_map_right_iff.mpr (List.forall₂_same.mpr hshown)
  · have hlines : ∀ line ∈ tableLine ws headers :: rule ws :: rows.map (tableLine ws),
        '\n' ∉ line.toList := by
      have hrows (row : List String) (hrow : row ∈ headers :: rows) :=
        (hshown row hrow).lineFeed_notMem (hfeed row hrow)
      rw [List.forall_mem_cons, List.forall_mem_cons, List.forall_mem_map]
      exact ⟨hrows headers List.mem_cons_self, hrule.lineFeed_notMem,
        fun row hrow => hrows row (List.mem_cons_of_mem headers hrow)⟩
    rw [htable]
    dsimp only
    exact splitOn_join hlines

/-- Rows with fewer and with more cells than there are headers, and a cell with a bar in it. -/
def ragged : List (List String) := [["a│b ", "x  "], ["long name", "", "z "], []]

theorem ragged_columns :
    widths ["Name", "日"] ragged = [9, 3] ∧ separatorOffset [9, 3] 1 = 9 ∧
    (⟨false, true⟩ : Console).colored = false ∧
    (∀ row ∈ ["Name", "日"] :: ragged, ∀ cell ∈ row, '\n' ∉ cell.toList) ∧
    table? ⟨false, true⟩ ["Name", "日"] ragged =
      some (Console.table ⟨false, true⟩ ["Name", "日"] ragged) ∧
    ∃ top rule body,
      [top, rule] ++ body =
        ["Name      │ 日", "──────────┼────", "a│b       │ x", "long name │     │ z", ""] ∧
      Console.table ⟨false, true⟩ ["Name", "日"] ragged =
        ⟨String.join ((top :: rule :: body).map (· ++ "\n")), ""⟩ ∧
      List.Forall₂ (ShowsRow [9, 3]) (["Name", "日"] :: ragged) (top :: body) ∧
      ShowsRule [9, 3] rule := by
  have hwidths : widths ["Name", "日"] ragged = [9, 3] := by decide
  have hfeed : ∀ row ∈ ["Name", "日"] :: ragged, ∀ cell ∈ row, '\n' ∉ cell.toList := by decide
  obtain ⟨hlooks, top, rule, body, htable, hrows, hrule, hlines⟩ :=
    table_columns ⟨false, true⟩ rfl ["Name", "日"] ragged
  rw [hwidths] at hrows hrule
  refine ⟨hwidths, by decide, rfl, hfeed, hlooks, top, rule, body, ?_, htable, hrows, hrule⟩
  have htext : (Console.table ⟨false, true⟩ ["Name", "日"] ragged).output.toList.splitOn '\n' =
      ["Name      │ 日", "──────────┼────", "a│b       │ x", "long name │     │ z", ""].map
        String.toList ++ [[]] := by
    decide +kernel
  rw [hlines hfeed] at htext
  exact List.map_injective_iff.mpr (fun _ _ => String.toList_inj.mp)
    (List.append_cancel_right htext)

end TypeDocs.Console
