import TypeDocs.Export
import TypeDocs.Proofs.Manifest.Defaults
import TypeDocs.Proofs.Text.Lines

/-!
# Tables of models

The Markdown and CSV documents of a model are a few lines of header and a line for each property.
As cells are written as they are, the Markdown document is such a table just when no cell has a
line feed or a bar in it and the name of the model has no line feed. Cells without the marks of
both formats are read back from the lines of either document, the last one too, since what a
manifest declares never shows with white space at its end.
-/

namespace TypeDocs

open Text

section TableLines

/-- The lines in front of the rows. -/
def TextFormat.headerLines (name : List Char) : TextFormat → List (List Char)
  | .markdown =>
    ["# ".toList ++ name ++ " Model".toList, [],
      "| Property | Type | Description | Attributes | Value |".toList,
      "|----------|------|-------------|------------|-------|".toList]
  | .csv => [name ++ " Model".toList, "Property,Type,Description,Attributes,Value".toList]

/-- The line of a row. -/
def TextFormat.rowLine (cells : List (List Char)) : TextFormat → List Char
  | .markdown => "| ".toList ++ " | ".toList.intercalate cells ++ " |".toList
  | .csv => [','].intercalate cells

def PropertyDescriptor.cells (p : PropertyDescriptor) : List (List Char) :=
  (Template.propertyCells p).map String.toList

def ModelDescriptor.tableLines (f : TextFormat) (m : ModelDescriptor) : List (List Char) :=
  f.headerLines m.name.toList ++ m.properties.map fun p => f.rowLine p.cells

variable {f : TextFormat} {m : ModelDescriptor}

theorem toList_modelHeader (name : String) (f : TextFormat) :
    (Template.modelHeader name f).toList =
      (f.headerLines name.toList).flatMap (· ++ ['\n']) := by
  have hfeed : "\n".toList = ['\n'] := rfl
  cases f with
  | markdown =>
    have htitle : " Model\n\n| Property | Type | Description | Attributes | Value |\n" =
        " Model" ++ "\n" ++ "\n" ++ "| Property | Type | Description | Attributes | Value |" ++
          "\n" := rfl
    have hrule : "|----------|------|-------------|------------|-------|\n" =
        "|----------|------|-------------|------------|-------|" ++ "\n" := rfl
    simp only [Template.modelHeader, htitle, hrule, TextFormat.headerLines, String.toList_append,
      hfeed, List.flatMap_cons, List.flatMap_nil, List.append_assoc, List.nil_append,
      List.append_nil]
  | csv =>
    have htitle : " Model\nProperty,Type,Description,Attributes,Value\n" =
        " Model" ++ "\n" ++ "Property,Type,Description,Attributes,Value" ++ "\n" := rfl
    simp only [Template.modelHeader, htitle, TextFormat.headerLines, String.toList_append, hfeed,
      List.flatMap_cons, List.flatMap_nil, List.append_assoc, List.append_nil]

theorem toList_row (cells : List String) (f : TextFormat) :
    (Template.row cells f).toList = f.rowLine (cells.map String.toList) ++ ['\n'] := by
  cases f <;> simp [Template.row, TextFormat.rowLine, String.toList_intercalate]

theorem toList_propertyRow (p : PropertyDescriptor) (f : TextFormat) :
    (Template.propertyRow p f).toList = f.rowLine p.cells ++ ['\n'] :=
  toList_row _ f

theorem toList_lines (f : TextFormat) (m : ModelDescriptor) :
    (m.lines f).toList = (m.tableLines f).flatMap (· ++ ['\n']) := by
  rw [ModelDescriptor.lines, String.toList_append, toList_modelHeader, String.toList_join,
    ModelDescriptor.tableLines, List.flatMap_append, List.flatMap_map, List.flatMap_map]
  simp only [toList_propertyRow]

theorem tableLines_ne_nil : m.tableLines f ≠ [] := by
  cases f <;> exact List.cons_ne_nil _ _

theorem endsSolid_headerLines {name l : List Char}
    (hlast : (f.headerLines name).getLast? = some l) : EndsSolid l := by
  cases f with
  | markdown =>
    have hrule : "|----------|------|-------------|------------|-------|" =
        "|----------|------|-------------|------------|-------" ++ "|" := rfl
    simp only [TextFormat.headerLines, List.getLast?_cons_cons, List.getLast?_singleton,
      Option.some.injEq] at hlast
    rw [← hlast, hrule, String.toList_append]
    exact EndsSolid.append ⟨'|', by decide⟩ _
  | csv =>
    have hcolumns : "Property,Type,Description,Attributes,Value" =
        "Property,Type,Description,Attributes," ++ "Value" := rfl
    simp only [TextFormat.headerLines, List.getLast?_cons_cons, List.getLast?_singleton,
      Option.some.injEq] at hlast
    rw [← hlast, hcolumns, String.toList_append]
    exact EndsSolid.append ⟨'e', by decide⟩ _

theorem endsSolid_rowLine {p : PropertyDescriptor} (h : EndsSolid p.defaultValue.toList) :
    EndsSolid (f.rowLine p.cells) := by
  cases f with
  | markdown => exact EndsSolid.append ⟨'|', by decide⟩ _
  | csv => exact h.intercalate [','] rfl

/-- If no row ends with white space, the line feed at the end is all that is trimmed. -/
theorem toList_toText (h : ∀ p ∈ m.properties, EndsSolid (f.rowLine p.cells)) :
    (m.toText f).toList = ['\n'].intercalate (m.tableLines f) := by
  obtain ⟨l, hl⟩ : ∃ l, (m.tableLines f).getLast? = some l :=
    ⟨_, List.getLast?_eq_some_getLast tableLines_ne_nil⟩
  have hsolid : EndsSolid l := by
    have hlast := hl
    rw [ModelDescriptor.tableLines, List.getLast?_append, Option.or_eq_some_iff] at hlast
    rcases hlast with hrow | ⟨_, hheader⟩
    · obtain ⟨p, hp, rfl⟩ := List.mem_map.mp (List.mem_of_getLast? hrow)
      exact h p hp
    · exact endsSolid_headerLines hheader
  rw [ModelDescriptor.toText, dropTrailing, String.toList_ofList, toList_lines,
    flatMap_concat_eq_intercalate '\n' tableLines_ne_nil]
  exact trimEnd_append_lineFeed (hsolid.intercalate _ hl)

theorem PropertyDescriptor.cells_ne_nil (p : PropertyDescriptor) : p.cells ≠ [] := by
  simp [PropertyDescriptor.cells, Template.propertyCells]

/-- What a Markdown row has more of a character than its cells is in the template. -/
theorem count_markdown_rowLine (p : PropertyDescriptor) (c : Char) :
    (TextFormat.markdown.rowLine p.cells).count c =
      "| ".toList.count c + 4 * " | ".toList.count c + " |".toList.count c +
        p.cells.flatten.count c := by
  have hcells := count_intercalate " | ".toList c p.cells_ne_nil
  have hfive : p.cells.length = 5 := rfl
  rw [hfive] at hcells
  rw [TextFormat.rowLine, List.count_append, List.count_append]
  omega

theorem count_csv_rowLine (p : PropertyDescriptor) {c : Char} (hc : c ≠ ',') :
    (TextFormat.csv.rowLine p.cells).count c = p.cells.flatten.count c := by
  have hcells := count_intercalate [','] c p.cells_ne_nil
  have hcomma : [','].count c = 0 := by
    rw [List.count_eq_zero, List.mem_singleton]
    exact hc
  rwa [hcomma, Nat.mul_zero, Nat.add_zero, Nat.zero_add] at hcells

theorem lineFeed_not_mem_rowLine_iff {p : PropertyDescriptor} :
    '\n' ∉ f.rowLine p.cells ↔ ∀ cell ∈ p.cells, '\n' ∉ cell := by
  have htemplate : "| ".toList.count '\n' + 4 * " | ".toList.count '\n' +
      " |".toList.count '\n' = 0 := by decide
  have hcount : (f.rowLine p.cells).count '\n' = p.cells.flatten.count '\n' := by
    cases f with
    | markdown => rw [count_markdown_rowLine, htemplate, Nat.zero_add]
    | csv => exact count_csv_rowLine p (by decide)
  rw [← List.count_eq_zero, hcount, count_flatten_eq_zero_iff]

theorem lineFeed_not_mem_tableLines_iff :
    (∀ l ∈ m.tableLines f, '\n' ∉ l) ↔
      '\n' ∉ m.name.toList ∧ ∀ p ∈ m.properties, ∀ cell ∈ p.cells, '\n' ∉ cell := by
  have hheader : (∀ l ∈ f.headerLines m.name.toList, '\n' ∉ l) ↔ '\n' ∉ m.name.toList := by
    cases f <;> simp [TextFormat.headerLines]
  rw [ModelDescriptor.tableLines, List.forall_mem_append, hheader, List.forall_mem_map]
  simp only [lineFeed_not_mem_rowLine_iff]

theorem splitOn_toText (hsolid : ∀ p ∈ m.properties, EndsSolid (f.rowLine p.cells))
    (hfeed : ∀ l ∈ m.tableLines f, '\n' ∉ l) :
    (m.toText f).toList.splitOn '\n' = m.tableLines f := by
  rw [toList_toText hsolid]
  exact List.splitOn_intercalate '\n' hfeed tableLines_ne_nil

end TableLines

section Integrity

/-- What stands between the bars of a line. -/
def betweenBars (l : List Char) : List (List Char) := (l.splitOn '|').tail.dropLast

/-- The heading of a model, a blank line, the two lines of a table header and a number of rows of
five cells. -/
def IsTable (name : List Char) (rows : Nat) (ls : List (List Char)) : Prop :=
  ∃ rest, ls = TextFormat.markdown.headerLines name ++ rest ∧ rest.length = rows ∧
    ∀ l ∈ rest, (betweenBars l).length = 5

theorem length_betweenBars (l : List Char) : (betweenBars l).length = l.count '|' - 1 := by
  rw [betweenBars, List.length_dropLast, List.length_tail, length_splitOn, Nat.add_sub_cancel]

theorem five_betweenBars_iff (p : PropertyDescriptor) :
    (betweenBars (TextFormat.markdown.rowLine p.cells)).length = 5 ↔
      ∀ cell ∈ p.cells, '|' ∉ cell := by
  have htemplate : "| ".toList.count '|' + 4 * " | ".toList.count '|' +
      " |".toList.count '|' = 6 := by decide
  rw [length_betweenBars, count_markdown_rowLine, htemplate, ← count_flatten_eq_zero_iff]
  omega

theorem length_tableLines (m : ModelDescriptor) :
    (m.tableLines .markdown).length = m.properties.length + 4 := by
  rw [ModelDescriptor.tableLines, List.length_append, List.length_map, Nat.add_comm]
  rfl

theorem isTable_toText_iff (m : ModelDescriptor) :
    IsTable m.name.toList m.properties.length ((m.toText .markdown).toList.splitOn '\n') ↔
      '\n' ∉ m.name.toList ∧
        ∀ p ∈ m.properties, ∀ cell ∈ p.cells, '\n' ∉ cell ∧ '|' ∉ cell := by
  have hsolid : ∀ p ∈ m.properties, EndsSolid (TextFormat.markdown.rowLine p.cells) :=
    fun p _ => EndsSolid.append ⟨'|', by decide⟩ _
  constructor
  · rintro ⟨rest, hlines, hrows, hfive⟩
    have hfeed : ∀ l ∈ m.tableLines .markdown, '\n' ∉ l := by
      refine not_mem_of_length_splitOn_intercalate tableLines_ne_nil ?_
      rw [← toList_toText hsolid, hlines, length_tableLines, List.length_append, hrows,
        Nat.add_comm]
      rfl
    rw [splitOn_toText hsolid hfeed, ModelDescriptor.tableLines] at hlines
    obtain ⟨hname, hcells⟩ := lineFeed_not_mem_tableLines_iff.mp hfeed
    refine ⟨hname, fun p hp cell hcell => ⟨hcells p hp cell hcell, ?_⟩⟩
    have hrow : TextFormat.markdown.rowLine p.cells ∈ rest := by
      rw [← List.append_cancel_left hlines]
      exact List.mem_map_of_mem hp
    exact (five_betweenBars_iff p).mp (hfive _ hrow) cell hcell
  · rintro ⟨hname, hcells⟩
    have hfeed : ∀ l ∈ m.tableLines .markdown, '\n' ∉ l :=
      lineFeed_not_mem_tableLines_iff.mpr
        ⟨hname, fun p hp cell hcell => (hcells p hp cell hcell).1⟩
    refine ⟨_, splitOn_toText hsolid hfeed, List.length_map _, ?_⟩
    intro l hl
    obtain ⟨p, hp, rfl⟩ := List.mem_map.mp hl
    exact (five_betweenBars_iff p).mpr fun cell hcell => (hcells p hp cell hcell).2

end Integrity

section Reading

/-- The cells of a text with a bar between spaces behind each but the last. -/
def cellsOf : List Char → List (List Char)
  | ' ' :: '|' :: ' ' :: cs => [] :: cellsOf cs
  | c :: cs => (cellsOf cs).modifyHead (c :: ·)
  | [] => [[]]

/-- The cells of a line of a Markdown table. -/
def rowCells? (l : List Char) : Option (List (List Char)) :=
  ((l.dropPrefix? "| ".toList).bind fun r => r.dropSuffix? " |".toList).map cellsOf

theorem cellsOf_cons {c : Char} {cs : List Char} (h : cs.head? ≠ some '|') :
    cellsOf (c :: cs) = (cellsOf cs).modifyHead (c :: ·) := by
  rw [cellsOf]
  rintro ds - rfl
  exact h rfl

theorem cellsOf_append {cell : List Char} (h : '|' ∉ cell) (cs : List Char) :
    cellsOf (cell ++ (" | ".toList ++ cs)) = cell :: cellsOf cs := by
  induction cell with
  | nil => exact cellsOf.eq_1 cs
  | cons c cell ih =>
    rw [List.mem_cons, not_or] at h
    have hhead : (cell ++ (" | ".toList ++ cs)).head? ≠ some '|' := by
      cases cell with
      | nil => simp
      | cons d cell =>
        rintro hd
        obtain rfl : d = '|' := by simpa using hd
        exact h.2 List.mem_cons_self
    rw [List.cons_append, cellsOf_cons hhead, ih h.2, List.modifyHead_cons]

theorem cellsOf_of_not_mem {cell : List Char} (h : '|' ∉ cell) : cellsOf cell = [cell] := by
  induction cell with
  | nil => rfl
  | cons c cell ih =>
    rw [List.mem_cons, not_or] at h
    rw [cellsOf_cons fun hhead => h.2 (List.mem_of_mem_head? hhead), ih h.2, List.modifyHead_cons]

theorem cellsOf_intercalate {cells : List (List Char)} (hne : cells ≠ [])
    (h : ∀ cell ∈ cells, '|' ∉ cell) : cellsOf (" | ".toList.intercalate cells) = cells := by
  induction cells with
  | nil => exact absurd rfl hne
  | cons cell cells ih =>
    have hcell := h cell List.mem_cons_self
    cases cells with
    | nil => rw [List.intercalate_singleton, cellsOf_of_not_mem hcell]
    | cons next cells =>
      rw [List.intercalate_cons_cons, List.append_assoc, cellsOf_append hcell,
        ih (by simp) fun c hc => h c (List.mem_cons_of_mem cell hc)]

theorem rowCells?_rowLine {cells : List (List Char)} (hne : cells ≠ [])
    (h : ∀ cell ∈ cells, '|' ∉ cell) :
    rowCells? (TextFormat.markdown.rowLine cells) = some cells := by
  have hbefore : (TextFormat.markdown.rowLine cells).dropPrefix? "| ".toList =
      some (" | ".toList.intercalate cells ++ " |".toList) := by
    rw [TextFormat.rowLine, List.append_assoc]
    exact List.dropPrefix?_append_of_beq _ (BEq.refl _)
  have hbehind : (" | ".toList.intercalate cells ++ " |".toList).dropSuffix? " |".toList =
      some (" | ".toList.intercalate cells) :=
    List.dropSuffix?_eq_some_iff.mpr ⟨_, rfl, BEq.refl _⟩
  rw [rowCells?, hbefore, Option.bind_some, hbehind, Option.map_some, cellsOf_intercalate hne h]

end Reading

namespace Manifest

variable (e : ModelEntry) (docs : Documentation)

/-- Whether a character is none of the marks of either format. -/
def isFieldChar (c : Char) : Bool := c != ',' && c != '|' && c != '\r' && c != '\n'

/-- The Markdown document of a model of a manifest is its table just when the name of the model has
no line feed and no cell has a line feed or a bar. -/
theorem markdown_isTable_iff :
    IsTable e.name.toList e.visible.length
        ((Format.markdown.render (Subject.model.document docs e.describe)).toList.splitOn '\n') ↔
      '\n' ∉ e.name.toList ∧ ∀ p ∈ (e.describe.describeModel docs).properties,
        ∀ cell ∈ p.cells, '\n' ∉ cell ∧ '|' ∉ cell := by
  have hrows : e.visible.length = (e.describe.describeModel docs).properties.length := by
    rw [properties_describeModel, List.length_map]
  rw [hrows]
  exact isTable_toText_iff (e.describe.describeModel docs)

/-- A model with a property whose name has a line feed in it. -/
def twoLineName : ModelEntry where
  name := "A"
  fullName := none
  constructible := false
  attributes := []
  properties := [⟨"a\nb", "T", [], none, true, false⟩]

/-- A model with a property whose type has a bar in it. -/
def barredType : ModelEntry where
  name := "A"
  fullName := none
  constructible := false
  attributes := []
  properties := [⟨"a", "T|U", [], none, true, false⟩]

/-- A line feed breaks a row in two, and a bar adds a column. -/
theorem not_isTable_of_marks :
    ¬ IsTable "A".toList 1 ((Format.markdown.render
        (Subject.model.document .empty twoLineName.describe)).toList.splitOn '\n') ∧
    ¬ IsTable "A".toList 1 ((Format.markdown.render
        (Subject.model.document .empty barredType.describe)).toList.splitOn '\n') := by
  constructor
  · intro h
    have hcells := (isTable_toText_iff (twoLineName.describe.describeModel .empty)).mp h
    exact absurd hcells (by decide)
  · intro h
    have hcells := (isTable_toText_iff (barredType.describe.describeModel .empty)).mp h
    exact absurd hcells (by decide)

theorem endsSolid_properties :
    ∀ p ∈ (e.describe.describeModel docs).properties, EndsSolid p.defaultValue.toList := by
  rw [properties_describeModel, List.forall_mem_map]
  exact fun p _ => e.endsSolid_defaultValue p

/-- Cells that are free of marks are read back from the Markdown document and from the CSV
document of a model of a manifest. -/
theorem markdown_csv_same_table
    (hname : ∀ c ∈ e.name.toList, isFieldChar c)
    (hcells : ∀ p ∈ (e.describe.describeModel docs).properties, ∀ cell ∈ p.cells,
      ∀ c ∈ cell, isFieldChar c) :
    (((Format.markdown.render (Subject.model.document docs e.describe)).toList.splitOn '\n').drop
        4).map rowCells? =
      (e.describe.describeModel docs).properties.map (some ·.cells) ∧
    (((Format.csv.render (Subject.model.document docs e.describe)).toList.splitOn '\n').drop
        2).map (List.splitOn ',') =
      (e.describe.describeModel docs).properties.map PropertyDescriptor.cells := by
  have hnot {c : Char} {cs : List Char} (hc : isFieldChar c = false)
      (h : ∀ d ∈ cs, isFieldChar d) : c ∉ cs := by
    intro hmem
    rw [h c hmem] at hc
    exact absurd hc (by decide)
  have hfeed (f : TextFormat) : ∀ l ∈ (e.describe.describeModel docs).tableLines f, '\n' ∉ l :=
    lineFeed_not_mem_tableLines_iff.mpr ⟨hnot (by decide) hname,
      fun p hp cell hcell => hnot (by decide) (hcells p hp cell hcell)⟩
  have hlines (f : TextFormat) :
      ((e.describe.describeModel docs).toText f).toList.splitOn '\n' =
        (e.describe.describeModel docs).tableLines f :=
    splitOn_toText (fun p hp => endsSolid_rowLine (endsSolid_properties e docs p hp)) (hfeed f)
  have hrows (f : TextFormat) : ((e.describe.describeModel docs).tableLines f).drop
      (f.headerLines e.name.toList).length =
        (e.describe.describeModel docs).properties.map fun p => f.rowLine p.cells :=
    List.drop_left
  constructor
  · have hmarkdown := hrows .markdown
    rw [← hlines] at hmarkdown
    refine (congrArg (List.map rowCells?) hmarkdown).trans ?_
    rw [List.map_map]
    refine List.map_congr_left fun p hp => ?_
    exact rowCells?_rowLine p.cells_ne_nil fun cell hcell =>
      hnot (by decide) (hcells p hp cell hcell)
  · have hcsv := hrows .csv
    rw [← hlines] at hcsv
    refine (congrArg (List.map (List.splitOn ',')) hcsv).trans ?_
    rw [List.map_map]
    refine List.map_congr_left fun p hp => ?_
    exact List.splitOn_intercalate ',' (fun cell hcell =>
      hnot (by decide) (hcells p hp cell hcell)) p.cells_ne_nil

/-- A model with two documented properties. -/
def account : ModelEntry where
  name := "Account"
  fullName := some "Bank.Account"
  constructible := true
  attributes := []
  properties := [⟨"Owner", "String", [.bare "Required"], some (.text "nobody "), true, false⟩,
    ⟨"Limit", "u32", [], none, true, false⟩, ⟨"Hidden", "u8", [], some .null, false, false⟩]

theorem account_same_table :
    (∀ c ∈ account.name.toList, isFieldChar c) ∧
    (∀ p ∈ (account.describe.describeModel .empty).properties, ∀ cell ∈ p.cells,
      ∀ c ∈ cell, isFieldChar c) ∧
    (((Format.markdown.render (Subject.model.document .empty account.describe)).toList.splitOn
        '\n').drop 4).map rowCells? =
      (account.describe.describeModel .empty).properties.map (some ·.cells) ∧
    (((Format.csv.render (Subject.model.document .empty account.describe)).toList.splitOn
        '\n').drop 2).map (List.splitOn ',') =
      (account.describe.describeModel .empty).properties.map PropertyDescriptor.cells := by
  have hname : ∀ c ∈ account.name.toList, isFieldChar c := List.all_eq_true.mp (by decide)
  have hall : ((account.describe.describeModel .empty).properties.all fun p =>
      p.cells.all fun cell => cell.all isFieldChar) = true := by decide
  have hcells : ∀ p ∈ (account.describe.describeModel .empty).properties, ∀ cell ∈ p.cells,
      ∀ c ∈ cell, isFieldChar c := by
    simpa only [List.all_eq_true] using hall
  exact ⟨hname, hcells, markdown_csv_same_table account .empty hname hcells⟩

end Manifest

end TypeDocs
