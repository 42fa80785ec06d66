import TypeDocs.Proofs.Render.Table
import TypeDocs.Proofs.Text.Runs

/-!
# Sections of controllers

The Markdown document of a controller is a page of sections, one for each method and the title on
top of the first, and a batch of them is a page too. Lines are parted by line feeds and sections by
blank lines, and only a section with a title on top begins a controller. So where no text has a line
feed in it and no parameter a bar, everything but the prefix of the routes is read back.
-/

namespace TypeDocs

open Text

section Page

/-- Sections of lines, with a blank line between two. -/
def page (sections : List (List (List Char))) : List Char :=
  ['\n'].intercalate ([[]].intercalate sections)

def IsTextLine (l : List Char) : Prop := l ≠ [] ∧ '\n' ∉ l

theorem IsTextLine.append {l r : List Char} (hl : IsTextLine l) (hr : '\n' ∉ r) :
    IsTextLine (l ++ r) := by
  refine ⟨List.append_ne_nil_of_left_ne_nil hl.1 r, ?_⟩
  rw [List.mem_append, not_or]
  exact ⟨hl.2, hr⟩

/-- Whether a section has lines, none of them blank or with a line feed in it. -/
def IsSection (ls : List (List Char)) : Prop := ls ≠ [] ∧ ∀ l ∈ ls, IsTextLine l

/-- The sections on a page. -/
def sectionsOf (cs : List Char) : List (List (List Char)) :=
  if cs.isEmpty then [] else (cs.splitOn '\n').splitOn []

variable {ss ts : List (List (List Char))}

theorem intercalate_ne_nil (hne : ss ≠ []) (h : [] ∉ ss) : [[]].intercalate ss ≠ [] := by
  have hlast : ss.getLast hne ≠ [] := fun hnil => h (hnil ▸ List.getLast_mem hne)
  have hline := getLast?_intercalate [[]] (List.getLast?_eq_some_getLast hne)
    (List.getLast?_eq_some_getLast hlast)
  intro hnil
  rw [hnil] at hline
  cases hline

theorem page_append (hss : ss ≠ []) (hts : ts ≠ []) (hs : [] ∉ ss) (ht : [] ∉ ts) :
    page (ss ++ ts) = page ss ++ ['\n', '\n'] ++ page ts := by
  rw [page, intercalate_append [[]] hss hts, intercalate_append ['\n'] (by simp)
    (intercalate_ne_nil hts ht), intercalate_append ['\n'] (intercalate_ne_nil hss hs) (by simp)]
  simp [page]

theorem page_ne_nil (hne : ss ≠ []) (h : ∀ s ∈ ss, IsSection s) : page ss ≠ [] := by
  obtain ⟨hsection, hlines⟩ := h _ (List.getLast_mem hne)
  have hline := getLast?_intercalate [[]] (List.getLast?_eq_some_getLast hne)
    (List.getLast?_eq_some_getLast hsection)
  have hchar := getLast?_intercalate ['\n'] hline
    (List.getLast?_eq_some_getLast (hlines _ (List.getLast_mem hsection)).1)
  intro hnil
  rw [page] at hnil
  rw [hnil] at hchar
  cases hchar

theorem sectionsOf_page (h : ∀ s ∈ ss, IsSection s) : sectionsOf (page ss) = ss := by
  by_cases hne : ss = []
  · subst hne
    rfl
  · have hfeed : ∀ l ∈ [[]].intercalate ss, '\n' ∉ l := by
      intro l hl
      obtain hblank | ⟨s, hs, hmem⟩ := mem_intercalate hl
      · rw [List.mem_singleton.mp hblank]
        exact List.not_mem_nil
      · exact ((h s hs).2 l hmem).2
    have hblank : ∀ s ∈ ss, [] ∉ s := fun s hs hmem => ((h s hs).2 [] hmem).1 rfl
    have hempty : [] ∉ ss := fun hmem => (h [] hmem).1 rfl
    have hpage : (page ss).isEmpty = false := by
      rw [List.isEmpty_eq_false_iff]
      exact page_ne_nil hne h
    rw [sectionsOf, hpage, if_neg Bool.false_ne_true, page,
      List.splitOn_intercalate '\n' hfeed (intercalate_ne_nil hne hempty),
      List.splitOn_intercalate [] hblank hne]

end Page

section Lines

def ParameterDescriptor.cells (p : ParameterDescriptor) : List (List Char) :=
  (Template.parameterCells p).map String.toList

/-- The lines below the heading of the parameters. -/
def MethodDescriptor.parameterLines (m : MethodDescriptor) : List (List Char) :=
  match m.parameters with
  | [] => ["  - No parameters.".toList]
  | ps => "| Name | Type | Required |".toList :: "|------|------|----------|".toList ::
      ps.map fun p => TextFormat.markdown.rowLine p.cells

def MethodDescriptor.sectionLines (m : MethodDescriptor) : List (List Char) :=
  ["## ".toList ++ m.name.toList, "- **HTTP Method:** ".toList ++ m.verb.toList,
    "- **Route:** `".toList ++ m.route.toList ++ "`".toList,
    "- **Description:** ".toList ++ m.description.toList, "- **Parameters:**".toList] ++
    m.parameterLines

def ControllerDescriptor.titleLine (c : ControllerDescriptor) : List Char :=
  "# ".toList ++ c.name.toList ++ " Controller".toList

/-- The first section of a controller: its title, and its first method if it has one. -/
def ControllerDescriptor.opening (c : ControllerDescriptor) : List (List Char) :=
  c.titleLine :: (c.methods.head?.map MethodDescriptor.sectionLines).getD []

def ControllerDescriptor.sections (c : ControllerDescriptor) : List (List (List Char)) :=
  c.opening :: c.methods.tail.map MethodDescriptor.sectionLines

theorem MethodDescriptor.toList_lines_eq (m : MethodDescriptor) :
    (m.lines .markdown).toList = (Template.method m .markdown).toList ++
      m.parameterLines.flatMap (· ++ ['\n']) ++ ['\n'] := by
  have hrow (p : ParameterDescriptor) : (Template.parameterRow p .markdown).toList =
      TextFormat.markdown.rowLine p.cells ++ ['\n'] := toList_row _ _
  have hheader : Template.parametersHeader .markdown =
      "| Name | Type | Required |" ++ "\n" ++ "|------|------|----------|" ++ "\n" := rfl
  have hnone : Template.noParameters .markdown = "  - No parameters." ++ "\n" := rfl
  have hfeed : "\n".toList = ['\n'] := rfl
  rw [lines, String.toList_append, String.toList_append, parameterLines]
  cases m.parameters with
  | nil => simp only [hnone, String.toList_append, hfeed, List.flatMap_singleton]
  | cons p ps =>
    simp only [hheader, String.toList_append, String.toList_join, hfeed, List.flatMap_cons,
      List.flatMap_map, hrow, List.append_assoc]

theorem MethodDescriptor.toList_lines (m : MethodDescriptor) :
    (m.lines .markdown).toList = (m.sectionLines ++ [[]]).flatMap (· ++ ['\n']) := by
  have hfeed : "\n".toList = ['\n'] := rfl
  have hverb : "\n- **HTTP Method:** " = "\n" ++ "- **HTTP Method:** " := rfl
  have hroute : "\n- **Route:** `" = "\n" ++ "- **Route:** `" := rfl
  have hdescription : "`\n- **Description:** " = "`" ++ "\n" ++ "- **Description:** " := rfl
  have hparameters : "\n- **Parameters:**\n" = "\n" ++ "- **Parameters:**" ++ "\n" := rfl
  rw [toList_lines_eq, Template.method, sectionLines]
  simp only [hverb, hroute, hdescription, hparameters, String.toList_append, hfeed,
    List.flatMap_append, List.flatMap_cons, List.flatMap_nil, List.append_assoc, List.nil_append,
    List.append_nil]

theorem ControllerDescriptor.toList_lines (c : ControllerDescriptor) :
    (c.lines .markdown).toList =
      (c.titleLine :: c.methods.flatMap (·.sectionLines ++ [[]])).flatMap (· ++ ['\n']) := by
  have htitle : " Controller\n" = " Controller" ++ "\n" := rfl
  have hfeed : "\n".toList = ['\n'] := rfl
  rw [lines, String.toList_append, String.toList_join, List.flatMap_cons, List.flatMap_map,
    List.flatMap_assoc, Template.controllerHeader]
  simp only [htitle, titleLine, String.toList_append, hfeed, MethodDescriptor.toList_lines,
    List.append_assoc]

theorem MethodDescriptor.exists_last_parameterLines (m : MethodDescriptor) :
    ∃ l, m.parameterLines.getLast? = some l ∧ EndsSolid l := by
  rw [parameterLines]
  cases m.parameters with
  | nil => exact ⟨_, rfl, '.', by decide, by decide⟩
  | cons p ps =>
    have hne : (p :: ps).map (fun p => TextFormat.markdown.rowLine p.cells) ≠ [] := by simp
    refine ⟨_, (List.getLast?_append_of_ne_nil ["| Name | Type | Required |".toList,
      "|------|------|----------|".toList] hne).trans (List.getLast?_eq_some_getLast hne), ?_⟩
    obtain ⟨q, -, hq⟩ := List.mem_map.mp (List.getLast_mem hne)
    rw [← hq]
    exact EndsSolid.append ⟨'|', by decide⟩ _

theorem MethodDescriptor.exists_last_sectionLines (m : MethodDescriptor) :
    ∃ l, m.sectionLines.getLast? = some l ∧ EndsSolid l := by
  obtain ⟨l, hlast, hsolid⟩ := m.exists_last_parameterLines
  exact ⟨l, by rw [sectionLines, List.getLast?_append, hlast, Option.some_or], hsolid⟩

theorem ControllerDescriptor.endsSolid_page (c : ControllerDescriptor) :
    EndsSolid (page c.sections) := by
  have htitle : EndsSolid c.titleLine := EndsSolid.append ⟨'r', by decide⟩ _
  obtain ⟨s, l, hs, hl, hsolid⟩ : ∃ s l, c.sections.getLast? = some s ∧ s.getLast? = some l ∧
      EndsSolid l := by
    rw [sections, opening]
    match c.methods with
    | [] => exact ⟨_, _, rfl, rfl, htitle⟩
    | [m] =>
      obtain ⟨l, hl, hsolid⟩ := m.exists_last_sectionLines
      refine ⟨c.titleLine :: m.sectionLines, l, rfl, ?_, hsolid⟩
      rw [List.getLast?_cons, hl, Option.getD_some]
    | m :: k :: ms =>
      obtain ⟨l, hl, hsolid⟩ :=
        ((k :: ms).getLast (List.cons_ne_nil k ms)).exists_last_sectionLines
      refine ⟨_, l, ?_, hl, hsolid⟩
      rw [List.tail_cons, List.map_cons, List.getLast?_cons_cons, ← List.map_cons,
        List.getLast?_map, List.getLast?_eq_some_getLast (List.cons_ne_nil k ms), Option.map_some]
  rw [page]
  exact hsolid.intercalate ['\n'] (getLast?_intercalate [[]] hs hl)

theorem ControllerDescriptor.sections_ne_nil (c : ControllerDescriptor) : c.sections ≠ [] :=
  List.cons_ne_nil _ _

theorem ControllerDescriptor.nil_not_mem_sections (c : ControllerDescriptor) :
    [] ∉ c.sections := by
  rw [sections, List.mem_cons, List.mem_map]
  rintro (htitle | ⟨m, -, hm⟩)
  · cases htitle
  · cases hm

/-- The document of a controller is the page of its sections. -/
theorem ControllerDescriptor.toList_toText (c : ControllerDescriptor) :
    (c.toText .markdown).toList = page c.sections := by
  obtain ⟨blanks, hblanks, hlines⟩ : ∃ blanks : List Char, blanks.all isBlank = true ∧
      (c.lines .markdown).toList = page c.sections ++ blanks := by
    rw [toList_lines]
    cases hmethods : c.methods with
    | nil =>
      refine ⟨['\n'], by decide, ?_⟩
      rw [sections, opening, hmethods]
      simp [page]
    | cons m ms =>
      refine ⟨['\n', '\n'], by decide, ?_⟩
      have hlines : [[]].intercalate c.sections ≠ [] :=
        intercalate_ne_nil c.sections_ne_nil c.nil_not_mem_sections
      have hflat : c.titleLine :: (m :: ms).flatMap (·.sectionLines ++ [[]]) =
          c.sections.flatMap (· ++ [[]]) := by
        rw [sections, opening, hmethods]
        simp [List.flatMap_map]
      rw [hflat, flatMap_concat_eq_intercalate [] c.sections_ne_nil, List.flatMap_append,
        flatMap_concat_eq_intercalate '\n' hlines]
      simp [page]
  rw [toText, dropTrailing, String.toList_ofList, hlines]
  exact trimEnd_append_of_isBlank c.endsSolid_page hblanks

theorem nil_not_mem_flatMap_sections (cs : List ControllerDescriptor) :
    [] ∉ cs.flatMap ControllerDescriptor.sections := by
  rw [List.mem_flatMap]
  rintro ⟨c, -, hmem⟩
  exact c.nil_not_mem_sections hmem

theorem intercalate_toText (cs : List ControllerDescriptor) :
    ['\n', '\n'].intercalate (cs.map fun c => (c.toText .markdown).toList) =
      page (cs.flatMap ControllerDescriptor.sections) := by
  induction cs with
  | nil => rfl
  | cons c cs ih =>
    cases cs with
    | nil => simp [c.toList_toText]
    | cons d ds =>
      have hrest : (d :: ds).flatMap ControllerDescriptor.sections ≠ [] := by
        rw [List.flatMap_cons]
        exact List.append_ne_nil_of_left_ne_nil d.sections_ne_nil _
      have hpage : page ((c :: d :: ds).flatMap ControllerDescriptor.sections) =
          page c.sections ++ ['\n', '\n'] ++
            page ((d :: ds).flatMap ControllerDescriptor.sections) :=
        page_append c.sections_ne_nil hrest c.nil_not_mem_sections
          (nil_not_mem_flatMap_sections _)
      rw [hpage, ← ih, ← c.toList_toText, List.map_cons, List.map_cons,
        List.intercalate_cons_cons]

/-- A batch of controllers is the page of all their sections. -/
theorem toList_renderBatch (cs : List ControllerDescriptor) :
    (Format.markdown.renderBatch (cs.map ControllerDescriptor.document)).toList =
      page (cs.flatMap ControllerDescriptor.sections) := by
  rw [Format.renderBatch, TextFormat.batch, String.toList_intercalate, List.map_map, List.map_map,
    ← intercalate_toText]
  rfl

end Lines

section Reading

/-- Whether the texts of a parameter can stand in its row. -/
def ParameterDescriptor.Printable (p : ParameterDescriptor) : Prop :=
  ∀ text ∈ [p.name, p.type], '\n' ∉ text.toList ∧ '|' ∉ text.toList

/-- Whether each text of a method can stand on a line and those of its parameters in a row. -/
def MethodDescriptor.Printable (m : MethodDescriptor) : Prop :=
  (∀ text ∈ [m.name, m.verb, m.route, m.description], '\n' ∉ text.toList) ∧
    ∀ p ∈ m.parameters, p.Printable

def ControllerDescriptor.Printable (c : ControllerDescriptor) : Prop :=
  '\n' ∉ c.name.toList ∧ ∀ m ∈ c.methods, m.Printable

instance (p : ParameterDescriptor) : Decidable p.Printable :=
  inferInstanceAs (Decidable (∀ text ∈ [p.name, p.type], '\n' ∉ text.toList ∧ '|' ∉ text.toList))

instance (m : MethodDescriptor) : Decidable m.Printable :=
  inferInstanceAs (Decidable ((∀ text ∈ [m.name, m.verb, m.route, m.description],
    '\n' ∉ text.toList) ∧ ∀ p ∈ m.parameters, p.Printable))

instance (c : ControllerDescriptor) : Decidable c.Printable :=
  inferInstanceAs (Decidable ('\n' ∉ c.name.toList ∧ ∀ m ∈ c.methods, m.Printable))

variable {p q : ParameterDescriptor} {m k : MethodDescriptor} {c d : ControllerDescriptor}

theorem ParameterDescriptor.Printable.not_mem_cells (h : p.Printable) :
    ∀ cell ∈ p.cells, '\n' ∉ cell ∧ '|' ∉ cell := by
  intro cell hcell
  obtain ⟨text, htext, rfl⟩ := List.mem_map.mp hcell
  have hrequired : ∀ b : Bool, '\n' ∉ (if b then "Yes" else "No").toList ∧
      '|' ∉ (if b then "Yes" else "No").toList := by decide
  rw [Template.parameterCells, List.mem_cons, List.mem_cons, List.mem_singleton] at htext
  obtain rfl | rfl | rfl := htext
  · exact h _ (by simp)
  · exact h _ (by simp)
  · exact hrequired p.required

theorem ParameterDescriptor.cells_ne_nil (p : ParameterDescriptor) : p.cells ≠ [] :=
  List.cons_ne_nil _ _

theorem ParameterDescriptor.eq_of_cells_eq (h : p.cells = q.cells) : p = q := by
  obtain ⟨pn, pt, pr⟩ := p
  obtain ⟨qn, qt, qr⟩ := q
  simp only [cells, Template.parameterCells, List.map_cons, List.map_nil, List.cons.injEq,
    String.toList_inj] at h
  obtain ⟨rfl, rfl, hrequired, -⟩ := h
  have hflag : ∀ a b : Bool, (if a then "Yes" else "No") = (if b then "Yes" else "No") → a = b := by
    decide
  rw [hflag pr qr hrequired]

theorem ParameterDescriptor.eq_of_rowLine_eq (hp : p.Printable) (hq : q.Printable)
    (h : TextFormat.markdown.rowLine p.cells = TextFormat.markdown.rowLine q.cells) : p = q := by
  have hcells := congrArg rowCells? h
  rw [rowCells?_rowLine p.cells_ne_nil fun cell hcell => (hp.not_mem_cells cell hcell).2,
    rowCells?_rowLine q.cells_ne_nil fun cell hcell => (hq.not_mem_cells cell hcell).2] at hcells
  exact eq_of_cells_eq (Option.some.inj hcells)

theorem eq_of_map_eq_map {α β : Type} {f : α → β} {xs ys : List α}
    (hf : ∀ x ∈ xs, ∀ y ∈ ys, f x = f y → x = y) (h : xs.map f = ys.map f) : xs = ys := by
  induction xs generalizing ys with
  | nil => simpa using h.symm
  | cons x xs ih =>
    cases ys with
    | nil => simp at h
    | cons y ys =>
      rw [List.map_cons, List.map_cons, List.cons.injEq] at h
      have hhead := hf x List.mem_cons_self y List.mem_cons_self h.1
      have htail := ih (fun a ha b hb => hf a (List.mem_cons_of_mem x ha) b
        (List.mem_cons_of_mem y hb)) h.2
      rw [hhead, htail]

theorem MethodDescriptor.parameters_eq_of_lines_eq (hm : m.Printable) (hk : k.Printable)
    (h : m.parameterLines = k.parameterLines) : m.parameters = k.parameters := by
  rw [parameterLines, parameterLines] at h
  cases hms : m.parameters with
  | nil =>
    cases hks : k.parameters with
    | nil => rfl
    | cons q qs => simp [hms, hks] at h
  | cons p ps =>
    cases hks : k.parameters with
    | nil => simp [hms, hks] at h
    | cons q qs =>
      rw [hms, hks] at h
      simp only [List.cons.injEq, true_and] at h
      rw [← hms, ← hks] at h ⊢
      exact eq_of_map_eq_map (fun p hp q hq =>
        ParameterDescriptor.eq_of_rowLine_eq (hm.2 p hp) (hk.2 q hq)) h

theorem MethodDescriptor.eq_of_sectionLines_eq (hm : m.Printable) (hk : k.Printable)
    (h : m.sectionLines = k.sectionLines) : m = k := by
  simp only [sectionLines, List.cons_append, List.nil_append, List.cons.injEq,
    List.append_cancel_left_eq, List.append_cancel_right_eq, String.toList_inj, true_and] at h
  obtain ⟨hname, hverb, hroute, hdescription, hlines⟩ := h
  have hparameters := parameters_eq_of_lines_eq hm hk hlines
  cases m
  cases k
  simp_all

theorem isTextLine_rowLine (h : p.Printable) :
    IsTextLine (TextFormat.markdown.rowLine p.cells) := by
  rw [TextFormat.rowLine]
  refine IsTextLine.append (IsTextLine.append ⟨by decide, by decide⟩ fun hmem => ?_) (by decide)
  obtain hbar | ⟨cell, hcell, hfeed⟩ := mem_intercalate hmem
  · exact absurd hbar (by decide)
  · exact (h.not_mem_cells cell hcell).1 hfeed

theorem MethodDescriptor.Printable.isTextLine_of_mem_parameterLines (h : m.Printable) :
    ∀ l ∈ m.parameterLines, IsTextLine l := by
  rw [parameterLines]
  split
  · rw [List.forall_mem_singleton]
    exact ⟨by decide, by decide⟩
  · rw [List.forall_mem_cons, List.forall_mem_cons, List.forall_mem_map]
    exact ⟨⟨by decide, by decide⟩, ⟨by decide, by decide⟩,
      fun p hp => isTextLine_rowLine (h.2 p hp)⟩

theorem MethodDescriptor.Printable.isSection (h : m.Printable) : IsSection m.sectionLines := by
  have hlines := h.isTextLine_of_mem_parameterLines
  obtain ⟨htexts, -⟩ := h
  simp only [List.forall_mem_cons] at htexts
  obtain ⟨hname, hverb, hroute, hdescription, -⟩ := htexts
  refine ⟨List.cons_ne_nil _ _, ?_⟩
  rw [sectionLines, List.forall_mem_append]
  simp only [List.forall_mem_cons]
  refine ⟨⟨?_, ?_, ?_, ?_, ?_, List.forall_mem_nil _⟩, hlines⟩
  · exact IsTextLine.append ⟨by decide, by decide⟩ hname
  · exact IsTextLine.append ⟨by decide, by decide⟩ hverb
  · exact IsTextLine.append (IsTextLine.append ⟨by decide, by decide⟩ hroute) (by decide)
  · exact IsTextLine.append ⟨by decide, by decide⟩ hdescription
  · exact ⟨by decide, by decide⟩

theorem ControllerDescriptor.Printable.isSection (h : c.Printable) :
    ∀ s ∈ c.sections, IsSection s := by
  have htitle : IsTextLine c.titleLine :=
    IsTextLine.append (IsTextLine.append ⟨by decide, by decide⟩ h.1) (by decide)
  rw [sections, List.forall_mem_cons, List.forall_mem_map]
  refine ⟨⟨List.cons_ne_nil _ _, ?_⟩, fun m hm => (h.2 m (List.mem_of_mem_tail hm)).isSection⟩
  rw [opening, List.forall_mem_cons]
  refine ⟨htitle, ?_⟩
  cases hmethods : c.methods with
  | nil => exact List.forall_mem_nil _
  | cons m ms => exact (h.2 m (hmethods ▸ List.mem_cons_self)).isSection.2

/-- Whether a section has a title on top. -/
def isTitled (ls : List (List Char)) : Bool := ls.head?.any ("# ".toList.isPrefixOf ·)

theorem ControllerDescriptor.isTitled_opening (c : ControllerDescriptor) :
    isTitled c.opening = true := by
  rw [opening, isTitled, List.head?_cons, Option.any_some, titleLine, List.append_assoc,
    List.isPrefixOf_iff_prefix]
  exact List.prefix_append _ _

theorem MethodDescriptor.isTitled_sectionLines (m : MethodDescriptor) :
    isTitled m.sectionLines = false := rfl

theorem isTitled_of_mem_head?_flatMap_sections (cs : List ControllerDescriptor) :
    ∀ s ∈ (cs.flatMap ControllerDescriptor.sections).head?, isTitled s = true := by
  cases cs with
  | nil => simp
  | cons c cs =>
    rw [List.flatMap_cons, ControllerDescriptor.sections, List.cons_append, List.head?_cons]
    rintro s hs
    rw [← Option.mem_some_iff.mp hs]
    exact c.isTitled_opening

def ControllerDescriptor.withoutPrefix (c : ControllerDescriptor) : ControllerDescriptor :=
  { c with routePrefix := "" }

theorem ControllerDescriptor.eq_of_opening_eq (hc : c.Printable) (hd : d.Printable)
    (hopening : c.opening = d.opening)
    (hrest : c.methods.tail.map MethodDescriptor.sectionLines =
      d.methods.tail.map MethodDescriptor.sectionLines) : c.withoutPrefix = d.withoutPrefix := by
  obtain ⟨cname, cprefix, cmethods⟩ := c
  obtain ⟨dname, dprefix, dmethods⟩ := d
  simp only [opening, titleLine, List.cons.injEq, List.append_cancel_left_eq,
    List.append_cancel_right_eq, String.toList_inj] at hopening
  obtain ⟨rfl, hfirst⟩ := hopening
  have hmethods : cmethods.map MethodDescriptor.sectionLines =
      dmethods.map MethodDescriptor.sectionLines := by
    cases cmethods with
    | nil =>
      cases dmethods with
      | nil => rfl
      | cons k ks => cases hfirst
    | cons m ms =>
      cases dmethods with
      | nil => cases hfirst
      | cons k ks =>
        rw [List.map_cons, List.map_cons]
        exact congrArg₂ List.cons hfirst hrest
  have hsame : cmethods = dmethods := eq_of_map_eq_map (fun m hm k hk =>
    MethodDescriptor.eq_of_sectionLines_eq (hc.2 m hm) (hd.2 k hk)) hmethods
  rw [withoutPrefix, withoutPrefix, hsame]

/-- The sections of controllers tell which they are. -/
theorem eq_of_flatMap_sections_eq {cs ds : List ControllerDescriptor}
    (hcs : ∀ c ∈ cs, c.Printable) (hds : ∀ d ∈ ds, d.Printable)
    (h : cs.flatMap ControllerDescriptor.sections = ds.flatMap ControllerDescriptor.sections) :
    cs.map ControllerDescriptor.withoutPrefix = ds.map ControllerDescriptor.withoutPrefix := by
  induction cs generalizing ds with
  | nil =>
    cases ds with
    | nil => rfl
    | cons d ds => cases h
  | cons c cs ih =>
    cases ds with
    | nil => cases h
    | cons d ds =>
      obtain ⟨hc, hcs⟩ := List.forall_mem_cons.mp hcs
      obtain ⟨hd, hds⟩ := List.forall_mem_cons.mp hds
      rw [List.flatMap_cons, List.flatMap_cons, ControllerDescriptor.sections,
        ControllerDescriptor.sections, List.cons_append, List.cons_append, List.cons.injEq] at h
      have huntitled (k : ControllerDescriptor) :
          ∀ s ∈ k.methods.tail.map MethodDescriptor.sectionLines, isTitled s = false :=
        List.forall_mem_map.mpr fun m _ => m.isTitled_sectionLines
      obtain ⟨hmethods, hrest⟩ := eq_and_eq_of_append_eq (huntitled c) (huntitled d)
        (isTitled_of_mem_head?_flatMap_sections cs) (isTitled_of_mem_head?_flatMap_sections ds) h.2
      rw [List.map_cons, List.map_cons, ih hcs hds hrest,
        ControllerDescriptor.eq_of_opening_eq hc hd h.1 hmethods]

theorem sectionsOf_renderBatch {cs : List ControllerDescriptor} (hcs : ∀ c ∈ cs, c.Printable) :
    sectionsOf (Format.markdown.renderBatch (cs.map ControllerDescriptor.document)).toList =
      cs.flatMap ControllerDescriptor.sections := by
  rw [toList_renderBatch]
  apply sectionsOf_page
  intro s hs
  obtain ⟨c, hc, hmem⟩ := List.mem_flatMap.mp hs
  exact (hcs c hc).isSection s hmem

/-- Of controllers whose texts can stand on their lines, two batches are one Markdown text just when
they say the same of the same controllers, in order, but for the prefixes of the routes. -/
theorem markdown_batch_eq_iff {cs ds : List ControllerDescriptor}
    (hcs : ∀ c ∈ cs, c.Printable) (hds : ∀ d ∈ ds, d.Printable) :
    Format.markdown.renderBatch (cs.map ControllerDescriptor.document) =
        Format.markdown.renderBatch (ds.map ControllerDescriptor.document) ↔
      cs.map ControllerDescriptor.withoutPrefix = ds.map ControllerDescriptor.withoutPrefix := by
  constructor
  · intro h
    apply eq_of_flatMap_sections_eq hcs hds
    rw [← sectionsOf_renderBatch hcs, h, sectionsOf_renderBatch hds]
  · intro h
    have hbatch (ks : List ControllerDescriptor) :
        Format.markdown.renderBatch (ks.map ControllerDescriptor.document) =
          Format.markdown.renderBatch
            ((ks.map ControllerDescriptor.withoutPrefix).map ControllerDescriptor.document) := by
      rw [Format.renderBatch, Format.renderBatch, List.map_map, List.map_map, List.map_map]
      rfl
    rw [hbatch cs, h, ← hbatch ds]

/-- A method without parameters whose description looks like a heading. -/
def listing : MethodDescriptor := ⟨"All", "UNKNOWN", "/", "## Get", []⟩

def fetching : MethodDescriptor := ⟨"Get", "HTTPGET", "/Get", "-", [⟨"id", "u8", true⟩]⟩

def bothInFirst : List ControllerDescriptor := [⟨"A", "a", [listing, fetching]⟩, ⟨"B", "", []⟩]

def bothInFirstElsewhere : List ControllerDescriptor :=
  [⟨"A", "", [listing, fetching]⟩, ⟨"B", "b", []⟩]

def oneInEach : List ControllerDescriptor := [⟨"A", "a", [listing]⟩, ⟨"B", "", [fetching]⟩]

theorem bothInFirst_batch :
    (∀ c ∈ bothInFirst, c.Printable) ∧ (∀ c ∈ bothInFirstElsewhere, c.Printable) ∧
    (∀ c ∈ oneInEach, c.Printable) ∧
    Format.markdown.renderBatch (bothInFirst.map ControllerDescriptor.document) =
      Format.markdown.renderBatch (bothInFirstElsewhere.map ControllerDescriptor.document) ∧
    Format.markdown.renderBatch (bothInFirst.map ControllerDescriptor.document) ≠
      Format.markdown.renderBatch (oneInEach.map ControllerDescriptor.document) := by
  have hfirst : ∀ c ∈ bothInFirst, c.Printable := by decide
  have helsewhere : ∀ c ∈ bothInFirstElsewhere, c.Printable := by decide
  have heach : ∀ c ∈ oneInEach, c.Printable := by decide
  refine ⟨hfirst, helsewhere, heach, (markdown_batch_eq_iff hfirst helsewhere).mpr rfl,
    fun h => ?_⟩
  exact absurd ((markdown_batch_eq_iff hfirst heach).mp h) (by decide)

end Reading

end TypeDocs
