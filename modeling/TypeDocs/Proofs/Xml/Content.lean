import TypeDocs.Proofs.Xml.Scan

/-!
# Content of an element

Content is character data with elements and other constructs between, each element with content of
its own. The scanner gives the pieces of a content in its order, and every end tag in it closes the
tag opened last.
-/

namespace TypeDocs.Xml

structure CharData where
  chars : List Char
  lt_notMem : '<' ∉ chars

/-- Every angle bracket that is opened is closed, and none is closed that is not open. -/
def closesAll : Nat → List Char → Bool
  | depth, [] => depth == 0
  | depth, c :: cs =>
    if c == '<' then closesAll (depth + 1) cs
    else if c == '>' then
      match depth with
      | 0 => false
      | depth + 1 => closesAll depth cs
    else closesAll depth cs

/-- What stands between character data and has no content that is read. -/
inductive Leaf where
  /-- An element without content. -/
  | empty (t : Tag)
  | comment (content : List Char) (h : ¬ ['-', '-'] <:+: content ++ ['-'])
  | cdata (content : List Char) (h : ¬ [']', ']', '>'] <:+: content)
  | instruction (content : List Char) (h : ¬ ['?', '>'] <:+: '?' :: content)
  | doctype (content : List Char) (h : closesAll 0 content = true)
      (hname : content.all isSpace = false)

def Leaf.chars : Leaf → List Char
  | .empty t => t.alone
  | .comment content _ => ['<', '!', '-', '-'] ++ content ++ ['-', '-', '>']
  | .cdata content _ =>
    ['<', '!', '[', 'C', 'D', 'A', 'T', 'A', '['] ++ content ++ [']', ']', '>']
  | .instruction content _ => ['<', '?'] ++ content ++ ['?', '>']
  | .doctype content _ _ =>
    ['<', '!', 'D', 'O', 'C', 'T', 'Y', 'P', 'E'] ++ content ++ ['>']

def Leaf.markup : Leaf → Markup
  | .empty t => .empty t.chars
  | .cdata content _ => .cdata content
  | .comment .. | .instruction .. | .doctype .. => .ignored

/-- Content, with the character data before each of its parts. -/
inductive Content where
  | last (t : CharData)
  | leaf (t : CharData) (l : Leaf) (rest : Content)
  | element (t : CharData) (tag : Tag) (inner : Content) (space : Space) (rest : Content)

def Content.chars : Content → List Char
  | .last t => t.chars
  | .leaf t l rest => t.chars ++ (l.chars ++ rest.chars)
  | .element t tag inner space rest =>
    t.chars ++ (tag.opening ++ (inner.chars ++ (tag.name.closing space ++ rest.chars)))

def CharData.markup (t : CharData) : List Markup :=
  if t.chars.isEmpty then [] else [.text t.chars]

def Content.markup : Content → List Markup
  | .last t => t.markup
  | .leaf t l rest => t.markup ++ l.markup :: rest.markup
  | .element t tag inner _ rest =>
    t.markup ++ .opening tag.chars :: (inner.markup ++ .closing tag.name.chars :: rest.markup)

/-! ### Leaves -/

/-- What the scanner has last read of a content stands in the content before the next character. -/
theorem infix_of_isPrefixOf {x c : Char} {content pre post before : List Char}
    (hcs : content = pre ++ c :: post) (hlen : 2 ≤ pre.length)
    (h : [x, x].isPrefixOf (pre.reverse ++ before) = true) : [x, x, c] <:+: content := by
  have hread : [x, x].reverse <+: pre.reverse := by
    apply List.prefix_of_prefix_length_le (List.isPrefixOf_iff_prefix.mp h)
    · exact List.prefix_append pre.reverse before
    · rw [List.length_reverse]
      exact hlen
  obtain ⟨start, hstart⟩ := List.reverse_prefix.mp hread
  refine ⟨start, post, ?_⟩
  rw [hcs, ← hstart]
  simp

theorem leads_comment (content : List Char) (h : ¬ ['-', '-'] <:+: content ++ ['-']) :
    Leads (.text []) (['<', '!', '-', '-'] ++ content ++ ['-', '-', '>']) (.text [])
      [.ignored] := by
  have hbegin : Leads (.text []) ['<', '!', '-', '-'] (.comment ['-', '-', '!']) [] := by
    intro rest
    rfl
  have hcontent : Leads (.comment ['-', '-', '!']) content
      (.comment (content.reverse ++ ['-', '-', '!'])) [] := by
    apply Leads.keep .comment
    intro pre c post hcs
    have hread : ¬ ((c = '>' ∧ 4 < (pre.reverse ++ ['-', '-', '!']).length) ∧
        ['-', '-'].isPrefixOf (pre.reverse ++ ['-', '-', '!']) = true) := by
      rintro ⟨⟨-, hlen⟩, hprefix⟩
      simp only [List.length_append, List.length_reverse, List.length_cons, List.length_nil] at hlen
      obtain ⟨start, rest, hinfix⟩ := infix_of_isPrefixOf hcs (by omega) hprefix
      apply h
      refine ⟨start, c :: rest ++ ['-'], ?_⟩
      rw [← hinfix]
      simp
    simp only [step, Bool.and_eq_true, beq_iff_eq, decide_eq_true_eq, gt_iff_lt]
    rw [if_neg hread]
  have hend : Leads (.comment (content.reverse ++ ['-', '-', '!'])) ['-', '-', '>'] (.text [])
      [.ignored] := by
    refine Leads.quiet (q := .comment ('-' :: (content.reverse ++ ['-', '-', '!']))) rfl
      (Leads.quiet (q := .comment ('-' :: '-' :: (content.reverse ++ ['-', '-', '!']))) rfl
        (Leads.last ?_))
    simp [step]
  exact (hbegin.trans hcontent).trans hend

theorem leads_cdata (content : List Char) (h : ¬ [']', ']', '>'] <:+: content) :
    Leads (.text []) (['<', '!', '[', 'C', 'D', 'A', 'T', 'A', '['] ++ content ++ [']', ']', '>'])
      (.text []) [.cdata content] := by
  let marks : List Char := ['[', 'A', 'T', 'A', 'D', 'C', '[', '!']
  have hbegin : Leads (.text []) ['<', '!', '[', 'C', 'D', 'A', 'T', 'A', '[']
      (.cdata marks) [] := by
    intro rest
    rfl
  have hcontent : Leads (.cdata marks) content (.cdata (content.reverse ++ marks)) [] := by
    apply Leads.keep .cdata
    intro pre c post hcs
    have hread : ¬ (c = '>' ∧ [']', ']'].isPrefixOf (pre.reverse ++ marks) = true) := by
      rintro ⟨rfl, hprefix⟩
      by_cases hlen : 2 ≤ pre.length
      · exact h (infix_of_isPrefixOf hcs hlen hprefix)
      · obtain _ | ⟨a, _ | ⟨b, as⟩⟩ := pre
        · simp [marks] at hprefix
        · simp [marks] at hprefix
        · simp at hlen
    simp only [step, Bool.and_eq_true, beq_iff_eq]
    rw [if_neg hread]
  have hend : Leads (.cdata (content.reverse ++ marks)) [']', ']', '>'] (.text [])
      [.cdata content] := by
    refine Leads.quiet (q := .cdata (']' :: (content.reverse ++ marks))) rfl
      (Leads.quiet (q := .cdata (']' :: ']' :: (content.reverse ++ marks))) rfl (Leads.last ?_))
    have hread : (']' :: ']' :: (content.reverse ++ marks)).reverse =
        ['!', '[', 'C', 'D', 'A', 'T', 'A', '['] ++ (content ++ [']'] ++ [']']) := by
      simp [marks]
    simp only [step]
    rw [hread]
    simp
  exact (hbegin.trans hcontent).trans hend

theorem leads_instruction (content : List Char) (h : ¬ ['?', '>'] <:+: '?' :: content) :
    Leads (.text []) (['<', '?'] ++ content ++ ['?', '>']) (.text []) [.ignored] := by
  have hbegin : Leads (.text []) ['<', '?'] (.instruction ['?']) [] := by
    intro rest
    rfl
  have hcontent : Leads (.instruction ['?']) content
      (.instruction (content.reverse ++ ['?'])) [] := by
    apply Leads.keep .instruction
    intro pre c post hcs
    have hread : ¬ (c = '>' ∧ (pre.reverse ++ ['?']).head? = some '?') := by
      rintro ⟨rfl, hhead⟩
      rw [← List.reverse_cons, List.head?_reverse, List.getLast?_eq_some_iff] at hhead
      obtain ⟨start, hstart⟩ := hhead
      apply h
      refine ⟨start, post, ?_⟩
      rw [hcs, ← List.cons_append, hstart]
      simp
    simp only [step, Bool.and_eq_true, beq_iff_eq]
    rw [if_neg hread]
  have hend : Leads (.instruction (content.reverse ++ ['?'])) ['?', '>'] (.text [])
      [.ignored] := by
    refine Leads.quiet (q := .instruction ('?' :: (content.reverse ++ ['?']))) rfl
      (Leads.last ?_)
    simp [step]
  exact (hbegin.trans hcontent).trans hend

theorem leads_closesAll (depth : Nat) (content read : List Char)
    (h : closesAll depth content = true) :
    Leads (.doctype depth read) content (.doctype 0 (content.reverse ++ read)) [] := by
  induction content generalizing depth read with
  | nil =>
    have hdepth : depth = 0 := by simpa [closesAll] using h
    rw [hdepth]
    exact Leads.nil _
  | cons c cs ih =>
    unfold closesAll at h
    rw [List.reverse_cons, List.append_assoc, List.singleton_append]
    by_cases hopen : c = '<'
    · subst hopen
      exact Leads.quiet rfl (ih (depth + 1) ('<' :: read) h)
    · rw [if_neg (by simpa using hopen)] at h
      by_cases hclose : c = '>'
      · subst hclose
        cases depth with
        | zero => simp at h
        | succ depth => exact Leads.quiet rfl (ih depth ('>' :: read) h)
      · rw [if_neg (by simpa using hclose)] at h
        have hstep : step (.doctype depth read) c = .ok (.doctype depth (c :: read), []) := by
          simp [step, hopen, hclose]
        exact Leads.quiet hstep (ih depth (c :: read) h)

theorem leads_doctype (content : List Char) (h : closesAll 0 content = true)
    (hname : content.all isSpace = false) :
    Leads (.text []) (['<', '!', 'D', 'O', 'C', 'T', 'Y', 'P', 'E'] ++ content ++ ['>'])
      (.text []) [.ignored] := by
  let marks : List Char := ['E', 'P', 'Y', 'T', 'C', 'O', 'D', '!']
  have hbegin : Leads (.text []) ['<', '!', 'D', 'O', 'C', 'T', 'Y', 'P', 'E']
      (.doctype 0 marks) [] := by
    intro rest
    rfl
  have hend : Leads (.doctype 0 (content.reverse ++ marks)) ['>'] (.text []) [.ignored] := by
    apply Leads.last
    have hread : (content.reverse ++ marks).reverse =
        ['!', 'D', 'O', 'C', 'T', 'Y', 'P', 'E'] ++ content := by
      simp [marks]
    have hword : lowerIs "!doctype" ['!', 'D', 'O', 'C', 'T', 'Y', 'P', 'E'] = true := by
      decide +kernel
    simp only [step]
    rw [hread]
    simp [doctypeEnd, hword, hname]
  exact (hbegin.trans (leads_closesAll 0 content marks h)).trans hend

theorem Leaf.leads (l : Leaf) : Leads (.text []) l.chars (.text []) [l.markup] := by
  cases l with
  | empty t => exact t.leads_alone
  | comment content h => exact leads_comment content h
  | cdata content h => exact leads_cdata content h
  | instruction content h => exact leads_instruction content h
  | doctype content h hname => exact leads_doctype content h hname

/-! ### Content -/

/-- Where character data ends: at the end of the text or where markup begins. -/
def AtMarkup (rest : List Char) : Prop := rest = [] ∨ ∃ more, rest = '<' :: more

theorem atMarkup_cons (rest : List Char) : AtMarkup ('<' :: rest) := Or.inr ⟨rest, rfl⟩

theorem Leaf.atMarkup (l : Leaf) (rest : List Char) : AtMarkup (l.chars ++ rest) := by
  cases l <;> exact atMarkup_cons _

theorem Tag.atMarkup_opening (t : Tag) (rest : List Char) : AtMarkup (t.opening ++ rest) :=
  atMarkup_cons _

theorem Name.atMarkup_closing (n : Name) (s : Space) (rest : List Char) :
    AtMarkup (n.closing s ++ rest) :=
  atMarkup_cons _

/-- What has been read of character data is given before what follows it. -/
theorem piecesFrom_text (read rest : List Char) (h : AtMarkup rest) :
    piecesFrom (.text read) rest = ahead (finish (.text read)).1 (piecesFrom (.text []) rest) := by
  obtain rfl | ⟨more, rfl⟩ := h
  · simp [piecesFrom, finish, ahead]
  · rw [piecesFrom_cons, piecesFrom_cons]
    simp [step, finish, ahead]

theorem CharData.piecesFrom (t : CharData) (rest : List Char) (h : AtMarkup rest) :
    piecesFrom (.text []) (t.chars ++ rest) = ahead t.markup (piecesFrom (.text []) rest) := by
  have hkeep : Leads (.text []) t.chars (.text (t.chars.reverse ++ [])) [] := by
    apply Leads.keep .text
    intro pre c post hcs
    have hc : c ≠ '<' := by
      rintro rfl
      apply t.lt_notMem
      rw [hcs]
      simp
    simp [step, hc]
  have hmarkup : (finish (.text (t.chars.reverse ++ []))).1 = t.markup := by
    simp [finish, CharData.markup]
  rw [hkeep rest, ahead_nil, piecesFrom_text _ rest h, hmarkup]

theorem piecesFrom_content (c : Content) (rest : List Char) (h : AtMarkup rest) :
    piecesFrom (.text []) (c.chars ++ rest) = ahead c.markup (piecesFrom (.text []) rest) := by
  induction c generalizing rest with
  | last t => exact t.piecesFrom rest h
  | leaf t l more ih =>
    have hleaf := l.leads (more.chars ++ rest)
    rw [Content.chars, List.append_assoc, List.append_assoc,
      t.piecesFrom _ (l.atMarkup _), hleaf, ih rest h, Content.markup, ahead_append]
    rfl
  | element t tag inner space more ihInner ihMore =>
    have hopening := tag.leads_opening
      (inner.chars ++ (tag.name.closing space ++ (more.chars ++ rest)))
    have hinner := ihInner (tag.name.closing space ++ (more.chars ++ rest))
      (tag.name.atMarkup_closing space _)
    have hclosing := tag.name.leads_closing space (more.chars ++ rest)
    have hchars : (Content.element t tag inner space more).chars ++ rest = t.chars ++
        (tag.opening ++ (inner.chars ++ (tag.name.closing space ++ (more.chars ++ rest)))) := by
      simp only [Content.chars, List.append_assoc]
    rw [hchars, t.piecesFrom _ (tag.atMarkup_opening _), hopening, hinner, hclosing, ihMore rest h]
    simp [Content.markup, ahead]

theorem nested_text (stop : Option Malformed) (opened : List (List Char)) (t : CharData)
    (ms : List Markup) :
    nested stop opened (t.markup ++ ms) = ahead t.markup (nested stop opened ms) := by
  unfold CharData.markup
  split
  · rfl
  · rfl

theorem nested_leaf (stop : Option Malformed) (opened : List (List Char)) (l : Leaf)
    (ms : List Markup) :
    nested stop opened (l.markup :: ms) = ahead [l.markup] (nested stop opened ms) := by
  cases l <;> rfl

theorem nested_content (stop : Option Malformed) (c : Content) (opened : List (List Char))
    (ms : List Markup) :
    nested stop opened (c.markup ++ ms) = ahead c.markup (nested stop opened ms) := by
  induction c generalizing opened ms with
  | last t => exact nested_text stop opened t ms
  | leaf t l rest ih =>
    rw [Content.markup, List.append_assoc, nested_text, List.cons_append, nested_leaf, ih]
    simp [ahead]
  | element t tag inner space rest ihInner ihRest =>
    have hopening : ∀ ms, nested stop opened (.opening tag.chars :: ms) =
        ahead [.opening tag.chars] (nested stop (tag.name.chars :: opened) ms) := by
      intro ms
      rw [nested, tagName_chars]
      rfl
    have hclosing : ∀ ms, nested stop (tag.name.chars :: opened) (.closing tag.name.chars :: ms) =
        ahead [.closing tag.name.chars] (nested stop opened ms) := by
      intro ms
      rw [nested]
      simp [ahead]
    rw [Content.markup, List.append_assoc, nested_text, List.cons_append, hopening,
      List.append_assoc, ihInner, List.cons_append, hclosing, ihRest]
    simp [ahead]

/-! ### Whole texts -/

/-- The text without a byte order mark. -/
def dropMark : List Char → List Char
  | '\ufeff' :: cs => cs
  | cs => cs

theorem dropMark_of_ne {cs : List Char} (h : cs.head? ≠ some '\ufeff') : dropMark cs = cs := by
  unfold dropMark
  split
  · exact absurd rfl h
  · rfl

theorem pieces_eq (cs : List Char) :
    pieces cs = nested (piecesFrom (.text []) (dropMark cs)).2 []
      (piecesFrom (.text []) (dropMark cs)).1 := rfl

/-- The pieces of a text that is a content. -/
theorem pieces_content {cs : List Char} (c : Content) (h : dropMark cs = c.chars) :
    pieces cs = (c.markup, none) := by
  have hscan := piecesFrom_content c [] (Or.inl rfl)
  have hnested := nested_content none c [] []
  rw [List.append_nil] at hscan hnested
  have hend : piecesFrom (.text []) [] = ([], none) := rfl
  rw [pieces_eq, h, hscan, hend]
  simp only [ahead, List.append_nil]
  rw [hnested]
  simp [nested, ahead]

end TypeDocs.Xml
