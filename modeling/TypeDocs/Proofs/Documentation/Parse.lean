import TypeDocs.Proofs.Documentation.Format

/-!
# Reading documentation

A text in the format is always read. The summaries are taken in order, a summary says the words of
all that it shows, and of several for one name the first stays.
-/

namespace TypeDocs.Documentation

open Xml

/-- Takes in a summary under a name, unless there is one. -/
def keep (members : List (String × String)) (entry : String × List (List Char)) :
    List (String × String) :=
  if (members.lookup entry.1).isSome then members
  else members ++ [(entry.1, summaryText entry.2)]

/-! ### Steps -/

theorem steps_append (r : Reading) (ms ns : List Markup) :
    r.steps (ms ++ ns) = (r.steps ms).bind fun r => r.steps ns := by
  induction ms generalizing r with
  | nil => rfl
  | cons m ms ih =>
    rw [List.cons_append, Reading.steps, Reading.steps]
    cases r.step m with
    | error e => rfl
    | ok r => exact ih r

theorem steps_cons {r r' : Reading} {m : Markup} (h : r.step m = .ok r') (ms : List Markup) :
    r.steps (m :: ms) = r'.steps ms := by
  rw [Reading.steps, h]
  rfl

theorem steps_append_of_eq {r r' : Reading} {ms : List Markup} (h : r.steps ms = .ok r')
    (ns : List Markup) : r.steps (ms ++ ns) = r'.steps ns := by
  rw [steps_append, h]
  rfl

theorem summaryTag_ne_memberTag : summaryTag ≠ memberTag := by decide

variable (ms : List (String × String)) (m : Option String)

/-- Outside a summary character data says nothing. -/
theorem steps_text (t : CharData) : Reading.steps ⟨ms, m, none⟩ t.markup = .ok ⟨ms, m, none⟩ := by
  unfold CharData.markup
  split
  · rfl
  · rfl

theorem step_leaf (l : Leaf) :
    Reading.step ⟨ms, m, none⟩ l.markup = .ok ⟨ms, m, none⟩ := by
  cases l <;> rfl

theorem step_opening_element {tag : Tag} (words : Option (List (List Char)))
    (hmember : tag.name.chars ≠ memberTag) (hsummary : tag.name.chars ≠ summaryTag) :
    Reading.step ⟨ms, m, words⟩ (.opening tag.chars) = .ok ⟨ms, m, words⟩ := by
  simp [Reading.step, tagName_chars, hmember, hsummary]

theorem step_closing_element {tag : Tag} (words : Option (List (List Char)))
    (hmember : tag.name.chars ≠ memberTag) (hsummary : tag.name.chars ≠ summaryTag) :
    Reading.step ⟨ms, m, words⟩ (.closing tag.name.chars) = .ok ⟨ms, m, words⟩ := by
  simp [Reading.step, hmember, hsummary]

/-! ### Summaries -/

theorem step_shownLeaf {l : Leaf} {shown : List (List Char)} (h : shownLeaf l = .ok shown)
    (ws : List (List Char)) :
    Reading.step ⟨ms, m, some ws⟩ l.markup =
      .ok ⟨ms, m, some (ws ++ shown.flatMap Text.words)⟩ := by
  cases l with
  | empty t =>
    simp only [shownLeaf] at h
    simp only [Leaf.markup, Reading.step, Option.isSome_some, if_true, attribute?_chars]
    cases hcref : t.given "cref" with
    | error e =>
      rw [hcref] at h
      cases h
    | ok reference =>
      rw [hcref] at h
      cases reference <;> cases h
      · simp [bind, Except.bind, pure, Except.pure]
      · simp [bind, Except.bind, pure, Except.pure, Reading.add]
  | cdata content hc =>
    cases h
    simp [Leaf.markup, Reading.step, Reading.add]
  | comment | instruction | doctype =>
    cases h
    simp [Leaf.markup, Reading.step]

theorem steps_shownText {t : CharData} {cs : List Char} (h : Written t.chars cs)
    (ws : List (List Char)) :
    Reading.steps ⟨ms, m, some ws⟩ t.markup = .ok ⟨ms, m, some (ws ++ Text.words cs)⟩ := by
  rw [← resolved_eq_ok_iff] at h
  unfold CharData.markup
  by_cases ht : t.chars = []
  · rw [ht] at h ⊢
    cases h
    have hnone : Text.words [] = [] := rfl
    rw [hnone, List.append_nil]
    rfl
  · have hstep : Reading.step ⟨ms, m, some ws⟩ (.text t.chars) =
        .ok ⟨ms, m, some (ws ++ Text.words cs)⟩ := by
      simp [Reading.step, Reading.add, h, bind, Except.bind, pure, Except.pure]
    rw [if_neg (by simpa using ht), steps_cons hstep]
    rfl

/-- Inside a summary the words of all that is shown are added in order. -/
theorem steps_summary {c : Content} {shown : List (List Char)} (h : Summary c shown)
    (ws : List (List Char)) :
    Reading.steps ⟨ms, m, some ws⟩ c.markup =
      .ok ⟨ms, m, some (ws ++ shown.flatMap Text.words)⟩ := by
  induction h generalizing ws with
  | last ht =>
    rw [Content.markup, steps_shownText ms m ht, List.flatMap_singleton]
  | leaf ht hl hrest ih =>
    rw [Content.markup, steps_append_of_eq (steps_shownText ms m ht ws),
      steps_cons (step_shownLeaf ms m hl _), ih]
    simp
  | element ht hmember hsummary hinner hrest ihInner ihRest =>
    rw [Content.markup, steps_append_of_eq (steps_shownText ms m ht ws),
      steps_cons (step_opening_element ms m _ hmember hsummary),
      steps_append_of_eq (ihInner _),
      steps_cons (step_closing_element ms m _ hmember hsummary), ihRest]
    simp

/-! ### Members -/

theorem step_closing_summary (name : String) (shown : List (List Char)) :
    Reading.step ⟨ms, some name, some ([] ++ shown.flatMap Text.words)⟩ (.closing summaryTag) =
      .ok ⟨keep ms (name, shown), some name, none⟩ := by
  simp [Reading.step, Reading.endSummary, keep, summaryText]

/-- Inside a member each summary is kept under its name unless one was kept before. -/
theorem steps_body {c : Content} {within : List (List (List Char))} (h : Body c within)
    (name : String) :
    Reading.steps ⟨ms, some name, none⟩ c.markup =
      .ok ⟨(within.map (name, ·)).foldl keep ms, some name, none⟩ := by
  induction h generalizing ms with
  | last => exact steps_text ms (some name) _
  | leaf hrest ih =>
    rw [Content.markup, steps_append_of_eq (steps_text ms (some name) _),
      steps_cons (step_leaf ms (some name) _), ih]
  | @summary _ tag inner rest _ shown after hsummary hinner hrest ih =>
    -- the words begin empty, so that nothing of an earlier summary is left in them
    have hopening : Reading.step ⟨ms, some name, none⟩ (.opening tag.chars) =
        .ok ⟨ms, some name, some []⟩ := by
      simp [Reading.step, tagName_chars, hsummary, summaryTag_ne_memberTag]
    rw [Content.markup, steps_append_of_eq (steps_text ms (some name) _), steps_cons hopening,
      steps_append_of_eq (steps_summary ms (some name) hinner []), hsummary,
      steps_cons (step_closing_summary ms name shown), ih]
    rfl
  | element hmember hsummary hinner hrest ihInner ihRest =>
    rw [Content.markup, steps_append_of_eq (steps_text ms (some name) _),
      steps_cons (step_opening_element ms (some name) _ hmember hsummary),
      steps_append_of_eq (ihInner ms),
      steps_cons (step_closing_element _ (some name) _ hmember hsummary), ihRest,
      List.map_append, List.foldl_append]

/-- Over a whole text the summaries are kept in their order. -/
theorem steps_members {c : Content} {entries : List (String × List (List Char))}
    (h : Members c entries) :
    Reading.steps ⟨ms, none, none⟩ c.markup = .ok ⟨entries.foldl keep ms, none, none⟩ := by
  induction h generalizing ms with
  | last => exact steps_text ms none _
  | leaf hrest ih =>
    rw [Content.markup, steps_append_of_eq (steps_text ms none _),
      steps_cons (step_leaf ms none _), ih]
  | @member _ tag name inner rest _ within after hmember hname hinner hrest ih =>
    have hopening : Reading.step ⟨ms, none, none⟩ (.opening tag.chars) =
        .ok ⟨ms, some name, none⟩ := by
      simp [Reading.step, tagName_chars, hmember, attribute?_chars, hname, bind, Except.bind,
        pure, Except.pure]
    have hclosing : ∀ ms, Reading.step ⟨ms, some name, none⟩ (.closing tag.name.chars) =
        .ok ⟨ms, none, none⟩ := by
      intro ms
      simp [Reading.step, hmember, summaryTag_ne_memberTag.symm]
    rw [Content.markup, steps_append_of_eq (steps_text ms none _), steps_cons hopening,
      steps_append_of_eq (steps_body ms hinner name), steps_cons (hclosing _), ih,
      List.foldl_append]
  | @element _ tag inner rest _ within after hmember hinner hrest ihInner ihRest =>
    have hopening : Reading.step ⟨ms, none, none⟩ (.opening tag.chars) =
        .ok ⟨ms, none, none⟩ := by
      by_cases htag : tag.name.chars = memberTag
      · simp [Reading.step, tagName_chars, htag, attribute?_chars, hmember htag, bind,
          Except.bind, pure, Except.pure]
      · simp [Reading.step, tagName_chars, htag]
    -- no summary is begun outside a member, so its end tag ends nothing
    have hclosing : ∀ ms, Reading.step ⟨ms, none, none⟩ (.closing tag.name.chars) =
        .ok ⟨ms, none, none⟩ := by
      intro ms
      simp only [Reading.step, Reading.endSummary]
      split
      · rfl
      · split
        · rfl
        · rfl
    rw [Content.markup, steps_append_of_eq (steps_text ms none _), steps_cons hopening,
      steps_append_of_eq (ihInner ms), steps_cons (hclosing _), ihRest, List.foldl_append]

/-! ### Which summary is kept -/

theorem isSome_lookup_iff {α : Type} (entries : List (String × α)) (name : String) :
    (entries.lookup name).isSome = true ↔ name ∈ entries.map (·.1) := by
  rw [List.lookup_isSome_iff, List.mem_map]
  constructor
  · rintro ⟨p, hp, hname⟩
    exact ⟨p, hp, (beq_iff_eq.mp hname).symm⟩
  · rintro ⟨p, hp, rfl⟩
    exact ⟨p, hp, beq_self_eq_true p.1⟩

/-- What is found under a name hangs on the entries of some names alone, if that is one of them. -/
theorem lookup_filter {α : Type} {p : String → Bool} {name : String} (h : p name = true)
    (entries : List (String × α)) :
    (entries.filter fun entry => p entry.1).lookup name = entries.lookup name := by
  induction entries with
  | nil => rfl
  | cons entry entries ih =>
    obtain ⟨first, value⟩ := entry
    cases hfirst : p first with
    | true => rw [List.filter_cons_of_pos (by exact hfirst), List.lookup_cons, List.lookup_cons, ih]
    | false =>
      have hne : (name == first) = false := by
        refine beq_eq_false_iff_ne.mpr ?_
        rintro rfl
        exact Bool.false_ne_true (hfirst.symm.trans h)
      rw [List.filter_cons_of_neg (by simp [hfirst]), ih, List.lookup_cons, hne]

theorem lookup_keep (entry : String × List (List Char)) (name : String) :
    (keep ms entry).lookup name =
      (ms.lookup name).or (if name == entry.1 then some (summaryText entry.2) else none) := by
  unfold keep
  by_cases hkept : (ms.lookup entry.1).isSome = true
  · rw [if_pos hkept]
    by_cases hname : name = entry.1
    · obtain ⟨s, hs⟩ := Option.isSome_iff_exists.mp hkept
      rw [hname, hs]
      rfl
    · simp [hname]
  · rw [if_neg hkept, List.lookup_append, List.lookup_cons, List.lookup_nil]
    cases name == entry.1 <;> rfl

theorem lookup_foldl_keep (entries : List (String × List (List Char))) (name : String) :
    (entries.foldl keep ms).lookup name =
      (ms.lookup name).or ((entries.lookup name).map summaryText) := by
  induction entries generalizing ms with
  | nil => simp
  | cons entry entries ih =>
    obtain ⟨first, shown⟩ := entry
    rw [List.foldl_cons, ih, lookup_keep, List.lookup_cons, Option.or_assoc]
    cases name == first with
    | true => rfl
    | false => rfl

/-- What is kept after more is read: the same, or one summary more under a new name. -/
inductive Kept : List (String × String) → Prop where
  | same : Kept ms
  | added {name : String} (s : String) (hnew : ¬ (ms.lookup name).isSome = true) :
    Kept (ms ++ [(name, s)])

variable {ms} in
theorem Kept.nodup {ms' : List (String × String)} (hkept : Kept ms ms')
    (h : (ms.map (·.1)).Nodup) : (ms'.map (·.1)).Nodup := by
  cases hkept with
  | same => exact h
  | @added name s hnew =>
    rw [List.map_append, List.nodup_append]
    rw [isSome_lookup_iff] at hnew
    refine ⟨h, by simp, ?_⟩
    intro a ha b hb hab
    have hbe : b = name := by simpa using hb
    rw [hab, hbe] at ha
    exact hnew ha

variable {ms} in
/-- What was kept is never taken back. -/
theorem Kept.isPrefix {ms' : List (String × String)} (hkept : Kept ms ms') : ms <+: ms' := by
  cases hkept with
  | same => exact List.prefix_refl _
  | added => exact List.prefix_append _ _

theorem kept_keep (entry : String × List (List Char)) : Kept ms (keep ms entry) := by
  unfold keep
  by_cases hkept : (ms.lookup entry.1).isSome = true
  · rw [if_pos hkept]
    exact .same
  · rw [if_neg hkept]
    exact .added _ hkept

theorem nodup_foldl_keep (entries : List (String × List (List Char)))
    (h : (ms.map (·.1)).Nodup) : ((entries.foldl keep ms).map (·.1)).Nodup := by
  induction entries generalizing ms with
  | nil => exact h
  | cons entry entries ih => exact ih _ ((kept_keep ms entry).nodup h)

theorem lookup_kept (entries : List (String × List (List Char))) (name : String) :
    (entries.foldl keep []).lookup name = (entries.lookup name).map summaryText := by
  rw [lookup_foldl_keep, List.lookup_nil, Option.none_or]

/-- What is kept of a text in the format are its summaries, of several for one name the first. -/
theorem parse_of_members {doc : Document} {entries : List (String × List (List Char))}
    (h : Members doc.content entries) : parse doc.text = .ok ⟨entries.foldl keep []⟩ := by
  have hsteps : Reading.start.steps doc.content.markup =
      .ok ⟨entries.foldl keep [], none, none⟩ := steps_members [] h
  unfold parse
  rw [doc.pieces_text]
  simp only [hsteps]

/-- A text in the format is read. A name has an entry just when a member of that name has a
summary, and the entry says the words of the first one. -/
theorem parse_text {doc : Document} {entries : List (String × List (List Char))}
    (h : Members doc.content entries) :
    ∃ d, parse doc.text = .ok d ∧ (d.members.map (·.1)).Nodup ∧
      (∀ name, name ∈ d.members.map (·.1) ↔ name ∈ entries.map (·.1)) ∧
      ∀ name, d.members.lookup name = (entries.lookup name).map summaryText := by
  refine ⟨⟨entries.foldl keep []⟩, parse_of_members h, nodup_foldl_keep [] entries List.nodup_nil,
    fun name => ?_, lookup_kept entries⟩
  rw [← isSome_lookup_iff, ← isSome_lookup_iff, lookup_kept, Option.isSome_map]

/-! A text with one member, whose summary names another. -/

def noSpace : Space := ⟨[], rfl⟩

def noText : CharData := ⟨[], by decide⟩

def tagOf (name : Name) (attributes : List WrittenAttribute) : Tag := ⟨name, attributes, noSpace⟩

def attributeOf (key : Name) (value : List Char) (h : '"' ∉ value) : WrittenAttribute where
  gap := ⟨[' '], rfl⟩
  gap_ne_nil := by decide
  key := key
  before := noSpace
  after := noSpace
  quote := '"'
  quote_eq := Or.inl rfl
  value := value
  quote_notMem := h

def summaryName : Name := ⟨summaryTag, by decide, by decide⟩

def memberName : Name := ⟨memberTag, by decide, by decide⟩

/-- The name of the attribute that names a member. -/
def nameKey : Name := ⟨"name".toList, by decide, by decide⟩

def seeName : Name := ⟨"see".toList, by decide, by decide⟩

/-- The name of the attribute that holds a reference. -/
def crefKey : Name := ⟨"cref".toList, by decide, by decide⟩

def sampleReference : Leaf :=
  .empty (tagOf ⟨"see".toList, by decide, by decide⟩
    [attributeOf ⟨"cref".toList, by decide, by decide⟩ "T:A.C".toList (by decide)])

def sampleSummary : Content :=
  .leaf ⟨"a &lt;\n b ".toList, by decide⟩ sampleReference (.last noText)

def sampleBody : Content :=
  .element noText (tagOf ⟨summaryTag, by decide, by decide⟩ []) sampleSummary noSpace (.last noText)

def sampleMembers : Content :=
  .element noText (tagOf ⟨memberTag, by decide, by decide⟩
    [attributeOf ⟨"name".toList, by decide, by decide⟩ "P:A.B".toList (by decide)])
    sampleBody noSpace (.last noText)

def sampleDocument : Document where
  mark := true
  content := .element noText (tagOf ⟨"doc".toList, by decide, by decide⟩ []) sampleMembers noSpace
    (.last noText)
  begins := by decide

theorem parse_sampleDocument :
    Members sampleDocument.content [("P:A.B", ["a <\n b ".toList, "C".toList, []])] ∧
      ∃ d, parse sampleDocument.text = .ok d ∧ (d.members.map (·.1)).Nodup ∧
        (∀ name, name ∈ d.members.map (·.1) ↔ name ∈ ["P:A.B"]) ∧
        d.members.lookup "P:A.B" = some "a < b C" := by
  have htext : Written "a &lt;\n b ".toList "a <\n b ".toList := resolved_eq_ok_iff.mp rfl
  have hreference : shownLeaf sampleReference = .ok ["C".toList] := rfl
  have hlast : Summary (.last noText) [[]] := Summary.last Written.nil
  have hsummary : Summary sampleSummary ["a <\n b ".toList, "C".toList, []] :=
    Summary.leaf htext hreference hlast
  have hbody : Body sampleBody [["a <\n b ".toList, "C".toList, []]] :=
    Body.summary rfl hsummary Body.last
  have hmembers : Members sampleMembers [("P:A.B", ["a <\n b ".toList, "C".toList, []])] :=
    Members.member rfl rfl hbody Members.last
  have hdocument : Members sampleDocument.content
      [("P:A.B", ["a <\n b ".toList, "C".toList, []])] :=
    Members.element (fun h => absurd h (by decide)) hmembers Members.last
  obtain ⟨d, hparse, hnodup, hnames, hlookup⟩ := parse_text hdocument
  refine ⟨hdocument, d, hparse, hnodup, hnames, ?_⟩
  rw [hlookup]
  decide +kernel

end TypeDocs.Documentation
