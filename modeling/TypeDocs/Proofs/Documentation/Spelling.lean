import TypeDocs.Proofs.Documentation.Apart
import TypeDocs.Proofs.Documentation.Order
import TypeDocs.Proofs.Documentation.Reference
import TypeDocs.Proofs.Text.Words

/-!
# The two spellings of an element without content

An element without content may be written as one tag, or as a start tag with its end tag. In the
first spelling a reference in a summary is shown, in the second a summary or a member counts. So
the spellings are told apart in a member that has no summary so far, and only there, unless the
start tag of a member cannot be read. Whichever it is, all that can differ is kept for the member
that the element stands in.
-/

namespace TypeDocs

namespace Documentation

open Xml

/-- Whatever follows the element, what is read with the one tag is read alike with the two. -/
def SpelledAlike (text : String) (tag : List Char) : Prop :=
  ∀ (rest : String) (d : Documentation),
    parse (text ++ .ofList (emptyElement tag) ++ rest) = .ok d →
      parse (text ++ .ofList (pairedElement tag) ++ rest) = .ok d

/-- How the spellings of an element are told apart where reading stands. -/
inductive ToldApart (s : Standing) (tag : List Char) : Prop where
  /-- What the start tag of a member says is its name cannot be read. -/
  | unreadable {e : Malformed} (hmember : tagName tag = memberTag)
    (hname : attribute? tag "name" = .error e)
  /-- In a member without a summary so far the start tag of a member or a summary counts. -/
  | counted {name : String} (hmember : s.reading.member = some name)
    (hnew : s.reading.members.lookup name = none)
    (htag : tagName tag = memberTag ∨ tagName tag = summaryTag)
  /-- In the first summary of a member the one tag shows a reference. -/
  | shown {name cref : String} (hmember : s.reading.member = some name)
    (hnew : s.reading.members.lookup name = none) (hwords : s.reading.words ≠ none)
    (hopened : ¬ InsideMember s.opened) (hcref : attribute? tag "cref" = .ok (some cref))
    (hshown : Text.words (referenceName cref.toList) ≠ [])

/-! ### The one tag -/

variable {r q q' : Reading} {tag : List Char} {opened : List (List Char)}

theorem eq_of_step_empty (h : r.step (.empty tag) = .ok q) :
    q = r ∨ r.words ≠ none ∧ ∃ cref, attribute? tag "cref" = .ok (some cref) ∧
      q = r.add (referenceName cref.toList) := by
  obtain ⟨cref, hcref⟩ | ⟨-, rfl⟩ := step_empty_cases h
  · rw [step_empty_of_cref hcref] at h
    cases h
    cases cref with
    | none => exact Or.inl rfl
    | some cref =>
      by_cases hwords : r.words = none
      · exact Or.inl (add_of_words_eq_none hwords _)
      · exact Or.inr ⟨hwords, cref, hcref, rfl⟩
  · exact Or.inl rfl

/-- Only words are added. -/
theorem fields_of_step_empty (h : r.step (.empty tag) = .ok q) :
    q.members = r.members ∧ q.member = r.member ∧ (q.words = none ↔ r.words = none) := by
  obtain rfl | ⟨-, cref, -, rfl⟩ := eq_of_step_empty h
  · exact ⟨rfl, rfl, Iff.rfl⟩
  · exact ⟨rfl, rfl, Option.map_eq_none_iff⟩

/-! ### The start tag with its end tag -/

/-- The start tag of an element and its end tag. -/
def bothTags (tag : List Char) : List Markup := [.opening tag, .closing (tagName tag)]

theorem steps_bothTags_member (h : tagName tag = memberTag) :
    r.steps (bothTags tag) =
      (attribute? tag "name").map fun _ => ⟨r.members, none, none⟩ := by
  rw [bothTags, Reading.steps, opening_member r h, h]
  cases attribute? tag "name" <;> rfl

theorem eq_of_steps_bothTags_member (h : tagName tag = memberTag)
    (hsteps : r.steps (bothTags tag) = .ok q) : q = ⟨r.members, none, none⟩ := by
  rw [steps_bothTags_member h] at hsteps
  obtain ⟨name, -, rfl⟩ := exists_of_map_eq_ok hsteps
  rfl

theorem steps_bothTags_summary (h : tagName tag = summaryTag) :
    r.steps (bothTags tag) = .ok (beginSummary r).endSummary := by
  rw [bothTags, steps_cons (opening_summary r h), steps_singleton, h, closing_summary]

theorem steps_bothTags_other (hmember : tagName tag ≠ memberTag)
    (hsummary : tagName tag ≠ summaryTag) : r.steps (bothTags tag) = .ok r := by
  rw [bothTags, steps_cons (opening_other r hmember hsummary), steps_singleton,
    closing_other r hmember hsummary]

theorem resume_end (r : Reading) (opened : List (List Char)) :
    Standing.resume ⟨r, opened⟩ [] = .ok ⟨r.members⟩ :=
  rfl

theorem resume_pairedElement (htag : PairedTag tag) (rest : List Char) :
    Standing.resume ⟨r, opened⟩ (pairedElement tag ++ rest) =
      (r.steps (bothTags tag)).bind fun r => Standing.resume ⟨r, opened⟩ rest := by
  have hplace : (nested none opened (bothTags tag)).2 = none := by simp [bothTags, nested]
  rw [Standing.resume_of_leads htag.leads]
  exact Standing.onward_append (s := ⟨r, opened⟩) hplace _

theorem parse_pairedElement {text : String} {s : Standing} (hs : standing? text = some s)
    (htag : PairedTag tag) (rest : String) :
    parse (text ++ .ofList (pairedElement tag) ++ rest) =
      (s.reading.steps (bothTags tag)).bind fun r => Standing.resume ⟨r, s.opened⟩ rest.toList := by
  rw [parse_append_append hs rfl]
  exact resume_pairedElement htag rest.toList

/-! ### What the spellings have in common -/

theorem apart_spellings (h : r.step (.empty tag) = .ok q)
    (h' : r.steps (bothTags tag) = .ok q') (opened : List (List Char)) :
    Apart r.member opened q q' := by
  obtain ⟨hmembers, hmember, hwords⟩ := fields_of_step_empty h
  -- words differ only where the one tag stands in a summary, which is one of the member's own
  have hkept : q'.words = none ∨ q' = r → q'.words = q.words ∨
      (q.words ≠ none ∧ (q.member = none ∨ q.member = r.member ∨ InsideMember opened)) := by
    intro hq'
    by_cases hq : q.words = none
    · refine Or.inl ?_
      obtain hnone | rfl := hq'
      · rw [hnone, hq]
      · rw [hwords.mp hq, hq]
    · exact Or.inr ⟨hq, Or.inr (Or.inl hmember)⟩
  by_cases hmemberTag : tagName tag = memberTag
  · rw [eq_of_steps_bothTags_member hmemberTag h'] at hkept ⊢
    exact ⟨by rw [hmembers], Or.inr ⟨rfl, hmember⟩, hkept (Or.inl rfl)⟩
  · by_cases hsummaryTag : tagName tag = summaryTag
    · rw [steps_bothTags_summary hsummaryTag] at h'
      cases h'
      refine ⟨?_, Or.inl ?_, hkept (Or.inl (endSummary_words _))⟩
      · rw [others_endSummary (Or.inr (beginSummary_member r)), beginSummary_members, hmembers]
      · rw [endSummary_member, beginSummary_member, hmember]
    · rw [steps_bothTags_other hmemberTag hsummaryTag] at h'
      cases h'
      exact ⟨by rw [hmembers], Or.inl hmember.symm, hkept (Or.inr rfl)⟩

/-- Where a reference is not kept for anyone, the spellings of what is no member and no summary
are not apart. -/
theorem apart_of_not_toldApart {s : Standing} {name : String}
    (hmember : s.reading.member = some name) (hnew : s.reading.members.lookup name = none)
    (hapart : ¬ ToldApart s tag) (h : s.reading.step (.empty tag) = .ok q)
    (h' : s.reading.steps (bothTags tag) = .ok q') : Apart none s.opened q q' := by
  have hmemberTag : tagName tag ≠ memberTag := fun htag =>
    hapart (.counted hmember hnew (Or.inl htag))
  have hsummaryTag : tagName tag ≠ summaryTag := fun htag =>
    hapart (.counted hmember hnew (Or.inr htag))
  rw [steps_bothTags_other hmemberTag hsummaryTag] at h'
  cases h'
  obtain rfl | ⟨hwords, cref, hcref, rfl⟩ := eq_of_step_empty h
  · exact ⟨rfl, Or.inl rfl, Or.inl rfl⟩
  · by_cases hshown : Text.words (referenceName cref.toList) = []
    · refine ⟨rfl, Or.inl rfl, Or.inl ?_⟩
      simp [Reading.add, hshown]
    · have hinside : InsideMember s.opened := by
        by_contra hopened
        exact hapart (.shown hmember hnew hwords hopened hcref hshown)
      refine ⟨rfl, Or.inl rfl, Or.inr ⟨?_, Or.inr (Or.inr hinside)⟩⟩
      simpa [Reading.add] using hwords

theorem eq_of_members_eq {d d' : Documentation} (h : d'.members = d.members) : d' = d := by
  cases d
  cases d'
  cases h
  rfl

/-- What is read with the one tag is read with the two, and what was kept before stays. -/
theorem exists_parse_pairedElement {text rest : String} {s : Standing} {d : Documentation}
    {own : Option String} (hs : standing? text = some s) (htag : PairedTag tag)
    (hd : parse (text ++ .ofList (emptyElement tag) ++ rest) = .ok d)
    (hq' : s.reading.steps (bothTags tag) = .ok q')
    (happart : ∀ q, s.reading.step (.empty tag) = .ok q → Apart own s.opened q q') :
    ∃ d', parse (text ++ .ofList (pairedElement tag) ++ rest) = .ok d' ∧
      others own d'.members = others own d.members ∧
      s.reading.members <+: d.members ∧ s.reading.members <+: d'.members := by
  rw [parse_emptyElement hs htag.toEmptyTag] at hd
  obtain ⟨q, hq, hresume⟩ := exists_of_bind_eq_ok hd
  obtain ⟨d', hresume', hothers⟩ := (happart q hq).resume hresume
  refine ⟨d', ?_, hothers, ?_, ?_⟩
  · rw [parse_pairedElement hs htag, hq']
    exact hresume'
  · rw [← (fields_of_step_empty hq).1]
    exact Standing.members_prefix_of_onward hresume
  · have hkept := steps_members_prefix hq'
    exact hkept.trans (Standing.members_prefix_of_onward hresume')

/-- The two tags are read unless they are those of a member whose name cannot be read. -/
theorem exists_steps_bothTags (r : Reading)
    (h : tagName tag = memberTag → ∀ e, attribute? tag "name" ≠ .error e) :
    ∃ q', r.steps (bothTags tag) = .ok q' := by
  by_cases hmemberTag : tagName tag = memberTag
  · rw [steps_bothTags_member hmemberTag]
    cases hname : attribute? tag "name" with
    | error e => exact absurd hname (h hmemberTag e)
    | ok name => exact ⟨_, rfl⟩
  · by_cases hsummaryTag : tagName tag = summaryTag
    · exact ⟨_, steps_bothTags_summary hsummaryTag⟩
    · exact ⟨_, steps_bothTags_other hmemberTag hsummaryTag⟩

theorem spelledAlike_of_not_toldApart {text : String} {s : Standing}
    (hs : standing? text = some s) (htag : PairedTag tag) (h : ¬ ToldApart s tag) :
    SpelledAlike text tag := by
  intro rest d hd
  obtain ⟨q', hq'⟩ := exists_steps_bothTags s.reading fun hmember e hname =>
    h (.unreadable hmember hname)
  by_cases hkept : ∃ name kept, s.reading.member = some name ∧
      s.reading.members.lookup name = some kept
  · obtain ⟨name, kept, hmember, hkept⟩ := hkept
    obtain ⟨d', hd', hothers, hprefix, hprefix'⟩ :=
      exists_parse_pairedElement hs htag hd hq' fun q hq => apart_spellings hq hq' s.opened
    rw [hmember] at hothers
    have hname : name ∈ s.reading.members.map (·.1) := by
      rw [← isSome_lookup_iff, hkept, Option.isSome_some]
    have hmembers := eq_of_others hprefix hprefix' (nodup_of_parse hd) (nodup_of_parse hd') hname
      hothers
    rw [hd', eq_of_members_eq hmembers]
  · have happart (q : Reading) (hq : s.reading.step (.empty tag) = .ok q) :
        Apart none s.opened q q' := by
      cases hmember : s.reading.member with
      | none => exact hmember ▸ apart_spellings hq hq' s.opened
      | some name =>
        have hnew : s.reading.members.lookup name = none :=
          Option.eq_none_iff_forall_ne_some.mpr fun kept hlookup =>
            hkept ⟨name, kept, hmember, hlookup⟩
        exact apart_of_not_toldApart hmember hnew h hq hq'
    obtain ⟨d', hd', hothers, -, -⟩ := exists_parse_pairedElement hs htag hd hq' happart
    rw [others_none, others_none] at hothers
    rw [hd', eq_of_members_eq hothers]

/-! ### What tells the spellings apart -/

/-- A reading takes words in only while a summary is open. -/
def SummaryOpen (r : Reading) (opened : List (List Char)) : Prop :=
  r.words ≠ none → summaryTag ∈ opened

theorem ne_none_of_add {cs : List Char} (h : (r.add cs).words ≠ none) : r.words ≠ none :=
  fun hnone => h (by rw [Reading.add, hnone, Option.map_none])

theorem SummaryOpen.step {m : Markup} (h : SummaryOpen r opened) (hplace : InPlace opened m)
    (hstep : r.step m = .ok q) : SummaryOpen q (openAfter opened [m]) := by
  intro hwords
  cases m with
  | opening tag =>
    by_cases hmember : tagName tag = memberTag
    · rw [opening_member r hmember] at hstep
      obtain ⟨member, -, rfl⟩ := exists_of_map_eq_ok hstep
      exact List.mem_cons_of_mem _ (h hwords)
    · by_cases hsummary : tagName tag = summaryTag
      · change summaryTag ∈ tagName tag :: opened
        rw [hsummary]
        exact List.mem_cons_self
      · rw [opening_other r hmember hsummary] at hstep
        cases hstep
        exact List.mem_cons_of_mem _ (h hwords)
  | closing name =>
    obtain ⟨rest, rfl⟩ := List.head?_eq_some_iff.mp hplace
    by_cases hmember : name = memberTag
    · subst hmember
      cases hstep
      exact absurd rfl hwords
    · by_cases hsummary : name = summaryTag
      · subst hsummary
        cases hstep
        exact absurd (endSummary_words r) hwords
      · rw [closing_other r hmember hsummary] at hstep
        cases hstep
        exact (List.mem_cons.mp (h hwords)).resolve_left (Ne.symm hsummary)
  | empty tag => exact h fun hnone => hwords ((fields_of_step_empty hstep).2.2.mpr hnone)
  | text raw =>
    obtain ⟨cs, hraw⟩ | ⟨-, rfl⟩ := step_text_cases hstep
    · rw [step_text_of_resolved hraw] at hstep
      cases hstep
      exact h (ne_none_of_add hwords)
    · exact h hwords
  | cdata content =>
    cases hstep
    exact h (ne_none_of_add hwords)
  | ignored =>
    cases hstep
    exact h hwords

theorem SummaryOpen.steps {ms : List Markup} (h : SummaryOpen r opened)
    (hms : (nested none opened ms).2 = none) (hsteps : r.steps ms = .ok q) :
    SummaryOpen q (openAfter opened ms) := by
  induction ms generalizing opened r with
  | nil =>
    cases hsteps
    exact h
  | cons m ms ih =>
    have hplace := inPlace_of_nested hms
    obtain ⟨next, hstep, hrest⟩ := exists_of_bind_eq_ok hsteps
    rw [nested_cons hplace] at hms
    rw [openAfter_cons]
    exact ih (h.step hplace hstep) hms hrest

theorem summaryOpen_of_standing? {text : String} {s : Standing} (hs : standing? text = some s) :
    SummaryOpen s.reading s.opened := by
  obtain ⟨ms, hpieces, hsteps, hopened⟩ := exists_of_standing? hs
  rw [← hopened]
  exact SummaryOpen.steps (absurd rfl) (scan_of_pieces hpieces).2 hsteps

theorem not_isSpace_of_mem_opened {text : String} {s : Standing} (hs : standing? text = some s)
    {name : List Char} (h : name ∈ s.opened) : ∀ c ∈ name, isSpace c = false := by
  obtain ⟨ms, -, -, hopened⟩ := exists_of_standing? hs
  rw [← hopened] at h
  exact not_isSpace_of_mem_openAfter [] ms (List.forall_mem_nil _) name h

theorem members_emptySummary {name : String} (hmember : r.member = some name)
    (hnew : r.members.lookup name = none) :
    (beginSummary r).endSummary.members = r.members ++ [(name, "")] := by
  obtain ⟨members, member, words⟩ := r
  cases hmember
  rw [beginSummary_of_member _ (Option.some_ne_none name)]
  simp only [Reading.endSummary, hnew]
  rfl

/-- The end tags of a summary and of what is open in it end the summary. -/
theorem steps_endTags {front : List (List Char)}
    (hfront : ∀ name ∈ front, name ≠ memberTag ∧ name ≠ summaryTag) (r : Reading) :
    r.steps ((front ++ [summaryTag]).map .closing) = .ok r.endSummary := by
  induction front with
  | nil => exact steps_singleton r _
  | cons name front ih =>
    obtain ⟨hname, hrest⟩ := List.forall_mem_cons.mp hfront
    rw [List.cons_append, List.map_cons, steps_cons (closing_other r hname.1 hname.2), ih hrest]

theorem resume_endTags {front back : List (List Char)}
    (hfront : ∀ name ∈ front, name ≠ memberTag ∧ name ≠ summaryTag)
    (hplain : ∀ name ∈ front ++ [summaryTag], name.all isPlain = true)
    (hspace : ∀ name ∈ front ++ [summaryTag], ∀ c ∈ name, isSpace c = false) (r : Reading) :
    Standing.resume ⟨r, front ++ summaryTag :: back⟩ (endTags (front ++ [summaryTag])) =
      .ok ⟨r.endSummary.members⟩ := by
  have hnested := congrArg Prod.snd (nested_closings (front ++ [summaryTag]) back)
  rw [List.append_assoc] at hnested
  have hpieces : piecesFrom (.text []) (endTags (front ++ [summaryTag])) =
      ahead ((front ++ [summaryTag]).map .closing) ([], none) := by
    rw [piecesFrom_endTags _ hplain hspace, ahead, List.append_nil]
  rw [Standing.resume, hpieces, Standing.onward_append hnested, steps_endTags hfront]
  rfl

/-- In a member the summary that is open can be ended, unless another member is begun in it. -/
theorem exists_summary_open {opened : List (List Char)} (h : summaryTag ∈ opened)
    (hinside : ¬ InsideMember opened) :
    ∃ front back, opened = front ++ summaryTag :: back ∧
      ∀ name ∈ front, name ≠ memberTag ∧ name ≠ summaryTag := by
  cases hfind : opened.find? (fun name => name == memberTag || name == summaryTag) with
  | none => exact absurd (List.find?_eq_none.mp hfind summaryTag h) (by simp)
  | some tag =>
    obtain ⟨htag, front, back, rfl, hfront⟩ := List.find?_eq_some_iff_append.mp hfind
    have hsummary : tag = summaryTag := by
      simp only [Bool.or_eq_true, beq_iff_eq] at htag
      refine htag.resolve_left fun hmember => hinside ?_
      rw [InsideMember, hfind, hmember]
    subst hsummary
    exact ⟨front, back, rfl, fun name hname => by simpa using hfront name hname⟩

theorem ne_append_singleton {α : Type} (xs : List α) (x : α) : xs ≠ xs ++ [x] := by
  intro h
  simpa using congrArg List.length h

section Distinguished

variable {text : String} {s : Standing}

theorem exists_resume_of_spelledAlike (hs : standing? text = some s) (htag : PairedTag tag)
    (hq : s.reading.step (.empty tag) = .ok q) (halike : SpelledAlike text tag)
    {rest : List Char} {d : Documentation} (hd : Standing.resume ⟨q, s.opened⟩ rest = .ok d) :
    ∃ q', s.reading.steps (bothTags tag) = .ok q' ∧
      Standing.resume ⟨q', s.opened⟩ rest = .ok d := by
  have hempty := parse_emptyElement hs htag.toEmptyTag (.ofList rest)
  have hpaired := parse_pairedElement hs htag (.ofList rest)
  rw [String.toList_ofList] at hempty hpaired
  rw [hq] at hempty
  rw [halike _ d (hempty.trans hd)] at hpaired
  exact exists_of_bind_eq_ok hpaired.symm

/-- Behind the two tags of a member a summary is kept for no one. -/
theorem not_spelledAlike_member {name : String} (hs : standing? text = some s)
    (htag : PairedTag tag) (hq : s.reading.step (.empty tag) = .ok q)
    (hmember : s.reading.member = some name) (hnew : s.reading.members.lookup name = none)
    (hmemberTag : tagName tag = memberTag) : ¬ SpelledAlike text tag := by
  intro halike
  obtain ⟨hmembers, hown, -⟩ := fields_of_step_empty hq
  let summary := tagOf summaryName []
  have hkept (r : Reading) : Standing.resume ⟨r, s.opened⟩ (pairedElement summary.chars ++ []) =
      .ok ⟨(beginSummary r).endSummary.members⟩ := by
    rw [resume_pairedElement summary.pairedTag, steps_bothTags_summary (tagName_chars summary)]
    rfl
  obtain ⟨q', hq', hresume⟩ := exists_resume_of_spelledAlike hs htag hq halike (hkept q)
  rw [hkept, eq_of_steps_bothTags_member hmemberTag hq',
    members_emptySummary (hown.trans hmember) (hmembers ▸ hnew), hmembers] at hresume
  exact ne_append_singleton _ _ (congrArg Documentation.members (Except.ok.inj hresume))

/-- The two tags of a summary are kept as an empty one. -/
theorem not_spelledAlike_summary {name : String} (hs : standing? text = some s)
    (htag : PairedTag tag) (hq : s.reading.step (.empty tag) = .ok q)
    (hmember : s.reading.member = some name) (hnew : s.reading.members.lookup name = none)
    (hsummaryTag : tagName tag = summaryTag) : ¬ SpelledAlike text tag := by
  intro halike
  obtain ⟨q', hq', hresume⟩ :=
    exists_resume_of_spelledAlike hs htag hq halike (resume_end q s.opened)
  rw [steps_bothTags_summary hsummaryTag] at hq'
  cases hq'
  rw [resume_end, members_emptySummary hmember hnew, (fields_of_step_empty hq).1] at hresume
  exact ne_append_singleton _ _ (congrArg Documentation.members (Except.ok.inj hresume)).symm

/-- A reference that the one tag shows is kept when the summary ends. -/
theorem not_spelledAlike_shown {name cref : String} (hs : standing? text = some s)
    (htag : PairedTag tag) (hmember : s.reading.member = some name)
    (hnew : s.reading.members.lookup name = none) (hwords : s.reading.words ≠ none)
    (hopened : ¬ InsideMember s.opened) (hcref : attribute? tag "cref" = .ok (some cref))
    (hshown : Text.words (referenceName cref.toList) ≠ [])
    (hmemberTag : tagName tag ≠ memberTag) (hsummaryTag : tagName tag ≠ summaryTag)
    (hplain : ∀ name ∈ s.opened, name.all isPlain = true) : ¬ SpelledAlike text tag := by
  intro halike
  obtain ⟨front, back, hfront, houter⟩ :=
    exists_summary_open (summaryOpen_of_standing? hs hwords) hopened
  have hmem {n : List Char} (h : n ∈ front ++ [summaryTag]) : n ∈ s.opened := by
    rw [hfront, List.append_cons]
    exact List.mem_append_left back h
  have hends (r : Reading) : Standing.resume ⟨r, s.opened⟩ (endTags (front ++ [summaryTag])) =
      .ok ⟨r.endSummary.members⟩ := by
    rw [hfront]
    exact resume_endTags houter (fun _ h => hplain _ (hmem h))
      (fun _ h => not_isSpace_of_mem_opened hs (hmem h)) r
  obtain ⟨q', hq', hresume⟩ :=
    exists_resume_of_spelledAlike hs htag (step_empty_of_cref hcref) halike (hends _)
  rw [steps_bothTags_other hmemberTag hsummaryTag] at hq'
  cases hq'
  rw [hends] at hresume
  obtain ⟨before, hbefore⟩ := Option.ne_none_iff_exists'.mp hwords
  have hlookup := congrArg (fun d => d.members.lookup name) (Except.ok.inj hresume)
  simp only [Option.elim_some, lookup_endSummary, Reading.add, hmember, hnew, hbefore, if_true,
    Option.none_or, Option.map_some] at hlookup
  have htexts := String.ofList_injective (Option.some.inj hlookup)
  exact Text.intercalate_append_words_ne hshown before htexts.symm

end Distinguished

theorem not_spelledAlike_of_toldApart {text rest : String} {s : Standing} {d : Documentation}
    (hs : standing? text = some s) (htag : PairedTag tag)
    (hd : parse (text ++ .ofList (emptyElement tag) ++ rest) = .ok d) (h : ToldApart s tag)
    (hplain : ∀ name ∈ s.opened, name.all isPlain = true) : ¬ SpelledAlike text tag := by
  have hempty := hd
  rw [parse_emptyElement hs htag.toEmptyTag] at hempty
  obtain ⟨q, hq, -⟩ := exists_of_bind_eq_ok hempty
  cases h with
  | unreadable hmemberTag hname =>
    intro halike
    have hpaired := halike rest d hd
    rw [parse_pairedElement hs htag, steps_bothTags_member hmemberTag, hname] at hpaired
    cases hpaired
  | counted hmember hnew hcounts =>
    obtain hmemberTag | hsummaryTag := hcounts
    · exact not_spelledAlike_member hs htag hq hmember hnew hmemberTag
    · exact not_spelledAlike_summary hs htag hq hmember hnew hsummaryTag
  | shown hmember hnew hwords hopened hcref hshown =>
    by_cases hmemberTag : tagName tag = memberTag
    · exact not_spelledAlike_member hs htag hq hmember hnew hmemberTag
    · by_cases hsummaryTag : tagName tag = summaryTag
      · exact not_spelledAlike_summary hs htag hq hmember hnew hsummaryTag
      · exact not_spelledAlike_shown hs htag hmember hnew hwords hopened hcref hshown hmemberTag
          hsummaryTag hplain

/-- When a text with an element as one tag is read, it is read with the two tags too, unless they
are those of a member whose name cannot be read, and all that can differ is kept for the member
that the element stands in. Nothing differs, whatever follows, unless the spellings are told apart,
and then there is something that can follow with which they differ. -/
theorem parse_spellings {text rest : String} {s : Standing} {tag : List Char} {d : Documentation}
    (hs : standing? text = some s) (htag : PairedTag tag)
    (hd : parse (text ++ .ofList (emptyElement tag) ++ rest) = .ok d) :
    ((∃ d', parse (text ++ .ofList (pairedElement tag) ++ rest) = .ok d' ∧
        others s.reading.member d'.members = others s.reading.member d.members) ∨
      ∃ e, tagName tag = memberTag ∧ attribute? tag "name" = .error e ∧
        parse (text ++ .ofList (pairedElement tag) ++ rest) = .error e) ∧
    (¬ ToldApart s tag → SpelledAlike text tag) ∧
    (ToldApart s tag → (∀ name ∈ s.opened, name.all isPlain = true) →
      ¬ SpelledAlike text tag) := by
  refine ⟨?_, spelledAlike_of_not_toldApart hs htag, not_spelledAlike_of_toldApart hs htag hd⟩
  by_cases hreadable : tagName tag = memberTag → ∀ e, attribute? tag "name" ≠ .error e
  · obtain ⟨q', hq'⟩ := exists_steps_bothTags s.reading hreadable
    obtain ⟨d', hd', hothers, -, -⟩ :=
      exists_parse_pairedElement hs htag hd hq' fun q hq => apart_spellings hq hq' s.opened
    exact Or.inl ⟨d', hd', hothers⟩
  · push Not at hreadable
    obtain ⟨hmemberTag, e, hname⟩ := hreadable
    refine Or.inr ⟨e, hmemberTag, hname, ?_⟩
    rw [parse_pairedElement hs htag, steps_bothTags_member hmemberTag, hname]
    rfl

/-- The tag of a line break, which refers to nothing. -/
def breakTag : Tag := tagOf ⟨"br".toList, by decide, by decide⟩ []

theorem begunSummary_spellings :
    standing? begunSummary = some begun ∧
      parse (begunSummary ++ .ofList (emptyElement breakTag.chars) ++ "</summary>") =
        .ok ⟨[("P:A.B", "see")]⟩ ∧
      SpelledAlike begunSummary breakTag.chars ∧
      parse (begunSummary ++ .ofList (emptyElement (seeTag "T:C".toList (by decide)).chars) ++
        "</summary>") = .ok ⟨[("P:A.B", "see C")]⟩ ∧
      ¬ SpelledAlike begunSummary (seeTag "T:C".toList (by decide)).chars := by
  have hbegun : standing? begunSummary = some begun := by decide +kernel
  have hbreak : parse (begunSummary ++ .ofList (emptyElement breakTag.chars) ++ "</summary>") =
      .ok ⟨[("P:A.B", "see")]⟩ := rfl
  have hsee : parse (begunSummary ++
      .ofList (emptyElement (seeTag "T:C".toList (by decide)).chars) ++ "</summary>") =
        .ok ⟨[("P:A.B", "see C")]⟩ := rfl
  obtain ⟨-, halike, -⟩ := parse_spellings hbegun breakTag.pairedTag hbreak
  obtain ⟨-, -, happart⟩ := parse_spellings hbegun (seeTag _ _).pairedTag hsee
  refine ⟨hbegun, hbreak, halike ?_, hsee, happart ?_ ?_⟩
  · rintro (⟨hmember, -⟩ | ⟨-, -, hmember | hsummary⟩ | ⟨-, -, -, -, hcref, -⟩)
    · exact absurd hmember (by decide)
    · exact absurd hmember (by decide)
    · exact absurd hsummary (by decide)
    · have hnone : attribute? breakTag.chars "cref" = .ok none := rfl
      rw [hnone] at hcref
      cases hcref
  · have hcref : attribute? (seeTag "T:C".toList (by decide)).chars "cref" =
        .ok (some "T:C") := rfl
    have hnew : begun.reading.members.lookup "P:A.B" = none := rfl
    exact .shown rfl hnew nofun (not_insideMember_cons_summary _) hcref (by decide)
  · decide

/-- The reference is shown in the one spelling and not in the other. -/
theorem parse_seeTags :
    parse ("<member name=\"P:A.B\"><summary>see <see cref=\"T:C\"/></summary></member>") =
        .ok ⟨[("P:A.B", "see C")]⟩ ∧
      parse ("<member name=\"P:A.B\"><summary>see <see cref=\"T:C\"></see></summary></member>") =
        .ok ⟨[("P:A.B", "see")]⟩ :=
  ⟨rfl, rfl⟩

end Documentation

end TypeDocs
