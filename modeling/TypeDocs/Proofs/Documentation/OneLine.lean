import TypeDocs.Proofs.Descriptor.Gaps
import TypeDocs.Proofs.Documentation.Order
import TypeDocs.Proofs.Documentation.Reference
import TypeDocs.Proofs.Text.Words

/-!
# Summaries on one line

Whatever is read, only words are taken in, and a summary is kept as its words with single spaces.
So every summary that is answered is a text on one line, and any such text can be one.
-/

namespace TypeDocs

namespace Documentation

open Xml Text

/-! ### What is kept -/

/-- All that has been taken in are words, and what is kept are words with single spaces. -/
structure Reading.Worded (r : Reading) : Prop where
  words : ∀ ws ∈ r.words, ∀ w ∈ ws, IsWord w
  members : ∀ m ∈ r.members, ∃ ws : List (List Char),
    (∀ w ∈ ws, IsWord w) ∧ m.2 = .ofList ([' '].intercalate ws)

namespace Reading.Worded

variable {r r' : Reading}

theorem start : Reading.start.Worded := ⟨nofun, nofun⟩

theorem add (h : r.Worded) (cs : List Char) : (r.add cs).Worded := by
  refine ⟨fun ws hws w hw => ?_, h.members⟩
  obtain ⟨before, hbefore, rfl⟩ := Option.map_eq_some_iff.mp hws
  rcases List.mem_append.mp hw with hw | hw
  · exact h.words before hbefore w hw
  · exact isWord_of_mem_words hw

theorem endSummary (h : r.Worded) : r.endSummary.Worded := by
  unfold Reading.endSummary
  split
  · next name ws _ hws =>
    refine ⟨nofun, fun m hm => ?_⟩
    dsimp only at hm
    split at hm
    · exact h.members m hm
    · rcases List.mem_append.mp hm with hm | hm
      · exact h.members m hm
      · rw [List.mem_singleton.mp hm]
        exact ⟨ws, h.words ws hws, rfl⟩
  · exact ⟨nofun, h.members⟩

theorem next (h : r.Worded) (hnext : r.Next r') : r'.Worded := by
  cases hnext with
  | same => exact h
  | member => exact ⟨h.words, h.members⟩
  | begun =>
    refine ⟨fun ws hws w hw => ?_, h.members⟩
    cases hws
    cases hw
  | added cs => exact h.add cs
  | ended => exact h.endSummary
  | left => exact ⟨nofun, h.members⟩

theorem steps {ms : List Markup} (h : r.Worded) (hsteps : r.steps ms = .ok r') : r'.Worded := by
  induction ms generalizing r with
  | nil =>
    cases hsteps
    exact h
  | cons m ms ih =>
    obtain ⟨q, hstep, hrest⟩ := exists_of_bind_eq_ok hsteps
    exact ih (h.next (next_of_step hstep)) hrest

end Reading.Worded

section Answers

variable {xml member s : String} {d : Documentation}

theorem oneLine_of_summary (h : parse xml = .ok d) (hs : d.summary member = some s) :
    OneLine s := by
  obtain ⟨r, hsteps, hmembers⟩ := steps_of_parse (Prod.mk.eta (p := pieces xml.toList)).symm h
  obtain ⟨hmem, hne⟩ := (summary_eq_some_iff (nodup_of_parse h)).mp hs
  rw [hmembers] at hmem
  obtain ⟨ws, hws, rfl⟩ := (Reading.Worded.start.steps hsteps).members _ hmem
  refine oneLine_intercalate (fun hnil => ?_) hws
  rw [hnil] at hne
  cases hne

theorem oneLine_of_propertySummary {type property : String} (h : parse xml = .ok d)
    (hs : d.propertySummary type property = some s) : OneLine s :=
  oneLine_of_summary h hs

theorem oneLine_of_methodSummary {type method : String} (h : parse xml = .ok d)
    (hs : d.methodSummary type method = some s) : OneLine s := by
  cases (methodSummary_eq_some_iff (nodup_of_parse h)).mp hs with
  | own hown => exact oneLine_of_summary h hown
  | overload _ hname => exact oneLine_of_summary h hname.overload.2

end Answers

/-! ### What can be kept -/

/-- Writes a character so that it neither begins markup nor a reference. -/
def escape (c : Char) : List Char :=
  if c == '&' then "&amp;".toList else if c == '<' then "&lt;".toList else [c]

theorem written_escape (cs : List Char) : Written (cs.flatMap escape) cs := by
  induction cs with
  | nil => exact .nil
  | cons c cs ih =>
    rw [List.flatMap_cons, escape]
    split
    · next hc =>
      have hsemicolon : ';' ∉ "amp".toList := by decide
      have hampersand : '&' ∉ "amp".toList := by decide
      rw [beq_iff_eq.mp hc]
      exact .reference hsemicolon hampersand rfl ih
    · next hc =>
      split
      · next hless =>
        have hsemicolon : ';' ∉ "lt".toList := by decide
        have hampersand : '&' ∉ "lt".toList := by decide
        rw [beq_iff_eq.mp hless]
        exact .reference hsemicolon hampersand rfl ih
      · exact .plain (by simpa using hc) ih

/-- Character data that says a text. -/
def charDataOf (cs : List Char) : CharData where
  chars := cs.flatMap escape
  lt_notMem := by
    intro hmem
    obtain ⟨c, -, hc⟩ := List.mem_flatMap.mp hmem
    unfold escape at hc
    split at hc
    · revert hc
      decide
    · split at hc
      · revert hc
        decide
      · next hless => exact hless (beq_iff_eq.mpr (List.mem_singleton.mp hc).symm)

/-- A text with one member, whose summary says a text. -/
def documentOf (cs : List Char) : Document where
  mark := false
  content := .element noText (nameTag "T:A".toList (by decide))
    (memberOf "T:A" (charDataOf cs) (written_escape cs)).body noSpace (.last noText)
  begins := fun h => absurd (Option.some.inj h : '<' = '\ufeff') (by decide)

/-- A text is said with single spaces. -/
theorem parse_documentOf (cs : List Char) :
    parse (documentOf cs).text = .ok ⟨[("T:A", singleSpaced (.ofList cs))]⟩ := by
  have hmembers : Members (documentOf cs).content [("T:A", [cs])] :=
    .member rfl rfl (memberOf "T:A" (charDataOf cs) (written_escape cs)).inFormat .last
  rw [parse_of_members hmembers, singleSpaced, String.toList_ofList]
  simp [keep, summaryText]

/-- A text on one line is kept as it is. -/
theorem exists_summary_of_oneLine {s : String} (h : OneLine s) :
    ∃ xml d member, parse xml = .ok d ∧ d.summary member = some s := by
  have hparse := parse_documentOf s.toList
  rw [String.ofList_toList, h.singleSpaced_eq] at hparse
  refine ⟨_, _, "T:A", hparse, ?_⟩
  simp [summary, h.ne_empty]

/-- A description that says something on one line is shown as it is. -/
theorem describe_of_oneLine {as : Attributes} {s : String} (has : as.Undescribed) (h : OneLine s) :
    as.describe (some s) = s ∧ isBlankText s = false ∧ ∀ c ∈ s.toList, c ∉ lineBreaks := by
  refine ⟨?_, h.isBlankText_eq_false, h.notMem_lineBreaks⟩
  rw [Attributes.describe_of_undescribed has, Attributes.shown, Option.elim_some, orMissing,
    h.isBlankText_eq_false, if_neg Bool.false_ne_true]

/-- What documentation answers is a text on one line, and any such text is the summary of some
member. Where no attribute describes a property or a method the answer is shown as it is, never the
marker for a blank one in its place, and nothing in it ends a line. -/
theorem answers_oneLine :
    (∀ s, OneLine s ↔ ∃ xml d member, parse xml = .ok d ∧ d.summary member = some s) ∧
    ∀ xml d, parse xml = .ok d →
      (∀ type property s, d.propertySummary type property = some s → OneLine s) ∧
      (∀ type method s, d.methodSummary type method = some s → OneLine s) ∧
      (∀ (t : TypeDescription) (p : Property) (s : String), p.attributes.Undescribed →
        d.propertySummary t.fullName p.name = some s →
        (p.describe t d).description = s ∧ isBlankText s = false ∧
          ∀ c ∈ s.toList, c ∉ lineBreaks) ∧
      ∀ (t : TypeDescription) (m : Method) (s : String), m.attributes.Undescribed →
        d.methodSummary t.fullName m.name = some s →
        (m.describe t d).description = s ∧ isBlankText s = false ∧
          ∀ c ∈ s.toList, c ∉ lineBreaks := by
  refine ⟨fun s => ⟨exists_summary_of_oneLine, ?_⟩, fun xml d hparse => ⟨?_, ?_, ?_, ?_⟩⟩
  · rintro ⟨xml, d, member, hparse, hs⟩
    exact oneLine_of_summary hparse hs
  · exact fun type property s => oneLine_of_propertySummary hparse
  · exact fun type method s => oneLine_of_methodSummary hparse
  · intro t p s hp hs
    rw [Property.describe, hs]
    exact describe_of_oneLine hp (oneLine_of_propertySummary hparse hs)
  · intro t m s hm hs
    rw [Method.describe, hs]
    exact describe_of_oneLine hm (oneLine_of_methodSummary hparse hs)

/-- A text with a member in another and white space of several kinds, which breaks off. -/
def crooked : String :=
  "<member name=\"P:A.b\"><summary>u\r\n</summary><member name=\"M:A.f()\">" ++
    "<summary><![CDATA[\n]]>y&#x2028;&#x20;z</summary>"

def crookedDocs : Documentation := ⟨[("P:A.b", "u"), ("M:A.f()", "y z")]⟩

theorem crooked_oneLine :
    parse crooked = .ok crookedDocs ∧ OneLine "y z" ∧
      (Property.describe { name := "A" } crookedDocs { name := "b", type := "T" }).description =
        "u" ∧
      (Method.describe { name := "A" } crookedDocs { name := "f" }).description = "y z" := by
  have hparse : parse crooked = .ok crookedDocs := by decide +kernel
  have hproperty : crookedDocs.propertySummary "A" "b" = some "u" := rfl
  have hmethod : crookedDocs.methodSummary "A" "f" = some "y z" := by decide +kernel
  have hundescribed : Attributes.Undescribed [] := ⟨rfl, rfl⟩
  obtain ⟨-, hline, hshown, hshown'⟩ := answers_oneLine.2 crooked crookedDocs hparse
  refine ⟨hparse, hline "A" "f" "y z" hmethod, ?_, ?_⟩
  · exact (hshown { name := "A" } { name := "b", type := "T" } "u" hundescribed hproperty).1
  · exact (hshown' { name := "A" } { name := "f" } "y z" hundescribed hmethod).1

end Documentation

end TypeDocs
