import TypeDocs.Export
import TypeDocs.Proofs.Documentation.Parse
import TypeDocs.Proofs.Xml.OpenTags

/-!
# Documentation that breaks off

Tags that are open at the end of a text do not make it unreadable. Such a text is read as if its
missing end tags stood behind it, except that a summary that is not ended is not kept.
-/

namespace TypeDocs.Documentation

open Xml

theorem kept_endSummary (r : Reading) : Kept r.members r.endSummary.members := by
  unfold Reading.endSummary
  split
  · rename_i name ws _ _
    by_cases hkept : (r.members.lookup name).isSome = true
    · simp only [hkept, if_true]
      exact .same
    · simp only [hkept]
      exact .added _ hkept
  · exact .same

/-- What a piece can make of a reading. -/
inductive Reading.Next (r : Reading) : Reading → Prop where
  | same : Next r r
  | member (member : Option String) : Next r { r with member }
  | begun : Next r { r with words := some [] }
  | added (cs : List Char) : Next r (r.add cs)
  | ended : Next r r.endSummary
  | left : Next r { r with member := none, words := none }

theorem next_of_step {r r' : Reading} {m : Markup} (h : r.step m = .ok r') : r.Next r' := by
  cases m with
  | opening tag =>
    simp only [Reading.step] at h
    split at h
    · obtain ⟨name, -, h⟩ := exists_of_bind_eq_ok h
      cases h
      exact .member name
    · split at h <;> cases h
      · exact .begun
      · exact .same
  | empty tag =>
    simp only [Reading.step] at h
    split at h
    · obtain ⟨reference, -, h⟩ := exists_of_bind_eq_ok h
      cases reference <;> cases h
      · exact .same
      · exact .added _
    · cases h
      exact .same
  | text raw =>
    simp only [Reading.step] at h
    split at h
    · obtain ⟨cs, -, h⟩ := exists_of_bind_eq_ok h
      cases h
      exact .added cs
    · cases h
      exact .same
  | closing name =>
    simp only [Reading.step] at h
    split at h
    · cases h
      exact .ended
    · split at h <;> cases h
      · exact .left
      · exact .same
  | cdata content =>
    cases h
    exact .added content
  | ignored =>
    cases h
    exact .same

theorem kept_of_step {r r' : Reading} {m : Markup} (h : r.step m = .ok r') :
    Kept r.members r'.members := by
  cases next_of_step h with
  | same | member | begun | added | left => exact .same
  | ended => exact kept_endSummary r

theorem steps_members_prefix {r r' : Reading} {ms : List Markup} (h : r.steps ms = .ok r') :
    r.members <+: r'.members := by
  induction ms generalizing r with
  | nil =>
    cases h
    exact List.prefix_refl _
  | cons m ms ih =>
    obtain ⟨next, hstep, hrest⟩ := exists_of_bind_eq_ok h
    exact (kept_of_step hstep).isPrefix.trans (ih hrest)

/-- An end tag is never refused. -/
theorem steps_closings (r : Reading) (names : List (List Char)) :
    ∃ r', r.steps (names.map .closing) = .ok r' := by
  induction names generalizing r with
  | nil => exact ⟨r, rfl⟩
  | cons name names ih =>
    obtain ⟨r', hstep⟩ : ∃ r', r.step (.closing name) = .ok r' := by
      simp only [Reading.step]
      split
      · exact ⟨_, rfl⟩
      · split <;> exact ⟨_, rfl⟩
    obtain ⟨r'', hsteps⟩ := ih r'
    exact ⟨r'', by rw [List.map_cons, steps_cons hstep, hsteps]⟩

theorem parse_of_pieces {xml : String} {ms : List Markup} (h : pieces xml.toList = (ms, none)) :
    parse xml = (Reading.start.steps ms).map fun r => ⟨r.members⟩ := by
  unfold parse
  rw [h]
  simp only
  cases Reading.start.steps ms <;> rfl

theorem parse_of_openAtEnd_eq_none {xml : String} (h : openAtEnd xml = none) :
    ∃ e, parse xml = .error e := by
  unfold openAtEnd at h
  split at h
  · cases h
  · rename_i ms e hpieces
    unfold parse
    rw [hpieces]
    simp only
    cases Reading.start.steps ms with
    | error e' => exact ⟨e', rfl⟩
    | ok r => exact ⟨e, rfl⟩

/-- With the missing end tags behind it a text is read or refused as it is without them. -/
theorem parse_withEndTags {xml : String} {opened : List (List Char)}
    (hopen : openAtEnd xml = some opened)
    (hplain : ∀ name ∈ opened, name.all isPlain = true) :
    (∃ e, parse xml = .error e ∧ parse (withEndTags xml opened) = .error e) ∨
      ∃ d d', parse xml = .ok d ∧ parse (withEndTags xml opened) = .ok d' ∧
        d.members <+: d'.members := by
  obtain ⟨ms, hpieces, rfl⟩ := openAtEnd_eq_some hopen
  rw [parse_of_pieces hpieces, parse_of_pieces (pieces_withEndTags hpieces hplain), steps_append]
  cases Reading.start.steps ms with
  | error e => exact Or.inl ⟨e, rfl, rfl⟩
  | ok r =>
    obtain ⟨r', hclosings⟩ := steps_closings r (openAfter [] ms)
    refine Or.inr ⟨⟨r.members⟩, ⟨r'.members⟩, rfl, ?_, steps_members_prefix hclosings⟩
    simp only [Except.bind, hclosings]
    rfl

theorem steps_of_parse {xml : String} {ms : List Markup} {stop : Option Malformed}
    {d : Documentation} (hpieces : pieces xml.toList = (ms, stop)) (h : parse xml = .ok d) :
    ∃ r, Reading.start.steps ms = .ok r ∧ d.members = r.members := by
  unfold parse at h
  rw [hpieces] at h
  simp only at h
  cases hsteps : Reading.start.steps ms with
  | error e =>
    rw [hsteps] at h
    cases h
  | ok r =>
    rw [hsteps] at h
    cases stop with
    | some e => cases h
    | none =>
      cases h
      exact ⟨r, rfl, rfl⟩

/-- Cutting a text that is read before markup leaves a text that is read. -/
theorem parse_of_parse_append {xml rest : String} {opened : List (List Char)} {d' : Documentation}
    (hopen : openAtEnd xml = some opened) (hrest : AtMarkup rest.toList)
    (hparse : parse (xml ++ rest) = .ok d') :
    ∃ d, parse xml = .ok d ∧ d.members <+: d'.members := by
  obtain ⟨ms, hpieces, -⟩ := openAtEnd_eq_some hopen
  have hwhole := pieces_append hpieces hrest
  rw [← String.toList_append] at hwhole
  obtain ⟨r', hsteps, hmembers⟩ := steps_of_parse hwhole hparse
  rw [steps_append] at hsteps
  obtain ⟨r, hfirst, hlast⟩ := exists_of_bind_eq_ok hsteps
  refine ⟨⟨r.members⟩, ?_, ?_⟩
  · rw [parse_of_pieces hpieces, hfirst]
    rfl
  · rw [hmembers]
    exact steps_members_prefix hlast

theorem loadOrEmpty_of_parse {fs : FileSystem} {path xml : String} {d : Documentation}
    (hfile : fs.readText path = .ok xml) (hparse : parse xml = .ok d) :
    loadOrEmpty fs path = d := by
  have hload : load fs path = .ok d := by
    unfold load
    rw [hfile]
    change Except.mapError _ (parse xml) = .ok d
    rw [hparse]
    rfl
  unfold loadOrEmpty
  rw [hload]

/-- A text is refused just when it ends inside markup, closes a tag out of place, or is refused
with its missing end tags behind it too. So a text that is read can be cut before any markup, and
what is left is read, however many tags it leaves open. It gives the first of the entries, also
when it is read from a file that may be unreadable. -/
theorem parse_unfinished (xml : String)
    (hplain : ∀ opened, openAtEnd xml = some opened → ∀ name ∈ opened, name.all isPlain = true) :
    ((∃ e, parse xml = .error e) ↔ ∀ opened, openAtEnd xml = some opened →
      ∃ e, parse (withEndTags xml opened) = .error e) ∧
    ∀ opened, openAtEnd xml = some opened →
      openAtEnd (withEndTags xml opened) = some [] ∧
      (∀ rest d', AtMarkup rest.toList → parse (xml ++ rest) = .ok d' →
        ∃ d, parse xml = .ok d ∧ d.members <+: d'.members) ∧
      ∀ d, parse xml = .ok d →
        (∃ d', parse (withEndTags xml opened) = .ok d' ∧ d.members <+: d'.members) ∧
        ∀ (fs : FileSystem) (path : String), fs.readText path = .ok xml →
          loadOrEmpty fs path = d := by
  refine ⟨⟨?_, ?_⟩, ?_⟩
  · rintro ⟨e, herror⟩ opened hopen
    obtain ⟨e', -, hclosed⟩ | ⟨d, d', hparse, -, -⟩ :=
      parse_withEndTags hopen (hplain opened hopen)
    · exact ⟨e', hclosed⟩
    · rw [herror] at hparse
      cases hparse
  · intro hall
    cases hopen : openAtEnd xml with
    | none => exact parse_of_openAtEnd_eq_none hopen
    | some opened =>
      obtain ⟨e, hclosed⟩ := hall opened hopen
      obtain ⟨e', herror, -⟩ | ⟨d, d', -, hparse, -⟩ :=
        parse_withEndTags hopen (hplain opened hopen)
      · exact ⟨e', herror⟩
      · rw [hclosed] at hparse
        cases hparse
  · intro opened hopen
    refine ⟨openAtEnd_withEndTags hopen (hplain opened hopen), ?_, ?_⟩
    · intro rest d' hrest hparse
      exact parse_of_parse_append hopen hrest hparse
    · intro d hd
      refine ⟨?_, fun fs path hfile => loadOrEmpty_of_parse hfile hd⟩
      obtain ⟨e, herror, -⟩ | ⟨d₁, d', hparse, hclosed, hprefix⟩ :=
        parse_withEndTags hopen (hplain opened hopen)
      · rw [hd] at herror
        cases herror
      · rw [hd] at hparse
        cases hparse
        exact ⟨d', hclosed, hprefix⟩

/-- A file that breaks off behind its first member. -/
def brokenOff : String :=
  "<doc><members><member name=\"P:A.B\"><summary>x</summary></member>"

theorem parse_brokenOff :
    openAtEnd brokenOff = some ["members".toList, "doc".toList] ∧
    parse brokenOff = .ok ⟨[("P:A.B", "x")]⟩ ∧
    (∃ d, parse (withEndTags brokenOff ["members".toList, "doc".toList]) = .ok d ∧
      [("P:A.B", "x")] <+: d.members) ∧
    ∀ (fs : FileSystem) (path : String), fs.readText path = .ok brokenOff →
      loadOrEmpty fs path = ⟨[("P:A.B", "x")]⟩ := by
  have hopen : openAtEnd brokenOff = some ["members".toList, "doc".toList] := by decide +kernel
  have hparse : parse brokenOff = .ok ⟨[("P:A.B", "x")]⟩ := rfl
  have hplain : ∀ opened, openAtEnd brokenOff = some opened →
      ∀ name ∈ opened, name.all isPlain = true := by
    intro opened h
    rw [hopen] at h
    cases h
    decide
  obtain ⟨-, -, hread⟩ := (parse_unfinished brokenOff hplain).2 _ hopen
  obtain ⟨hclosed, hload⟩ := hread _ hparse
  exact ⟨hopen, hparse, hclosed, hload⟩

end TypeDocs.Documentation
