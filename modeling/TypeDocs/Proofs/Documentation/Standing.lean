import TypeDocs.Proofs.Documentation.Unfinished

/-!
# Reading on

A text that ends outside markup leaves reading somewhere: something has been read, and tags are
open. How a text is read that goes on with markup hangs on this alone.
-/

namespace TypeDocs.Documentation

open Xml

/-- What has been read, and the names of the tags that are open, the innermost first. -/
structure Standing where
  reading : Reading
  opened : List (List Char)
  deriving DecidableEq, Repr

/-- Where a text leaves reading. There is no answer for one that ends inside markup or cannot be
read. -/
def standing? (text : String) : Option Standing :=
  match pieces text.toList with
  | (ms, none) => match Reading.start.steps ms with
    | .ok r => some ⟨r, openAfter [] ms⟩
    | .error _ => none
  | (_, some _) => none

/-- The documentation that comes of reading the pieces before a fault. -/
def conclude (run : Except Malformed Reading) (stop : Option Malformed) :
    Except Malformed Documentation :=
  match run, stop with
  | .error e, _ => .error e
  | .ok _, some e => .error e
  | .ok r, none => .ok ⟨r.members⟩

namespace Standing

variable (s : Standing)

/-- Reads what the scanner gives. -/
def onward (scanned : List Markup × Option Malformed) : Except Malformed Documentation :=
  let checked := nested scanned.2 s.opened scanned.1
  conclude (s.reading.steps checked.1) checked.2

/-- Reads what follows. -/
def resume (rest : List Char) : Except Malformed Documentation :=
  s.onward (piecesFrom (.text []) rest)

end Standing

theorem conclude_bind (run : Except Malformed Reading) (f : Reading → Except Malformed Reading)
    (stop : Option Malformed) :
    conclude (run.bind f) stop = run.bind fun r => conclude (f r) stop := by
  cases run <;> rfl

theorem parse_eq_conclude (xml : String) :
    parse xml = conclude (Reading.start.steps (pieces xml.toList).1) (pieces xml.toList).2 :=
  rfl

theorem exists_of_conclude_eq_ok {run : Except Malformed Reading} {stop : Option Malformed}
    {d : Documentation} (h : conclude run stop = .ok d) :
    ∃ r, run = .ok r ∧ stop = none ∧ d.members = r.members := by
  cases run with
  | error e => cases h
  | ok r =>
    cases stop with
    | some e => cases h
    | none =>
      cases h
      exact ⟨r, rfl, rfl, rfl⟩

theorem exists_of_standing? {text : String} {s : Standing} (h : standing? text = some s) :
    ∃ ms, pieces text.toList = (ms, none) ∧ Reading.start.steps ms = .ok s.reading ∧
      openAfter [] ms = s.opened := by
  unfold standing? at h
  split at h
  · next ms hpieces =>
    split at h
    · next r hsteps =>
      cases h
      exact ⟨ms, hpieces, hsteps, rfl⟩
    · cases h
  · cases h

/-- A text that goes on with markup is read from where its beginning leaves reading. -/
theorem parse_append {text rest : String} {s : Standing} (h : standing? text = some s)
    (hrest : AtMarkup rest.toList) : parse (text ++ rest) = s.resume rest.toList := by
  obtain ⟨ms, hpieces, hsteps, hopened⟩ := exists_of_standing? h
  have hwhole := pieces_append hpieces hrest
  rw [hopened] at hwhole
  rw [parse_eq_conclude, String.toList_append, hwhole]
  simp only [ahead]
  rw [steps_append, hsteps]
  rfl

theorem parse_append_append {text rest : String} {s : Standing} {cs : List Char}
    (h : standing? text = some s) (hcs : cs.head? = some '<') :
    parse (text ++ .ofList cs ++ rest) = s.resume (cs ++ rest.toList) := by
  obtain ⟨more, rfl⟩ := List.head?_eq_some_iff.mp hcs
  have hrest : AtMarkup (String.ofList ('<' :: more) ++ rest).toList := by
    rw [String.toList_append, String.toList_ofList]
    exact atMarkup_cons _
  rw [String.append_assoc, parse_append h hrest, String.toList_append, String.toList_ofList]

/-! ### Steps -/

theorem steps_singleton (r : Reading) (m : Markup) : r.steps [m] = r.step m := by
  rw [Reading.steps]
  cases r.step m <;> rfl

section Steps

variable {r q : Reading} {tag raw : List Char}

theorem add_of_words_eq_none (h : r.words = none) (cs : List Char) : r.add cs = r := by
  rw [Reading.add, h, Option.map_none, ← h]

theorem step_empty_of_words_eq_none (h : r.words = none) : r.step (.empty tag) = .ok r := by
  simp [Reading.step, h]

theorem step_text_of_words_eq_none (h : r.words = none) : r.step (.text raw) = .ok r := by
  simp [Reading.step, h]

/-- What an element without content refers to is shown in the summary that is read, if any. -/
theorem step_empty_of_cref {cref : Option String} (h : attribute? tag "cref" = .ok cref) :
    r.step (.empty tag) = .ok (cref.elim r fun name => r.add (referenceName name.toList)) := by
  cases hwords : r.words with
  | none =>
    rw [step_empty_of_words_eq_none hwords]
    cases cref with
    | none => rfl
    | some name => rw [Option.elim_some, add_of_words_eq_none hwords]
  | some ws =>
    simp only [Reading.step, hwords, Option.isSome_some, if_true, h]
    cases cref <;> rfl

theorem step_text_of_resolved {cs : List Char} (h : resolved raw = .ok cs) :
    r.step (.text raw) = .ok (r.add cs) := by
  cases hwords : r.words with
  | none => rw [step_text_of_words_eq_none hwords, add_of_words_eq_none hwords]
  | some ws =>
    simp only [Reading.step, hwords, Option.isSome_some, if_true, h]
    rfl

theorem step_empty_cases (h : r.step (.empty tag) = .ok q) :
    (∃ cref, attribute? tag "cref" = .ok cref) ∨ r.words = none ∧ q = r := by
  cases hcref : attribute? tag "cref" with
  | ok cref => exact Or.inl ⟨cref, rfl⟩
  | error e =>
    cases hwords : r.words with
    | none =>
      rw [step_empty_of_words_eq_none hwords] at h
      exact Or.inr ⟨rfl, (Except.ok.inj h).symm⟩
    | some ws =>
      simp only [Reading.step, hwords, Option.isSome_some, if_true, hcref] at h
      cases h

theorem step_text_cases (h : r.step (.text raw) = .ok q) :
    (∃ cs, resolved raw = .ok cs) ∨ r.words = none ∧ q = r := by
  cases hraw : resolved raw with
  | ok cs => exact Or.inl ⟨cs, rfl⟩
  | error e =>
    cases hwords : r.words with
    | none =>
      rw [step_text_of_words_eq_none hwords] at h
      exact Or.inr ⟨rfl, (Except.ok.inj h).symm⟩
    | some ws =>
      simp only [Reading.step, hwords, Option.isSome_some, if_true, hraw] at h
      cases h

end Steps

/-- At the end of a summary its words are kept for the member that is read, unless a summary of it
was kept before. -/
theorem lookup_endSummary (r : Reading) (name : String) :
    r.endSummary.members.lookup name = (r.members.lookup name).or
      (if r.member = some name then r.words.map fun ws => .ofList ([' '].intercalate ws)
        else none) := by
  obtain ⟨members, _ | member, _ | words⟩ := r
  · simp [Reading.endSummary]
  · simp [Reading.endSummary]
  · simp [Reading.endSummary]
  · by_cases hname : name = member
    · subst hname
      cases hkept : members.lookup name with
      | some kept => simp [Reading.endSummary, hkept]
      | none => simp [Reading.endSummary, hkept, List.lookup_append]
    · have hother : some member ≠ some name := fun h => hname (Option.some.inj h).symm
      rw [if_neg hother, Option.or_none]
      cases hkept : members.lookup member with
      | some kept => simp [Reading.endSummary, hkept]
      | none => simp [Reading.endSummary, hkept, List.lookup_append, hname]

theorem lookup_of_prefix {ms ms' : List (String × String)} {name s : String} (h : ms <+: ms')
    (hs : ms.lookup name = some s) : ms'.lookup name = some s := by
  obtain ⟨more, rfl⟩ := h
  rw [List.lookup_append, hs, Option.some_or]

namespace Standing

variable {s : Standing} {m : Markup} {scanned : List Markup × Option Malformed}
  {d : Documentation}

theorem exists_of_onward (h : s.onward scanned = .ok d) :
    nested scanned.2 s.opened scanned.1 = (scanned.1, none) ∧
      ∃ r, s.reading.steps scanned.1 = .ok r ∧ d.members = r.members := by
  obtain ⟨r, hsteps, hstop, hmembers⟩ := exists_of_conclude_eq_ok h
  obtain ⟨hall, -⟩ := nested_of_none hstop
  rw [hall] at hsteps
  exact ⟨hall, r, hsteps, hmembers⟩

theorem inPlace_of_onward (h : s.onward (ahead [m] scanned) = .ok d) : InPlace s.opened m := by
  obtain ⟨hall, -⟩ := exists_of_onward h
  exact inPlace_of_nested (congrArg Prod.snd hall)

theorem onward_of_nested {ms : List Markup} {opened : List (List Char)}
    (h : ∀ ns, nested scanned.2 s.opened (ms ++ ns) = ahead ms (nested scanned.2 opened ns)) :
    s.onward (ahead ms scanned) =
      (s.reading.steps ms).bind fun r => onward ⟨r, opened⟩ scanned := by
  unfold onward
  simp only [ahead]
  rw [h]
  simp only [ahead]
  rw [steps_append, conclude_bind]

/-- Pieces with every end tag in place are taken in, and reading goes on behind them. -/
theorem onward_append {ms : List Markup} (h : (nested none s.opened ms).2 = none)
    (scanned : List Markup × Option Malformed) :
    s.onward (ahead ms scanned) =
      (s.reading.steps ms).bind fun r => onward ⟨r, openAfter s.opened ms⟩ scanned :=
  onward_of_nested (nested_append h scanned.2)

theorem onward_content (c : Content) (scanned : List Markup × Option Malformed) :
    s.onward (ahead c.markup scanned) =
      (s.reading.steps c.markup).bind fun r => onward ⟨r, s.opened⟩ scanned :=
  onward_of_nested (nested_content scanned.2 c s.opened)

theorem resume_of_leads {cs : List Char} {ms : List Markup}
    (h : Leads (.text []) cs (.text []) ms) (rest : List Char) :
    s.resume (cs ++ rest) = s.onward (ahead ms (piecesFrom (.text []) rest)) := by
  rw [resume, h]

/-- What has been kept stays. -/
theorem members_prefix_of_onward (h : s.onward scanned = .ok d) :
    s.reading.members <+: d.members := by
  obtain ⟨-, r, hsteps, hmembers⟩ := exists_of_onward h
  rw [hmembers]
  exact steps_members_prefix hsteps

end Standing

/-- An element without content is taken in where the text before it leaves reading. -/
theorem parse_emptyElement {text : String} {s : Standing} {tag : List Char}
    (hs : standing? text = some s) (htag : EmptyTag tag) (rest : String) :
    parse (text ++ .ofList (emptyElement tag) ++ rest) =
      (s.reading.step (.empty tag)).bind fun r => Standing.resume ⟨r, s.opened⟩ rest.toList := by
  have hplace : (nested none s.opened [.empty tag]).2 = none := rfl
  rw [parse_append_append hs rfl, Standing.resume_of_leads htag.leads,
    Standing.onward_append hplace, steps_singleton]
  rfl

end TypeDocs.Documentation
