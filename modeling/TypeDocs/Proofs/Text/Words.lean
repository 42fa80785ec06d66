import TypeDocs.Proofs.Text.Lines
import TypeDocs.Proofs.Text.Runs

/-!
# Words

The words of a text have all of its characters but the white space. Words with single spaces
between are a text on one line, and such a text is its words with single spaces between.
-/

namespace TypeDocs.Text

theorem flatten_modifyHead_cons {α : Type} (x : α) {xss : List (List α)} (h : xss ≠ []) :
    (xss.modifyHead (x :: ·)).flatten = x :: xss.flatten := by
  obtain ⟨xs, rest, rfl⟩ := List.exists_cons_of_ne_nil h
  rfl

/-- The words of a text have all of its characters but the white space. -/
theorem flatten_words (cs : List Char) : (words cs).flatten = cs.filter fun c => !isBlank c := by
  rw [words, List.flatten_filter_not_isEmpty]
  induction cs with
  | nil => rfl
  | cons c cs ih =>
    rw [List.splitOnP_cons_eq_if_modifyHead]
    cases hc : isBlank c with
    | true => simp [hc, ih]
    | false =>
      rw [if_neg Bool.false_ne_true, flatten_modifyHead_cons c (List.splitOnP_ne_nil _ _), ih]
      simp [hc]

theorem words_ne_of_mem {cs ds : List Char} {c : Char} (hblank : isBlank c = false) (hc : c ∈ cs)
    (hd : c ∉ ds) : words cs ≠ words ds := by
  intro h
  have hmem : c ∈ cs.filter fun c => !isBlank c := List.mem_filter.mpr ⟨hc, by rw [hblank]; rfl⟩
  rw [← flatten_words, h, flatten_words] at hmem
  exact hd (List.mem_filter.mp hmem).1

variable {w : List Char} {ws : List (List Char)}

/-- Whether some characters are a word: there are some, and none is white space. -/
def IsWord (w : List Char) : Prop := w ≠ [] ∧ ∀ c ∈ w, isBlank c = false

namespace IsWord

theorem first (h : IsWord w) : ∀ c ∈ w.head?, isBlank c = false :=
  fun c hc => h.2 c (List.mem_of_head? hc)

theorem last (h : IsWord w) : ∀ c ∈ w.getLast?, isBlank c = false :=
  fun c hc => h.2 c (List.mem_of_getLast? hc)

theorem space_notMem (h : IsWord w) : ' ' ∉ w :=
  fun hmem => absurd (h.2 ' ' hmem) (by decide)

end IsWord

theorem isWord_of_mem_words {cs : List Char} (h : w ∈ words cs) : IsWord w := by
  refine ⟨by simpa using (List.mem_filter.mp h).2, fun c hc => ?_⟩
  have hmem : c ∈ (words cs).flatten := List.mem_flatten.mpr ⟨w, h, hc⟩
  rw [flatten_words] at hmem
  simpa using (List.mem_filter.mp hmem).2

/-! ### Texts on one line -/

/-- A text that is not empty and has no white space at its ends, and none between but single
spaces. -/
structure OneLine (s : String) : Prop where
  ne_empty : s ≠ ""
  first : ∀ c ∈ s.toList.head?, isBlank c = false
  last : ∀ c ∈ s.toList.getLast?, isBlank c = false
  blank : ∀ c ∈ s.toList, isBlank c = true → c = ' '
  apart : Apart ' ' s.toList

/-- The characters that end a line. -/
def lineBreaks : List Char :=
  ['\n', '\x0b', '\x0c', '\r', '\u0085', '\u2028', '\u2029']

theorem head?_intercalate (hw : w ≠ []) (sep : List Char) :
    (sep.intercalate (w :: ws)).head? = w.head? := by
  cases ws with
  | nil => rw [List.intercalate_singleton]
  | cons v ws =>
    rw [List.intercalate_cons_cons, List.append_assoc, List.head?_append_of_ne_nil _ hw]

theorem apart_intercalate (h : ∀ w ∈ ws, IsWord w) : Apart ' ' ([' '].intercalate ws) := by
  induction ws with
  | nil => exact apart_nil ' '
  | cons w ws ih =>
    obtain ⟨hw, hws⟩ := List.forall_mem_cons.mp h
    cases ws with
    | nil =>
      rw [List.intercalate_singleton, ← List.append_nil w]
      exact apart_append_of_notMem hw.space_notMem (apart_nil ' ')
    | cons v ws =>
      have hv := hws v List.mem_cons_self
      rw [List.intercalate_cons_cons, List.append_assoc, List.singleton_append]
      refine apart_append_of_notMem hw.space_notMem (apart_cons_iff.mpr ⟨fun _ hhead => ?_, ih hws⟩)
      rw [head?_intercalate hv.1] at hhead
      exact absurd (hv.first ' ' hhead) (by decide)

/-- Words with single spaces between are a text on one line. -/
theorem oneLine_intercalate (hne : ws ≠ []) (h : ∀ w ∈ ws, IsWord w) :
    OneLine (.ofList ([' '].intercalate ws)) := by
  obtain ⟨w, rest, hws⟩ := List.exists_cons_of_ne_nil hne
  have hw := h w (hws ▸ List.mem_cons_self)
  have hfirst : ([' '].intercalate ws).head? = w.head? := hws ▸ head?_intercalate hw.1 [' ']
  obtain ⟨v, hlast⟩ : ∃ v, ws.getLast? = some v := ⟨_, List.getLast?_eq_some_getLast hne⟩
  have hv := h v (List.mem_of_getLast? hlast)
  obtain ⟨z, hz⟩ : ∃ z, v.getLast? = some z := ⟨_, List.getLast?_eq_some_getLast hv.1⟩
  have hend : ([' '].intercalate ws).getLast? = some z := getLast?_intercalate [' '] hlast hz
  refine ⟨?_, ?_, ?_, ?_, ?_⟩
  · intro hempty
    have hnil := congrArg String.toList hempty
    rw [String.toList_ofList] at hnil
    rw [hnil] at hend
    cases hend
  · rw [String.toList_ofList, hfirst]
    exact hw.first
  · rw [String.toList_ofList, hend, ← hz]
    exact hv.last
  · intro c hc hblank
    rw [String.toList_ofList] at hc
    obtain hspace | ⟨u, hu, hmem⟩ := mem_intercalate hc
    · exact List.mem_singleton.mp hspace
    · rw [(h u hu).2 c hmem] at hblank
      cases hblank
  · rw [String.toList_ofList]
    exact apart_intercalate h

theorem intercalate_words_ne_nil {cs : List Char} (h : words cs ≠ []) :
    [' '].intercalate (words cs) ≠ [] := by
  intro hnil
  have hline := oneLine_intercalate h fun _ => isWord_of_mem_words
  rw [hnil] at hline
  exact hline.ne_empty rfl

/-- Words behind others are seen. -/
theorem intercalate_append_words_ne {cs : List Char} (h : words cs ≠ [])
    (before : List (List Char)) :
    [' '].intercalate (before ++ words cs) ≠ [' '].intercalate before := by
  by_cases hbefore : before = []
  · rw [hbefore]
    exact intercalate_words_ne_nil h
  · rw [intercalate_append [' '] hbefore h]
    simp

theorem flatMap_cons_eq_intercalate (x : Char) (hne : ws ≠ []) :
    ws.flatMap (x :: ·) = x :: [x].intercalate ws := by
  induction ws with
  | nil => exact absurd rfl hne
  | cons w ws ih =>
    cases ws with
    | nil => simp
    | cons v ws =>
      rw [List.flatMap_cons, ih (List.cons_ne_nil v ws), List.intercalate_cons_cons]
      simp

theorem words_eq_runs {cs : List Char} (h : ∀ c ∈ cs, isBlank c = true → c = ' ') :
    words cs = runs ' ' cs := by
  have hpieces : cs.splitOnP isBlank = cs.splitOn ' ' := by
    rw [List.splitOn_eq_splitOnP]
    induction cs with
    | nil => rfl
    | cons c cs ih =>
      obtain ⟨hc, hcs⟩ := List.forall_mem_cons.mp h
      have hsame : isBlank c = (c == ' ') := by
        rw [Bool.eq_iff_iff, beq_iff_eq]
        exact ⟨hc, fun h => h ▸ rfl⟩
      rw [List.splitOnP_cons_eq_if_modifyHead, List.splitOnP_cons_eq_if_modifyHead, ih hcs, hsame]
  rw [words, runs, hpieces]

/-- A text on one line is its words with single spaces between. -/
theorem OneLine.singleSpaced_eq {s : String} (h : OneLine s) : singleSpaced s = s := by
  have hbegin : Apart ' ' (' ' :: s.toList) := by
    refine apart_cons_iff.mpr ⟨fun _ hhead => ?_, h.apart⟩
    exact absurd (h.first ' ' hhead) (by decide)
  have hend : (' ' :: s.toList).getLast? ≠ some ' ' := by
    rw [List.getLast?_cons_of_ne_nil (by simpa using h.ne_empty)]
    exact fun hlast => absurd (h.last ' ' hlast) (by decide)
  have hruns := eq_flatMap_runs hbegin
  rw [if_neg hend, List.append_nil] at hruns
  have hne : runs ' ' s.toList ≠ [] := by
    intro hnil
    rw [hnil] at hruns
    cases hruns
  rw [flatMap_cons_eq_intercalate ' ' hne] at hruns
  rw [singleSpaced, words_eq_runs h.blank, ← (List.cons.inj hruns).2, String.ofList_toList]

theorem OneLine.notMem_lineBreaks {s : String} (h : OneLine s) :
    ∀ c ∈ s.toList, c ∉ lineBreaks := by
  intro c hc hbreak
  have hblank : lineBreaks.all isBlank = true := by decide
  have hspace := h.blank c hc (List.all_eq_true.mp hblank c hbreak)
  rw [hspace] at hbreak
  exact absurd hbreak (by decide)

theorem OneLine.isBlankText_eq_false {s : String} (h : OneLine s) : isBlankText s = false := by
  obtain ⟨c, hc⟩ : ∃ c, s.toList.head? = some c :=
    ⟨_, List.head?_eq_some_head (by simpa using h.ne_empty)⟩
  rw [isBlankText, List.all_eq_false]
  exact ⟨c, List.mem_of_head? hc, by rw [h.first c hc]; exact Bool.false_ne_true⟩

end TypeDocs.Text
