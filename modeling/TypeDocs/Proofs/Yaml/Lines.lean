import TypeDocs.Proofs.Decimal.Text
import TypeDocs.Proofs.Text.Lines
import TypeDocs.Yaml.Printer

/-!
# The lines of written YAML

`Place.after?` follows a text through its lines and stops where one begins with three hyphens. No
written list or table is stopped, and each leaves the beginning of a line. That line is begun by a
line feed unless the last text of the value is a literal block that ends with another break.
-/

namespace TypeDocs.Yaml

open Text

theorem isBreak_of_all {cs : List Char} (h : cs.all (fun c => !isBreak c) = true) :
    ∀ c ∈ cs, isBreak c = false := by
  simpa using h

/-- Where one stands in a line, as far as its first three characters go. -/
inductive Place where
  | lineStart
  | hyphen
  | hyphens
  | inside
  deriving DecidableEq

namespace Place

/-- The place behind a character, if that does not end three hyphens at the start of a line. -/
def next? (p : Place) (c : Char) : Option Place :=
  if isBreak c then some .lineStart
  else match p with
    | .lineStart => some (if c == '-' then .hyphen else .inside)
    | .hyphen => some (if c == '-' then .hyphens else .inside)
    | .hyphens => if c == '-' then none else some .inside
    | .inside => some .inside

def after? (p : Place) (cs : List Char) : Option Place := cs.foldlM next? p

variable {p q r : Place}

@[simp] theorem after?_nil : p.after? [] = some p := rfl

theorem after?_cons {c : Char} {cs : List Char} :
    p.after? (c :: cs) = (p.next? c).bind fun q => q.after? cs := by
  rw [after?, List.foldlM_cons]
  rfl

theorem after?_append {cs ds : List Char} :
    p.after? (cs ++ ds) = (p.after? cs).bind fun q => q.after? ds := by
  rw [after?, List.foldlM_append]
  rfl

theorem after?_append_of_eq {cs ds : List Char} (h : p.after? cs = some q) :
    p.after? (cs ++ ds) = q.after? ds := by
  rw [after?_append, h, Option.bind_some]

theorem after?_cons_of_eq {c : Char} {cs : List Char} (h : p.next? c = some q) :
    p.after? (c :: cs) = q.after? cs := by
  rw [after?_cons, h, Option.bind_some]

theorem next?_of_isBreak {c : Char} (hc : isBreak c = true) : p.next? c = some .lineStart := by
  rw [next?.eq_def, if_pos hc]

theorem next?_of_ne {c : Char} (hbreak : isBreak c = false) (hc : c ≠ '-') :
    p.next? c = some .inside := by
  cases p <;> simp [next?, hbreak, hc]

theorem next?_inside {c : Char} (hc : isBreak c = false) :
    next? .inside c = some .inside := by
  simp [next?, hc]

theorem isBreak_of_next?_eq_lineStart {c : Char} (h : p.next? c = some .lineStart) :
    isBreak c = true := by
  by_contra hc
  rw [next?.eq_def, if_neg hc] at h
  cases p <;> simp at h <;> split at h <;> simp at h

theorem after?_inside {cs : List Char} (h : ∀ c ∈ cs, isBreak c = false) :
    after? .inside cs = some .inside := by
  induction cs with
  | nil => rfl
  | cons c cs ih =>
    rw [after?_cons_of_eq (next?_inside (h c List.mem_cons_self))]
    exact ih fun d hd => h d (List.mem_cons_of_mem c hd)

/-- Characters that neither break a line nor begin it with hyphens lead inside it. -/
theorem after?_of_ne {c : Char} {cs : List Char} (hc : c ≠ '-')
    (h : ∀ d ∈ c :: cs, isBreak d = false) : p.after? (c :: cs) = some .inside := by
  rw [after?_cons_of_eq (next?_of_ne (h c List.mem_cons_self) hc)]
  exact after?_inside fun d hd => h d (List.mem_cons_of_mem c hd)

/-- A text that does not begin with three hyphens can begin a line. -/
theorem exists_after?_lineStart {cs : List Char} (hbreak : ∀ c ∈ cs, isBreak c = false)
    (hrule : ['-', '-', '-'].isPrefixOf cs = false) : ∃ q, after? .lineStart cs = some q := by
  have hyphen : next? .lineStart '-' = some .hyphen := by decide
  have hyphens : next? .hyphen '-' = some .hyphens := by decide
  rcases cs with _ | ⟨a, cs⟩
  · exact ⟨_, rfl⟩
  by_cases ha : a = '-'
  · subst ha
    rw [after?_cons_of_eq hyphen]
    rcases cs with _ | ⟨b, cs⟩
    · exact ⟨_, rfl⟩
    by_cases hb : b = '-'
    · subst hb
      rw [after?_cons_of_eq hyphens]
      rcases cs with _ | ⟨c, cs⟩
      · exact ⟨_, rfl⟩
      · have hc : c ≠ '-' := by
          rintro rfl
          simp at hrule
        exact ⟨_, after?_of_ne hc fun d hd => hbreak d (by simp_all)⟩
    · exact ⟨_, after?_of_ne hb fun d hd => hbreak d (by simp_all)⟩
  · exact ⟨_, after?_of_ne ha hbreak⟩

/-- Behind a line break a line begins. -/
theorem eq_lineStart_of_after? {cs : List Char} (h : p.after? cs = some q)
    {c : Char} (hlast : cs.getLast? = some c) (hc : isBreak c = true) : q = .lineStart := by
  obtain ⟨init, rfl⟩ := List.getLast?_eq_some_iff.mp hlast
  rw [after?_append] at h
  obtain ⟨r, _, hr⟩ := Option.bind_eq_some_iff.mp h
  rw [after?_cons_of_eq (next?_of_isBreak hc), after?_nil] at hr
  exact (Option.some.inj hr).symm

/-- Only a line break begins a line. -/
theorem isBreak_of_after?_eq_lineStart {cs : List Char} (h : p.after? cs = some .lineStart)
    {c : Char} (hlast : cs.getLast? = some c) : isBreak c = true := by
  obtain ⟨init, rfl⟩ := List.getLast?_eq_some_iff.mp hlast
  rw [after?_append] at h
  obtain ⟨r, _, hr⟩ := Option.bind_eq_some_iff.mp h
  rw [after?_cons] at hr
  obtain ⟨s, hs, hnil⟩ := Option.bind_eq_some_iff.mp hr
  rw [after?_nil, Option.some.injEq] at hnil
  exact isBreak_of_next?_eq_lineStart (hnil ▸ hs)

/-- No line of a text that can be followed to its end is a line of three hyphens, whichever of the
breaks end lines. -/
theorem not_isLine_of_after? {brk : Char → Bool} (hbrk : ∀ c, brk c = true → isBreak c = true)
    {cs : List Char} (h : after? .lineStart cs = some q) {l : List Char}
    (hl : l ∈ cutAfter brk cs) : isLine "---" l = false := by
  obtain ⟨before, after, hsplit, hlast⟩ := exists_of_mem_cutAfter hl
  rw [hsplit, after?_append] at h
  obtain ⟨r, hbefore, hr⟩ := Option.bind_eq_some_iff.mp h
  have hstart : r = .lineStart := by
    cases hb : before.getLast? with
    | none =>
      rw [List.getLast?_eq_none_iff] at hb
      rw [hb, after?_nil, Option.some.injEq] at hbefore
      exact hbefore.symm
    | some c => exact eq_lineStart_of_after? hbefore hb (hbrk c (hlast c hb))
  have hrule (rest : List Char) : after? .lineStart ("---".toList ++ rest) = none := rfl
  rw [Bool.eq_false_iff]
  intro hline
  rw [hstart] at hr
  simp only [isLine, Bool.or_eq_true, beq_iff_eq] at hline
  rcases hline with rfl | rfl
  · rw [hrule] at hr
    simp at hr
  · rw [List.append_assoc, hrule] at hr
    simp at hr

end Place

open Place

section Scalars

theorem isBreak_hexDigit {n : Nat} (hn : n < 16) : isBreak (hexDigit n) = false := by
  revert n
  decide

theorem isBreak_of_mem_hexDigits {width n : Nat} {c : Char} (h : c ∈ hexDigits width n) :
    isBreak c = false := by
  induction width generalizing n with
  | zero => simp [hexDigits] at h
  | succ width ih =>
    rw [hexDigits, List.mem_append, List.mem_singleton] at h
    rcases h with h | rfl
    · exact ih h
    · exact isBreak_hexDigit (Nat.mod_lt n (by decide))

theorem isBreak_of_letter? {c letter : Char} (h : letter? c = some letter) :
    isBreak letter = false := by
  have all : letters.all fun p => !isBreak p.2 := by decide
  obtain ⟨before, after, hsplit, _⟩ := List.lookup_eq_some_iff.mp h
  have hmem : (c, letter) ∈ letters := by
    rw [hsplit]
    simp
  simpa using List.all_eq_true.mp all _ hmem

theorem isBreak_of_mem_doubleQuotedChar {c d : Char} (h : d ∈ doubleQuotedChar c) :
    isBreak d = false := by
  have hslash : isBreak '\\' = false := by decide
  have hnumbered {letter : Char} {width n : Nat} (hletter : isBreak letter = false)
      (hd : d ∈ '\\' :: letter :: hexDigits width n) : isBreak d = false := by
    rcases List.mem_cons.mp hd with rfl | hd
    · exact hslash
    rcases List.mem_cons.mp hd with rfl | hd
    · exact hletter
    · exact isBreak_of_mem_hexDigits hd
  unfold doubleQuotedChar at h
  split at h
  · next hc =>
    rw [List.mem_singleton] at h
    simp only [Bool.and_eq_true, Bool.not_eq_true'] at hc
    rw [h]
    exact hc.1.1.2
  split at h
  · next letter hletter =>
    simp only [List.mem_cons, List.not_mem_nil, or_false] at h
    rcases h with rfl | rfl
    · exact hslash
    · exact isBreak_of_letter? hletter
  dsimp only at h
  split at h
  · exact hnumbered (by decide) h
  split at h
  · exact hnumbered (by decide) h
  · exact hnumbered (by decide) h

theorem isBreak_of_mem_doubleQuoted {cs : List Char} {d : Char} (h : d ∈ doubleQuoted cs) :
    isBreak d = false := by
  simp only [doubleQuoted, List.cons_append, List.mem_cons, List.mem_append, List.mem_flatMap,
    List.not_mem_nil, or_false] at h
  rcases h with rfl | ⟨c, _, h⟩ | rfl
  · decide
  · exact isBreak_of_mem_doubleQuotedChar h
  · decide

theorem after?_spaces {n : Nat} (hn : n ≠ 0) (p : Place) :
    p.after? (spaces n) = some .inside := by
  obtain ⟨m, rfl⟩ := Nat.exists_eq_succ_of_ne_zero hn
  refine after?_of_ne (by decide) fun c hc => ?_
  rw [List.eq_of_mem_replicate (n := m + 1) hc]
  decide

/-- Where one stands when a line has just begun, or has not. -/
def placeOf (atStart : Bool) : Place := if atStart then .lineStart else .inside

/-- Whether a text begins a line behind it. -/
def endsAtStart (atStart : Bool) (cs : List Char) : Bool := (cs.getLast?.map isBreak).getD atStart

theorem endsAtStart_cons (atStart : Bool) (c : Char) (cs : List Char) :
    endsAtStart atStart (c :: cs) = endsAtStart (isBreak c) cs := by
  rw [endsAtStart, endsAtStart, List.getLast?_cons]
  cases cs.getLast? <;> rfl

theorem after?_indented {n : Nat} (hn : n ≠ 0) (atStart : Bool) (cs : List Char) :
    (placeOf atStart).after? (indented n atStart cs) = some (placeOf (endsAtStart atStart cs)) := by
  induction cs generalizing atStart with
  | nil => rfl
  | cons c cs ih =>
    rw [endsAtStart_cons, indented]
    split
    · next hc =>
      rw [after?_cons_of_eq (next?_of_isBreak hc), hc]
      exact ih true
    · next hc =>
      rw [Bool.not_eq_true] at hc
      have hspaces : (placeOf atStart).after? (if atStart then spaces n else []) =
          some .inside := by
        cases atStart
        · rfl
        · exact after?_spaces hn _
      rw [after?_append_of_eq hspaces, after?_cons_of_eq (next?_inside hc), hc]
      exact ih false

theorem after?_singleQuoted {n : Nat} (hn : n ≠ 0) (p : Place) (cs : List Char) :
    p.after? (singleQuoted n cs) = some .inside := by
  have hquote (q : Place) : q.next? '\'' = some .inside := next?_of_ne (by decide) (by decide)
  have hindented (ds : List Char) : after? .inside (indented n false ds) =
      some (placeOf (endsAtStart false ds)) := after?_indented hn false ds
  rw [singleQuoted, List.cons_append, List.cons_append, after?_cons_of_eq (hquote p),
    List.append_assoc, after?_append_of_eq (hindented _)]
  have hlast (q : Place) : q.after? ['\''] = some .inside := by
    rw [after?_cons_of_eq (hquote q), after?_nil]
  split
  · rw [after?_append_of_eq (after?_spaces hn _)]
    exact hlast _
  · exact hlast _

theorem after?_doubleQuoted (p : Place) (cs : List Char) :
    p.after? (doubleQuoted cs) = some .inside :=
  after?_of_ne (by decide) fun _ h => isBreak_of_mem_doubleQuoted h

theorem isBreak_of_mem_literalHints {cs : List Char} {d : Char} (h : d ∈ literalHints cs) :
    isBreak d = false := by
  have hmem : d = '2' ∨ d = '-' ∨ d = '+' := by
    unfold literalHints at h
    rw [List.mem_append] at h
    rcases h with h | h
    · split at h <;> simp_all
    · split at h
      · simp_all
      split at h
      · simp_all
      split at h
      · simp_all
      split at h <;> simp_all
  rcases hmem with rfl | rfl | rfl <;> decide

theorem after?_literal {n : Nat} (hn : n ≠ 0) (p : Place) (cs : List Char) :
    p.after? (literal n cs) = some (placeOf (endsAtStart true cs)) := by
  have hhints : p.after? ('|' :: literalHints cs) = some .inside := by
    refine after?_of_ne (by decide) fun d hd => ?_
    rcases List.mem_cons.mp hd with rfl | hd
    · decide
    · exact isBreak_of_mem_literalHints hd
  rw [literal, after?_append_of_eq hhints, after?_cons_of_eq (next?_of_isBreak (by decide))]
  exact after?_indented hn true cs

/-- What the characters of a text that is written plain are. -/
theorem allowsPlain_of_style {s : String} (h : style s = .plain) :
    (∀ c ∈ s.toList, isBreak c = false) ∧ hasIndicator s.toList = false := by
  have hplain : allowsPlain s.toList = true := by
    unfold style at h
    simp only at h
    split at h
    · split at h <;> simp at h
    split at h
    · next hallowed => exact (Bool.and_eq_true _ _ ▸ hallowed).2
    split at h <;> simp at h
  simp only [allowsPlain, Bool.and_eq_true, Bool.not_eq_true', List.any_eq_false] at hplain
  exact ⟨fun c hc => by simpa using hplain.1.1.1.2 c hc, hplain.1.1.2⟩

theorem not_rule_of_hasIndicator {cs : List Char} (h : hasIndicator cs = false) :
    ['-', '-', '-'].isPrefixOf cs = false := by
  cases cs with
  | nil => rfl
  | cons c cs =>
    simp only [hasIndicator, Bool.or_eq_false_iff] at h
    exact h.1.1.1.1

theorem style_ne_folded (s : String) : style s ≠ .folded := by
  unfold style
  simp only
  split
  · split <;> simp
  split
  · simp
  split <;> simp

/-- A text with the end of its line ends a line. -/
theorem after?_scalarText {n : Nat} (hn : n ≠ 0) (s : String) :
    after? .inside (scalarText n s ++ lineEnd s) = some .lineStart := by
  have hfeed (q : Place) : q.after? ['\n'] = some .lineStart := by
    rw [after?_cons_of_eq (next?_of_isBreak (by decide)), after?_nil]
  cases hstyle : style s with
  | plain =>
    have hend : lineEnd s = ['\n'] := by simp [lineEnd, hstyle]
    rw [scalarText, hstyle, hend,
      after?_append_of_eq (after?_inside (allowsPlain_of_style hstyle).1)]
    exact hfeed _
  | single =>
    have hend : lineEnd s = ['\n'] := by simp [lineEnd, hstyle]
    rw [scalarText, hstyle, hend, after?_append_of_eq (after?_singleQuoted hn _ _)]
    exact hfeed _
  | double =>
    have hend : lineEnd s = ['\n'] := by simp [lineEnd, hstyle]
    rw [scalarText, hstyle, hend, after?_append_of_eq (after?_doubleQuoted _ _)]
    exact hfeed _
  | literal =>
    rw [scalarText, hstyle, after?_append_of_eq (after?_literal hn _ _), lineEnd, hstyle]
    split
    · next hend =>
      have hbreak : endsAtStart true s.toList = true := by
        rw [endsAtStart]
        cases hlast : s.toList.getLast? with
        | none => rfl
        | some c => simpa [hlast] using hend
      rw [hbreak, after?_nil]
      rfl
    · exact hfeed _
  | folded => exact absurd hstyle (style_ne_folded s)

end Scalars

section Values

theorem style_ne_literal_of_isShortKey {key : String} (h : isShortKey key = true) :
    style key ≠ .literal := by
  have hfeed : '\n' ∉ key.toList := by
    intro hmem
    simp only [isShortKey, Bool.and_eq_true, Bool.not_eq_true', List.any_eq_false] at h
    exact absurd (h.1 '\n' hmem) (by decide)
  unfold style
  simp only [List.contains_eq_mem, hfeed, decide_false, Bool.false_eq_true, if_false]
  split
  · simp
  split <;> simp

/-- A key stands at the beginning of a line or behind its indentation, and ends inside the line. -/
theorem after?_keyText (n : Nat) (key : String) (atStart : Bool) :
    (placeOf atStart).after? (keyText n key) = some .inside := by
  have hcolon (q : Place) : q.after? [':'] = some .inside := by
    rw [after?_cons_of_eq (next?_of_ne (by decide) (by decide)), after?_nil]
  have hn : n + 2 ≠ 0 := by omega
  rw [keyText]
  split
  · next hshort =>
    have htext : ∃ q, (placeOf atStart).after? (scalarText (n + 2) key) = some q := by
      cases hstyle : style key with
      | plain =>
        obtain ⟨hbreak, hindicator⟩ := allowsPlain_of_style hstyle
        rw [scalarText, hstyle]
        cases atStart
        · exact ⟨_, after?_inside hbreak⟩
        · exact exists_after?_lineStart hbreak (not_rule_of_hasIndicator hindicator)
      | single =>
        rw [scalarText, hstyle]
        exact ⟨_, after?_singleQuoted hn _ _⟩
      | double =>
        rw [scalarText, hstyle]
        exact ⟨_, after?_doubleQuoted _ _⟩
      | literal => exact absurd hstyle (style_ne_literal_of_isShortKey hshort)
      | folded => exact absurd hstyle (style_ne_folded key)
    obtain ⟨q, hq⟩ := htext
    rw [after?_append_of_eq hq]
    exact hcolon q
  · have hmark : (placeOf atStart).after? ['?', ' '] = some .inside :=
      after?_of_ne (by decide) (isBreak_of_all (by decide))
    have htext := after?_scalarText hn key
    have hspaces : ∃ q, after? .lineStart (spaces n) = some q := by
      by_cases h : n = 0
      · rw [h]
        exact ⟨_, rfl⟩
      · exact ⟨_, after?_spaces h _⟩
    obtain ⟨q, hq⟩ := hspaces
    have hassoc : '?' :: ' ' :: scalarText (n + 2) key ++ lineEnd key ++ spaces n ++ [':'] =
        ['?', ' '] ++ ((scalarText (n + 2) key ++ lineEnd key) ++ (spaces n ++ [':'])) := by
      simp
    rw [hassoc, after?_append_of_eq hmark, after?_append_of_eq htext, after?_append_of_eq hq]
    exact hcolon q

theorem after?_lead_item (p : Place) (inline : Bool) (n : Nat) :
    ∃ q, p.after? (lead inline n ++ ['-']) = some q := by
  cases inline with
  | true =>
    have hspace : p.after? [' ', '-'] = some .inside :=
      after?_of_ne (by decide) (isBreak_of_all (by decide))
    exact ⟨_, hspace⟩
  | false =>
    have hfeed : p.next? '\n' = some .lineStart := next?_of_isBreak (by decide)
    rw [lead, if_neg (by simp), List.cons_append, after?_cons_of_eq hfeed]
    by_cases h : n = 0
    · subst h
      exact ⟨.hyphen, rfl⟩
    · rw [after?_append_of_eq (after?_spaces h _)]
      exact ⟨.inside, rfl⟩

theorem after?_lead (p : Place) (inline : Bool) {n : Nat} (hn : n ≠ 0) :
    p.after? (lead inline n) = some .inside := by
  cases inline with
  | true => exact after?_of_ne (by decide) (isBreak_of_all (by decide))
  | false =>
    have hfeed : p.next? '\n' = some .lineStart := next?_of_isBreak (by decide)
    rw [lead, if_neg (by simp), after?_cons_of_eq hfeed]
    exact after?_spaces hn _

theorem after?_line (p : Place) (cs : List Char) (h : ∀ c ∈ cs, isBreak c = false) :
    p.after? (' ' :: cs ++ ['\n']) = some .lineStart := by
  have htext : p.after? (' ' :: cs) = some .inside := by
    refine after?_of_ne (by decide) fun c hc => ?_
    rcases List.mem_cons.mp hc with rfl | hc
    · decide
    · exact h c hc
  rw [after?_append_of_eq htext, after?_cons_of_eq (next?_of_isBreak (by decide)), after?_nil]

theorem isBlank_of_isBreak {c : Char} (h : isBreak c = true) : isBlank c = true := by
  simp only [isBreak, Bool.or_eq_true, beq_iff_eq] at h
  rcases h with (((rfl | rfl) | rfl) | rfl) | rfl <;> decide

theorem isBreak_of_mem_textIn {x : Number} {l : Decimal.Layout} {c : Char}
    (h : c ∈ (x.textIn l).toList) : isBreak c = false := by
  rw [Bool.eq_false_iff]
  intro hc
  have hblank := Number.isBlank_of_mem_textIn h
  rw [isBlank_of_isBreak hc] at hblank
  exact absurd hblank (by decide)

mutual

/-- No line of a value begins with three hyphens, and a line begins behind the value. -/
theorem after?_valueAt (p : Place) (inline : Bool) (n : Nat) :
    ∀ j : Json, p.after? (valueAt inline n j) = some .lineStart
  | .null => by
    rw [valueAt]
    exact after?_line p "null".toList (isBreak_of_all (by decide))
  | .flag b => by
    rw [valueAt]
    cases b
    · exact after?_line p "false".toList (isBreak_of_all (by decide))
    · exact after?_line p "true".toList (isBreak_of_all (by decide))
  | .number x => by
    rw [valueAt]
    exact after?_line p _ fun c hc => isBreak_of_mem_textIn hc
  | .text s => by
    have hspace : p.next? ' ' = some .inside := next?_of_ne (by decide) (by decide)
    rw [valueAt, List.cons_append, after?_cons_of_eq hspace]
    exact after?_scalarText (by omega) s
  | .array [] => by
    rw [valueAt]
    exact after?_line p "[]".toList (isBreak_of_all (by decide))
  | .array (x :: xs) => by
    rw [valueAt]
    generalize (if inline then n + 2 else n) = m
    obtain ⟨q, hq⟩ := after?_lead_item p inline m
    have hassoc : lead inline m ++ '-' :: valueAt true m x ++ listAt m xs =
        (lead inline m ++ ['-']) ++ (valueAt true m x ++ listAt m xs) := by
      simp
    rw [hassoc, after?_append_of_eq hq, after?_append_of_eq (after?_valueAt q true m x)]
    exact after?_listAt m xs
  | .object [] => by
    rw [valueAt]
    exact after?_line p "\x7b\x7d".toList (isBreak_of_all (by decide))
  | .object ((k, v) :: es) => by
    have hlead : p.after? (lead inline (n + 2)) = some (placeOf false) :=
      after?_lead p inline (by omega)
    rw [valueAt, List.append_assoc, List.append_assoc, after?_append_of_eq hlead,
      after?_append_of_eq (after?_keyText (n + 2) k false),
      after?_append_of_eq (after?_valueAt _ _ _ v)]
    exact after?_tableAt (n + 2) es

theorem after?_listAt (n : Nat) : ∀ xs : List Json,
    after? .lineStart (listAt n xs) = some .lineStart
  | [] => rfl
  | x :: xs => by
    have hmark : ∃ q, after? .lineStart (spaces n ++ ['-']) = some q := by
      by_cases h : n = 0
      · subst h
        exact ⟨_, rfl⟩
      · rw [after?_append_of_eq (after?_spaces h _)]
        exact ⟨_, rfl⟩
    obtain ⟨q, hq⟩ := hmark
    have hassoc : listAt n (x :: xs) =
        (spaces n ++ ['-']) ++ (valueAt true n x ++ listAt n xs) := by
      simp [listAt]
    rw [hassoc, after?_append_of_eq hq, after?_append_of_eq (after?_valueAt q true n x)]
    exact after?_listAt n xs

theorem after?_tableAt (n : Nat) : ∀ es : List (String × Json),
    after? .lineStart (tableAt n es) = some .lineStart
  | [] => rfl
  | (k, v) :: es => by
    have hspaces : ∃ atStart, after? .lineStart (spaces n) = some (placeOf atStart) := by
      by_cases h : n = 0
      · subst h
        exact ⟨true, rfl⟩
      · exact ⟨false, after?_spaces h _⟩
    obtain ⟨atStart, hstart⟩ := hspaces
    rw [tableAt, List.append_assoc, List.append_assoc, after?_append_of_eq hstart,
      after?_append_of_eq (after?_keyText n k atStart),
      after?_append_of_eq (after?_valueAt _ _ _ v)]
    exact after?_tableAt n es

end

end Values

section Ends

/-- Whether a text with line feeds that can be written as it is ends with another break. -/
def leavesOpen (s : String) : Bool :=
  s.toList.contains '\n' && isClean s.toList &&
    s.toList.getLast?.any fun c => c == '\u2028' || c == '\u2029'

/-- Such a text is a literal block, and its break ends the last line. -/
theorem leavesOpen_eq (s : String) :
    leavesOpen s =
      (style s == .literal && s.toList.getLast?.any fun c => isBreak c && c != '\n') := by
  have hstyle : (style s == .literal) = (s.toList.contains '\n' && allowsLiteral s.toList) := by
    unfold style
    simp only
    split
    · next hfeed => split <;> simp_all
    · next hfeed =>
      split
      · simp_all
      split <;> simp_all
  have hbreak {c : Char} (hc : c ∈ s.toList) (hclean : isClean s.toList = true) :
      (isBreak c && c != '\n') = (c == '\u2028' || c == '\u2029') := by
    have hprintable : isPrintable c = true := by
      rw [isClean, Bool.and_eq_true, List.all_eq_true] at hclean
      exact hclean.1 c hc
    have hreturn : (c == '\r') = false := by
      rw [beq_eq_false_iff_ne]
      rintro rfl
      exact absurd hprintable (by decide)
    have hnext : (c == '\u0085') = false := by
      rw [beq_eq_false_iff_ne]
      rintro rfl
      exact absurd hprintable (by decide)
    by_cases hfeed : c = '\n'
    · rw [hfeed]
      decide
    · rw [isBreak, hreturn, hnext, bne, beq_eq_false_iff_ne.mpr hfeed]
      simp
  rw [hstyle, leavesOpen, allowsLiteral]
  cases hclean : isClean s.toList with
  | false => simp
  | true =>
    cases hlast : s.toList.getLast? with
    | none => simp
    | some c =>
      rw [Option.any_some, Option.any_some, Option.any_some,
        hbreak (List.mem_of_getLast? hlast) hclean]
      by_cases hspace : c = ' '
      · rw [hspace]
        simp
      · rw [beq_eq_false_iff_ne.mpr hspace]
        simp

mutual

/-- Whether the last text of a value leaves its line without a line feed. -/
def openEnded : Json → Bool
  | .null | .flag _ | .number _ => false
  | .text s => leavesOpen s
  | .array items => openEndedItems items
  | .object entries => openEndedEntries entries

def openEndedItems : List Json → Bool
  | [] => false
  | [x] => openEnded x
  | _ :: x :: xs => openEndedItems (x :: xs)

def openEndedEntries : List (String × Json) → Bool
  | [] => false
  | [(_, v)] => openEnded v
  | _ :: e :: es => openEndedEntries (e :: es)

end

theorem openEndedItems_eq_any (xs : List Json) :
    openEndedItems xs = xs.getLast?.any openEnded := by
  induction xs with
  | nil => rfl
  | cons x xs ih =>
    cases xs with
    | nil => rfl
    | cons y ys => rw [openEndedItems, ih, List.getLast?_cons_cons]

theorem getLast?_indented (n : Nat) (atStart : Bool) (cs : List Char) :
    (indented n atStart cs).getLast? = cs.getLast? := by
  induction cs generalizing atStart with
  | nil => rfl
  | cons c cs ih =>
    rw [indented]
    split
    · rw [List.getLast?_cons, List.getLast?_cons, ih]
    · rw [List.getLast?_append, List.getLast?_cons, List.getLast?_cons, ih, Option.some_or]

theorem getLast?_scalarText (n : Nat) (s : String) :
    (scalarText n s ++ lineEnd s).getLast? = some '\n' ↔ leavesOpen s = false := by
  rw [lineEnd, leavesOpen_eq]
  split
  · next h =>
    rw [Bool.and_eq_true, beq_iff_eq, Option.any_eq_true] at h
    obtain ⟨hstyle, c, hlast, hc⟩ := h
    have htext : (literal n s.toList).getLast? = some c := by
      rw [literal, List.getLast?_append, List.getLast?_cons, getLast?_indented, hlast]
      rfl
    rw [scalarText, hstyle, List.append_nil, htext, hlast]
    simp [hc]
  · next h =>
    rw [List.getLast?_concat, eq_self, true_iff]
    cases hlast : s.toList.getLast? with
    | none => simp
    | some c => simp_all

theorem valueAt_ne_nil (inline : Bool) (n : Nat) (j : Json) : valueAt inline n j ≠ [] := by
  intro h
  have hafter := after?_valueAt .inside inline n j
  rw [h] at hafter
  exact absurd hafter (by decide)

theorem listAt_ne_nil (n : Nat) (x : Json) (xs : List Json) : listAt n (x :: xs) ≠ [] := by
  simp [listAt]

theorem tableAt_ne_nil (n : Nat) (e : String × Json) (es : List (String × Json)) :
    tableAt n (e :: es) ≠ [] := by
  obtain ⟨k, v⟩ := e
  simp [tableAt, valueAt_ne_nil]

mutual

theorem getLast?_valueAt (inline : Bool) (n : Nat) :
    ∀ j : Json, (valueAt inline n j).getLast? = some '\n' ↔ openEnded j = false
  | .null => by simp [valueAt, openEnded]
  | .flag b => by cases b <;> simp [valueAt, openEnded]
  | .number x => by
    rw [valueAt, List.getLast?_concat, openEnded]
    simp
  | .text s => by
    have hne : scalarText (n + 2) s ++ lineEnd s ≠ [] := by
      intro h
      have hafter := after?_scalarText (n := n + 2) (by omega) s
      rw [h] at hafter
      exact absurd hafter (by decide)
    have htext : valueAt inline n (.text s) = [' '] ++ (scalarText (n + 2) s ++ lineEnd s) := by
      simp [valueAt]
    rw [htext, List.getLast?_append_of_ne_nil _ hne, openEnded]
    exact getLast?_scalarText (n + 2) s
  | .array [] => by simp [valueAt, openEnded, openEndedItems]
  | .array [x] => by
    rw [valueAt, openEnded, openEndedItems, listAt, List.append_nil]
    generalize (if inline then n + 2 else n) = m
    rw [← List.singleton_append, ← List.append_assoc,
      List.getLast?_append_of_ne_nil _ (valueAt_ne_nil true m x)]
    exact getLast?_valueAt true m x
  | .array (x :: y :: ys) => by
    rw [valueAt, openEnded, openEndedItems]
    generalize (if inline then n + 2 else n) = m
    rw [List.getLast?_append_of_ne_nil _ (listAt_ne_nil m y ys)]
    exact getLast?_listAt m (y :: ys) (by simp)
  | .object [] => by simp [valueAt, openEnded, openEndedEntries]
  | .object [(k, v)] => by
    rw [valueAt, openEnded, openEndedEntries, tableAt, List.append_nil,
      List.getLast?_append_of_ne_nil _ (valueAt_ne_nil _ _ v)]
    exact getLast?_valueAt _ _ v
  | .object ((k, v) :: e :: es) => by
    rw [valueAt, openEnded, openEndedEntries,
      List.getLast?_append_of_ne_nil _ (tableAt_ne_nil (n + 2) e es)]
    exact getLast?_tableAt (n + 2) (e :: es) (by simp)

theorem getLast?_listAt (n : Nat) : ∀ xs : List Json, xs ≠ [] →
    ((listAt n xs).getLast? = some '\n' ↔ openEndedItems xs = false)
  | [], h => absurd rfl h
  | [x], _ => by
    rw [openEndedItems, listAt, listAt, List.append_nil, ← List.singleton_append,
      ← List.append_assoc, List.getLast?_append_of_ne_nil _ (valueAt_ne_nil true n x)]
    exact getLast?_valueAt true n x
  | x :: y :: ys, _ => by
    rw [openEndedItems, listAt, List.getLast?_append_of_ne_nil _ (listAt_ne_nil n y ys)]
    exact getLast?_listAt n (y :: ys) (by simp)

theorem getLast?_tableAt (n : Nat) : ∀ es : List (String × Json), es ≠ [] →
    ((tableAt n es).getLast? = some '\n' ↔ openEndedEntries es = false)
  | [], h => absurd rfl h
  | [(k, v)], _ => by
    rw [openEndedEntries, tableAt, tableAt, List.append_nil,
      List.getLast?_append_of_ne_nil _ (valueAt_ne_nil _ n v)]
    exact getLast?_valueAt _ n v
  | (k, v) :: e :: es, _ => by
    rw [openEndedEntries, tableAt, List.getLast?_append_of_ne_nil _ (tableAt_ne_nil n e es)]
    exact getLast?_tableAt n (e :: es) (by simp)

end

end Ends

end TypeDocs.Yaml
