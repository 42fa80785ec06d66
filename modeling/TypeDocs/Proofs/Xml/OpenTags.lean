import TypeDocs.Proofs.Xml.Content

/-!
# Tags that stay open

A text may end while tags are open. When it ends outside markup, it has the pieces of the text with
the missing end tags behind it, up to those end tags.
-/

namespace TypeDocs.Xml

/-- The names of the tags that are open behind some pieces, the innermost first. -/
def openAfter (opened : List (List Char)) : List Markup → List (List Char)
  | [] => opened
  | .opening tag :: ms => openAfter (tagName tag :: opened) ms
  | .closing _ :: ms => openAfter opened.tail ms
  | _ :: ms => openAfter opened ms

/-- The names of the tags that are open at the end of a text. There is no answer when the text ends
inside markup or an end tag in it does not close the tag opened last. -/
def openAtEnd (xml : String) : Option (List (List Char)) :=
  match pieces xml.toList with
  | (ms, none) => some (openAfter [] ms)
  | (_, some _) => none

def endTags (opened : List (List Char)) : List Char := opened.flatMap fun name => endTag name []

/-- A text with end tags behind it. -/
def withEndTags (xml : String) (opened : List (List Char)) : String :=
  .ofList (xml.toList ++ endTags opened)

/-! ### Scanning -/

theorem exists_leads_text {p : Place} (cs : List Char) (h : (piecesFrom p cs).2 = none) :
    ∃ read ms, Leads p cs (.text read) ms := by
  induction cs generalizing p with
  | nil =>
    cases p with
    | text read => exact ⟨read, [], Leads.nil _⟩
    | _ => exact absurd h (Option.some_ne_none _)
  | cons c cs ih =>
    rw [piecesFrom_cons] at h
    cases hstep : step p c with
    | error e =>
      rw [hstep] at h
      exact absurd h (Option.some_ne_none e)
    | ok next =>
      rw [hstep] at h
      obtain ⟨read, ms, hleads⟩ := ih h
      exact ⟨read, next.2 ++ ms, Leads.step hstep hleads⟩

/-- A text that ends outside markup is scanned in the same way when markup follows. -/
theorem piecesFrom_append {p : Place} {cs rest : List Char} (h : (piecesFrom p cs).2 = none)
    (hrest : AtMarkup rest) :
    piecesFrom p (cs ++ rest) = ahead (piecesFrom p cs).1 (piecesFrom (.text []) rest) := by
  obtain ⟨read, ms, hleads⟩ := exists_leads_text cs h
  have hcs : piecesFrom p cs = ahead ms (finish (.text read)) := by
    have hnil := hleads []
    rwa [List.append_nil] at hnil
  rw [hleads rest, piecesFrom_text read rest hrest, hcs, ← ahead_append]
  rfl

theorem atMarkup_endTags (opened : List (List Char)) : AtMarkup (endTags opened) := by
  cases opened with
  | nil => exact Or.inl rfl
  | cons name opened => exact atMarkup_cons _

theorem piecesFrom_endTags (opened : List (List Char))
    (hplain : ∀ name ∈ opened, name.all isPlain = true)
    (hspace : ∀ name ∈ opened, ∀ c ∈ name, isSpace c = false) :
    piecesFrom (.text []) (endTags opened) = (opened.map .closing, none) := by
  induction opened with
  | nil => rfl
  | cons name opened ih =>
    have hname : Leads (.text []) (endTag name []) (.text []) [.closing name] :=
      leads_endTag (withinTag_of_isPlain (hplain name List.mem_cons_self))
        (hspace name List.mem_cons_self) ⟨[], rfl⟩
    have hrest := ih (fun n hn => hplain n (List.mem_cons_of_mem name hn))
      (fun n hn => hspace n (List.mem_cons_of_mem name hn))
    have hcons : endTags (name :: opened) = endTag name [] ++ endTags opened := rfl
    rw [hcons, hname, hrest]
    rfl

/-! ### Nesting -/

theorem openAfter_cons (opened : List (List Char)) (m : Markup) (ms : List Markup) :
    openAfter opened (m :: ms) = openAfter (openAfter opened [m]) ms := by
  cases m <;> rfl

theorem openAfter_append (opened : List (List Char)) (ms ns : List Markup) :
    openAfter opened (ms ++ ns) = openAfter (openAfter opened ms) ns := by
  induction ms generalizing opened with
  | nil => rfl
  | cons m ms ih =>
    rw [List.cons_append, openAfter_cons, ih, openAfter_cons opened m ms]

theorem openAfter_closings (opened : List (List Char)) :
    openAfter opened (opened.map .closing) = [] := by
  induction opened with
  | nil => rfl
  | cons name opened ih => exact ih

theorem not_isSpace_of_mem_openAfter (opened : List (List Char)) (ms : List Markup)
    (h : ∀ name ∈ opened, ∀ c ∈ name, isSpace c = false) :
    ∀ name ∈ openAfter opened ms, ∀ c ∈ name, isSpace c = false := by
  induction ms generalizing opened with
  | nil => exact h
  | cons m ms ih =>
    rw [openAfter_cons]
    apply ih
    cases m with
    | opening tag => exact List.forall_mem_cons.mpr ⟨not_isSpace_of_mem_tagName, h⟩
    | closing name' => exact fun name hname => h name (List.mem_of_mem_tail hname)
    | _ => exact h

/-- An end tag is in place when it closes the tag opened last, and any other piece is. -/
def InPlace (opened : List (List Char)) : Markup → Prop
  | .closing name => opened.head? = some name
  | _ => True

theorem inPlace_of_nested {stop : Option Malformed} {opened : List (List Char)} {m : Markup}
    {ms : List Markup} (h : (nested stop opened (m :: ms)).2 = none) : InPlace opened m := by
  cases m with
  | closing name =>
    cases opened with
    | nil => exact absurd h (Option.some_ne_none _)
    | cons expected opened =>
      by_cases hname : (name == expected) = true
      · exact congrArg some (beq_iff_eq.mp hname).symm
      · rw [nested] at h
        simp only [hname] at h
        exact absurd h (Option.some_ne_none _)
  | _ => trivial

/-- A piece that is in place is passed, whatever follows it. -/
theorem nested_cons {opened : List (List Char)} {m : Markup} (h : InPlace opened m)
    (stop : Option Malformed) (ms : List Markup) :
    nested stop opened (m :: ms) = ahead [m] (nested stop (openAfter opened [m]) ms) := by
  cases m with
  | closing name =>
    obtain ⟨rest, rfl⟩ := List.head?_eq_some_iff.mp h
    rw [nested]
    simp [ahead, openAfter]
  | _ => rfl

theorem nested_singleton {opened : List (List Char)} {m : Markup} (h : InPlace opened m) :
    (nested none opened [m]).2 = none := by
  rw [nested_cons h]
  rfl

theorem nested_append {stop : Option Malformed} {opened : List (List Char)} {ms : List Markup}
    (h : (nested stop opened ms).2 = none) (stop' : Option Malformed) (ns : List Markup) :
    nested stop' opened (ms ++ ns) = ahead ms (nested stop' (openAfter opened ms) ns) := by
  induction ms generalizing opened with
  | nil => rfl
  | cons m ms ih =>
    have hplace := inPlace_of_nested h
    have hrest : (nested stop (openAfter opened [m]) ms).2 = none := by
      rwa [nested_cons hplace] at h
    rw [List.cons_append, nested_cons hplace, ih hrest, ← ahead_append, openAfter_cons opened m ms]
    rfl

/-- Pieces are only cut where there is a fault. -/
theorem nested_of_none {stop : Option Malformed} {opened : List (List Char)} {ms : List Markup}
    (h : (nested stop opened ms).2 = none) : nested stop opened ms = (ms, none) ∧ stop = none := by
  have hall := nested_append h stop []
  rw [List.append_nil] at hall
  rw [hall] at h
  have hstop : stop = none := h
  refine ⟨?_, hstop⟩
  rw [hall, hstop]
  simp [nested, ahead]

theorem nested_closings (names opened : List (List Char)) :
    nested none (names ++ opened) (names.map .closing) = (names.map .closing, none) := by
  induction names with
  | nil => rfl
  | cons name names ih =>
    rw [List.cons_append, List.map_cons, nested]
    simp [ih]

/-! ### Whole texts -/

theorem dropMark_append (cs rest : List Char) (h : AtMarkup rest) :
    dropMark (cs ++ rest) = dropMark cs ++ rest := by
  cases cs with
  | nil => obtain rfl | ⟨more, rfl⟩ := h <;> rfl
  | cons c cs =>
    by_cases hc : c = '\ufeff'
    · rw [hc]
      rfl
    · have hne : (c :: cs).head? ≠ some '\ufeff' := by simpa using hc
      rw [dropMark_of_ne hne, List.cons_append, dropMark_of_ne]
      simpa using hc

theorem openAtEnd_eq_some {xml : String} {opened : List (List Char)}
    (h : openAtEnd xml = some opened) :
    ∃ ms, pieces xml.toList = (ms, none) ∧ openAfter [] ms = opened := by
  unfold openAtEnd at h
  split at h
  · rename_i ms hpieces
    exact ⟨ms, hpieces, Option.some.inj h⟩
  · cases h

/-- A text that ends outside markup has the pieces that the scanner gives, with every end tag in
place. -/
theorem scan_of_pieces {cs : List Char} {ms : List Markup} (h : pieces cs = (ms, none)) :
    piecesFrom (.text []) (dropMark cs) = (ms, none) ∧ (nested none [] ms).2 = none := by
  have hnested : (nested (piecesFrom (.text []) (dropMark cs)).2 []
      (piecesFrom (.text []) (dropMark cs)).1).2 = none := by
    rw [← pieces_eq, h]
  obtain ⟨hall, hstop⟩ := nested_of_none hnested
  have hscan : piecesFrom (.text []) (dropMark cs) = (ms, none) := by
    rw [← pieces_eq, h] at hall
    have hms := congrArg Prod.fst hall
    exact Prod.ext hms.symm hstop
  rw [hscan] at hnested
  exact ⟨hscan, hnested⟩

/-- Markup behind a text that ends outside markup is read with the tags that are open there. -/
theorem pieces_append {cs rest : List Char} {ms : List Markup} (hpieces : pieces cs = (ms, none))
    (hrest : AtMarkup rest) :
    pieces (cs ++ rest) = ahead ms (nested (piecesFrom (.text []) rest).2 (openAfter [] ms)
      (piecesFrom (.text []) rest).1) := by
  obtain ⟨hscan, hclean⟩ := scan_of_pieces hpieces
  have hstop := congrArg Prod.snd hscan
  rw [pieces_eq, dropMark_append cs rest hrest, piecesFrom_append hstop hrest, hscan]
  exact nested_append hclean _ _

/-- The missing end tags add the pieces that they are. -/
theorem pieces_withEndTags {xml : String} {ms : List Markup}
    (hpieces : pieces xml.toList = (ms, none))
    (hplain : ∀ name ∈ openAfter [] ms, name.all isPlain = true) :
    pieces (withEndTags xml (openAfter [] ms)).toList =
      (ms ++ (openAfter [] ms).map .closing, none) := by
  have hspace : ∀ name ∈ openAfter [] ms, ∀ c ∈ name, isSpace c = false := by
    apply not_isSpace_of_mem_openAfter
    intro name hname
    exact absurd hname List.not_mem_nil
  have hend := piecesFrom_endTags (openAfter [] ms) hplain hspace
  have hnested := nested_closings (openAfter [] ms) []
  rw [List.append_nil] at hnested
  unfold withEndTags
  rw [String.toList_ofList, pieces_append hpieces (atMarkup_endTags _), hend]
  simp only
  rw [hnested]
  rfl

/-- Behind the missing end tags no tag is open. -/
theorem openAtEnd_withEndTags {xml : String} {opened : List (List Char)}
    (h : openAtEnd xml = some opened)
    (hplain : ∀ name ∈ opened, name.all isPlain = true) :
    openAtEnd (withEndTags xml opened) = some [] := by
  obtain ⟨ms, hpieces, rfl⟩ := openAtEnd_eq_some h
  unfold openAtEnd
  rw [pieces_withEndTags hpieces hplain]
  simp only
  rw [openAfter_append, openAfter_closings]

end TypeDocs.Xml
