import TypeDocs.Proofs.Xml.Tag

/-!
# How the scanner goes over a text

`Leads p cs q ms` says that the scanner, at the place `p`, comes over the characters `cs` to the
place `q` and gives the pieces `ms`, whatever follows. A stretch of text is taken apart into such
parts, and each construct of the language is one of them.
-/

namespace TypeDocs.Xml

/-- Puts pieces before what is read next. -/
def ahead (ms : List Markup) (r : List Markup × Option Malformed) :
    List Markup × Option Malformed :=
  (ms ++ r.1, r.2)

@[simp] theorem ahead_nil (r : List Markup × Option Malformed) : ahead [] r = r := rfl

theorem ahead_append (ms ns : List Markup) (r : List Markup × Option Malformed) :
    ahead (ms ++ ns) r = ahead ms (ahead ns r) := by
  unfold ahead
  rw [List.append_assoc]

theorem piecesFrom_cons (p : Place) (c : Char) (cs : List Char) :
    piecesFrom p (c :: cs) =
      match step p c with
      | .error e => ([], some e)
      | .ok (q, ms) => ahead ms (piecesFrom q cs) := by
  rw [piecesFrom]
  cases step p c <;> rfl

def Leads (p : Place) (cs : List Char) (q : Place) (ms : List Markup) : Prop :=
  ∀ rest, piecesFrom p (cs ++ rest) = ahead ms (piecesFrom q rest)

variable {p q r : Place} {c : Char} {cs ds : List Char} {ms ns : List Markup}

theorem Leads.nil (p : Place) : Leads p [] p [] := by
  intro rest
  rfl

theorem Leads.trans (h : Leads p cs q ms) (h' : Leads q ds r ns) :
    Leads p (cs ++ ds) r (ms ++ ns) := by
  intro rest
  rw [List.append_assoc, h, h', ahead_append]

theorem Leads.step (h : step p c = .ok (q, ms)) (h' : Leads q cs r ns) :
    Leads p (c :: cs) r (ms ++ ns) := by
  intro rest
  rw [List.cons_append, piecesFrom_cons, h]
  simp only
  rw [h', ahead_append]

theorem Leads.quiet (h : Xml.step p c = .ok (q, [])) (h' : Leads q cs r ns) :
    Leads p (c :: cs) r ns := by
  exact Leads.step h h'

theorem Leads.last (h : Xml.step p c = .ok (q, ms)) : Leads p [c] q ms := by
  have hstep := Leads.step h (Leads.nil q)
  rwa [List.append_nil] at hstep

/-- Characters that a place only takes in, one behind the other. -/
theorem Leads.keep (f : List Char → Place) (cs read : List Char)
    (h : ∀ pre c post, cs = pre ++ c :: post →
      Xml.step (f (pre.reverse ++ read)) c = .ok (f (c :: (pre.reverse ++ read)), [])) :
    Leads (f read) cs (f (cs.reverse ++ read)) [] := by
  induction cs generalizing read with
  | nil => exact Leads.nil _
  | cons c cs ih =>
    have hfirst : Xml.step (f read) c = .ok (f (c :: read), []) := h [] c cs rfl
    have hrest : Leads (f (c :: read)) cs (f (cs.reverse ++ c :: read)) [] := by
      apply ih
      intro pre x post hcs
      have hx := h (c :: pre) x post (by rw [hcs, List.cons_append])
      rwa [List.reverse_cons, List.append_assoc, List.singleton_append] at hx
    rw [List.reverse_cons, List.append_assoc, List.singleton_append]
    exact Leads.step hfirst hrest

/-! ### Tags -/

/-- Characters that the scanner takes into a tag, with every quote in them closed. -/
def WithinTag (cs : List Char) : Prop :=
  ∀ read, Leads (.tag none read) cs (.tag none (cs.reverse ++ read)) []

theorem WithinTag.append (h : WithinTag cs) (h' : WithinTag ds) : WithinTag (cs ++ ds) := by
  intro read
  rw [List.reverse_append, List.append_assoc]
  exact (h read).trans (h' _)

theorem withinTag_flatMap {α : Type} (f : α → List Char) (xs : List α)
    (h : ∀ x ∈ xs, WithinTag (f x)) : WithinTag (xs.flatMap f) := by
  induction xs with
  | nil => exact fun read => Leads.nil _
  | cons x xs ih =>
    rw [List.flatMap_cons]
    exact (h x List.mem_cons_self).append
      (ih fun y hy => h y (List.mem_cons_of_mem x hy))

/-- A character of a tag that neither ends it nor opens a quote. -/
def isPlain (c : Char) : Bool := c != '>' && c != '"' && c != '\''

theorem withinTag_of_isPlain (h : cs.all isPlain = true) : WithinTag cs := by
  intro read
  apply Leads.keep (.tag none)
  intro pre c post hcs
  have hc : isPlain c = true := List.all_eq_true.mp h c (by rw [hcs]; simp)
  simp only [isPlain, Bool.and_eq_true, bne_iff_ne, ne_eq] at hc
  simp [Xml.step, tagStep, hc]

theorem isPlain_of_isNameChar (h : isNameChar c = true) : isPlain c = true := by
  have hgt : c ≠ '>' := ne_of_isNameChar h (by decide)
  have hdouble : c ≠ '"' := ne_of_isNameChar h (by decide)
  have hsingle : c ≠ '\'' := ne_of_isNameChar h (by decide)
  simp [isPlain, hgt, hdouble, hsingle]

theorem isPlain_of_isSpace (h : isSpace c = true) : isPlain c = true := by
  simp only [isSpace, Bool.or_eq_true, beq_iff_eq] at h
  obtain ((rfl | rfl) | rfl) | rfl := h <;> rfl

theorem Name.all_isPlain (n : Name) : n.chars.all isPlain = true := by
  rw [List.all_eq_true]
  intro c hc
  exact isPlain_of_isNameChar (n.isNameChar_of_mem hc)

theorem Name.withinTag (n : Name) : WithinTag n.chars := withinTag_of_isPlain n.all_isPlain

theorem Space.withinTag (s : Space) : WithinTag s.chars := by
  apply withinTag_of_isPlain
  rw [List.all_eq_true]
  intro c hc
  exact isPlain_of_isSpace (s.isSpace_of_mem hc)

/-- A quote takes in all up to the same quote. -/
theorem WrittenAttribute.withinTag_quoted (a : WrittenAttribute) :
    WithinTag (a.quote :: (a.value ++ [a.quote])) := by
  intro read
  have hopen : Xml.step (.tag none read) a.quote =
      .ok (.tag (some a.quote) (a.quote :: read), []) := by
    obtain h | h := a.quote_eq <;> rw [h] <;> rfl
  have hvalue : Leads (.tag (some a.quote) (a.quote :: read)) a.value
      (.tag (some a.quote) (a.value.reverse ++ a.quote :: read)) [] := by
    apply Leads.keep (.tag (some a.quote))
    intro pre c post hcs
    have hc : (c != a.quote) = true := a.ne_quote c (by rw [hcs]; simp)
    simp only [bne_iff_ne, ne_eq] at hc
    simp [Xml.step, tagStep, hc]
  have hclose : Xml.step (.tag (some a.quote) (a.value.reverse ++ a.quote :: read)) a.quote =
      .ok (.tag none (a.quote :: (a.value.reverse ++ a.quote :: read)), []) := by
    simp [Xml.step, tagStep]
  have hall := Leads.step hopen (hvalue.trans (Leads.last hclose))
  simpa using hall

theorem WrittenAttribute.withinTag (a : WrittenAttribute) : WithinTag a.chars := by
  have hequals : WithinTag ['='] := withinTag_of_isPlain rfl
  have hassignment : WithinTag a.assignment :=
    a.before.withinTag.append (hequals.append (a.after.withinTag.append a.withinTag_quoted))
  exact a.gap.withinTag.append (a.key.withinTag.append hassignment)

theorem Tag.withinTag (t : Tag) : WithinTag t.chars := by
  have hattributes : WithinTag (t.attributes.flatMap (·.chars)) :=
    withinTag_flatMap _ _ fun a _ => a.withinTag
  exact t.name.withinTag.append (hattributes.append t.space.withinTag)

/-- What stands between brackets is given as one piece. -/
theorem leads_brackets (h : WithinTag (c :: cs)) (hbang : c ≠ '!') (hask : c ≠ '?') :
    Leads (.text []) ('<' :: (c :: cs ++ ['>'])) (.text []) [.ofTag (c :: cs)] := by
  have hbracket : Xml.step (.text []) '<' = .ok (.bracket, []) := rfl
  have hclose : Xml.step (.tag none ((c :: cs).reverse ++ [])) '>' =
      .ok (.text [], [.ofTag (c :: cs)]) := by
    simp [Xml.step, tagStep]
  have hcontent := (h []).trans (Leads.last hclose)
  -- behind the bracket the first character is read as in a tag
  have hfirst : ∀ rest,
      piecesFrom .bracket (c :: rest) = piecesFrom (.tag none []) (c :: rest) := by
    intro rest
    rw [piecesFrom_cons, piecesFrom_cons]
    simp [Xml.step, hbang, hask]
  have hinside : Leads .bracket (c :: cs ++ ['>']) (.text []) [.ofTag (c :: cs)] := by
    intro rest
    have happend := hcontent rest
    rw [List.cons_append, List.cons_append] at happend ⊢
    rw [hfirst, happend, List.nil_append]
  exact Leads.step hbracket hinside

theorem ofTag_closing {name : List Char} (hname : ∀ c ∈ name, isSpace c = false) (s : Space) :
    Markup.ofTag ('/' :: (name ++ s.chars)) = .closing name := by
  have hspace : ∀ c ∈ s.chars.reverse, isSpace c = true := by
    intro c hc
    exact s.isSpace_of_mem (List.mem_reverse.mp hc)
  have hkeep : name.reverse.dropWhile isSpace = name.reverse := by
    cases hn : name.reverse with
    | nil => rfl
    | cons c cs =>
      have hc : c ∈ name := by
        rw [← List.mem_reverse, hn]
        exact List.mem_cons_self
      rw [List.dropWhile_cons, hname c hc]
      rfl
  unfold Markup.ofTag
  simp only
  rw [List.reverse_append, List.dropWhile_append_of_pos hspace, hkeep, List.reverse_reverse]

theorem leads_endTag {name : List Char} (hwithin : WithinTag name)
    (hname : ∀ c ∈ name, isSpace c = false) (s : Space) :
    Leads (.text []) (endTag name s.chars) (.text []) [.closing name] := by
  have hslash : WithinTag ['/'] := withinTag_of_isPlain rfl
  have hall : WithinTag ('/' :: (name ++ s.chars)) :=
    hslash.append (hwithin.append s.withinTag)
  rw [← ofTag_closing hname s]
  exact leads_brackets hall (by decide) (by decide)

theorem Name.leads_closing (n : Name) (s : Space) :
    Leads (.text []) (n.closing s) (.text []) [.closing n.chars] :=
  leads_endTag n.withinTag
    (fun _ hc => not_isSpace_of_isNameChar (n.isNameChar_of_mem hc)) s

theorem getLast?_append_ne {x : Char} (h : cs.getLast? ≠ some x) (h' : ds.getLast? ≠ some x) :
    (cs ++ ds).getLast? ≠ some x := by
  rw [List.getLast?_append]
  cases hd : ds.getLast? with
  | none => exact h
  | some d => rwa [hd] at h'

theorem getLast?_flatMap_ne {x : Char} (as : List WrittenAttribute)
    (h : ∀ a ∈ as, a.chars.getLast? ≠ some x) : (as.flatMap (·.chars)).getLast? ≠ some x := by
  induction as with
  | nil => simp
  | cons a as ih =>
    rw [List.flatMap_cons]
    apply getLast?_append_ne (h a List.mem_cons_self)
    exact ih fun b hb => h b (List.mem_cons_of_mem a hb)

/-- No tag ends in a slash, so none is taken for an element without content. -/
theorem Tag.getLast?_chars (t : Tag) : t.chars.getLast? ≠ some '/' := by
  have hname : t.name.chars.getLast? ≠ some '/' := by
    intro h
    have hslash := t.name.isNameChar_of_mem (List.mem_of_getLast? h)
    exact absurd hslash (by decide)
  have hspace : t.space.chars.getLast? ≠ some '/' := by
    intro h
    have hslash := t.space.isSpace_of_mem (List.mem_of_getLast? h)
    exact absurd hslash (by decide)
  have hattribute : ∀ a ∈ t.attributes, a.chars.getLast? ≠ some '/' := by
    intro a _
    have hlast : a.chars.getLast? = some a.quote := by
      have hchars : a.chars = a.gap.chars ++ (a.key.chars ++ (a.before.chars ++
          '=' :: (a.after.chars ++ a.quote :: a.value))) ++ [a.quote] := by
        simp [WrittenAttribute.chars, WrittenAttribute.assignment]
      rw [hchars, List.getLast?_concat]
    rw [hlast]
    obtain h | h := a.quote_eq <;> rw [h] <;> decide
  exact getLast?_append_ne hname
    (getLast?_append_ne (getLast?_flatMap_ne t.attributes hattribute) hspace)

theorem Tag.exists_cons (t : Tag) :
    ∃ c cs, t.chars = c :: cs ∧ c ≠ '!' ∧ c ≠ '?' ∧ c ≠ '/' := by
  obtain ⟨c, cs, hn, hc⟩ := t.name.exists_cons
  refine ⟨c, cs ++ t.tail, ?_, ?_, ?_, ?_⟩
  · rw [Tag.chars, hn, List.cons_append]
  · exact ne_of_isNameChar hc (by decide)
  · exact ne_of_isNameChar hc (by decide)
  · exact ne_of_isNameChar hc (by decide)

/-! ### Elements without content -/

/-- What may stand before the slash of an element without content: it begins as a tag does, and
every quote in it is closed. -/
structure EmptyTag (cs : List Char) : Prop where
  within : WithinTag cs
  begins : ∃ c ds, cs = c :: ds ∧ c ≠ '!' ∧ c ≠ '?' ∧ c ≠ '/'

/-- What may stand in a start tag too, with a name that can be written in an end tag. -/
structure PairedTag (cs : List Char) : Prop extends EmptyTag cs where
  ends : cs.getLast? ≠ some '/'
  named : WithinTag (tagName cs)

/-- An element without content as one tag. -/
def emptyElement (cs : List Char) : List Char := '<' :: (cs ++ ['/'] ++ ['>'])

/-- An element without content as a start tag and an end tag. -/
def pairedElement (cs : List Char) : List Char := '<' :: (cs ++ ['>']) ++ endTag (tagName cs) []

theorem ofTag_of_begins {x : Char} (hcs : cs = x :: ds) (hx : x ≠ '/') :
    Markup.ofTag cs =
      if cs.getLast? = some '/' then .empty cs.dropLast else .opening cs := by
  subst hcs
  unfold Markup.ofTag
  split
  · next heq => exact absurd (List.cons.inj heq).1 hx
  · rfl

theorem EmptyTag.leads (h : EmptyTag cs) :
    Leads (.text []) (emptyElement cs) (.text []) [.empty cs] := by
  obtain ⟨x, xs, hcs, hbang, hask, hslash⟩ := h.begins
  have hpiece : Markup.ofTag (cs ++ ['/']) = .empty cs := by
    rw [ofTag_of_begins (by rw [hcs, List.cons_append]) hslash, List.getLast?_concat, if_pos rfl,
      List.dropLast_concat]
  have hwithin : WithinTag (cs ++ ['/']) := h.within.append (withinTag_of_isPlain rfl)
  unfold emptyElement
  rw [← hpiece]
  rw [hcs, List.cons_append] at hwithin ⊢
  exact leads_brackets hwithin hbang hask

theorem PairedTag.leads_opening (h : PairedTag cs) :
    Leads (.text []) ('<' :: (cs ++ ['>'])) (.text []) [.opening cs] := by
  obtain ⟨x, xs, hcs, hbang, hask, hslash⟩ := h.begins
  have hpiece : Markup.ofTag cs = .opening cs := by
    rw [ofTag_of_begins hcs hslash, if_neg h.ends]
  have hwithin := h.within
  rw [← hpiece]
  rw [hcs] at hwithin ⊢
  exact leads_brackets hwithin hbang hask

theorem not_isSpace_of_mem_tagName : ∀ c ∈ tagName cs, isSpace c = false := by
  intro c hc
  have hall := List.all_eq_true.mp List.all_takeWhile c hc
  simpa using hall

theorem PairedTag.leads (h : PairedTag cs) :
    Leads (.text []) (pairedElement cs) (.text []) [.opening cs, .closing (tagName cs)] :=
  h.leads_opening.trans (leads_endTag h.named not_isSpace_of_mem_tagName ⟨[], rfl⟩)

/-- Every tag can be spelled in both ways. -/
theorem Tag.pairedTag (t : Tag) : PairedTag t.chars where
  within := t.withinTag
  begins := t.exists_cons
  ends := t.getLast?_chars
  named := by
    rw [tagName_chars]
    exact t.name.withinTag

theorem Tag.leads_opening (t : Tag) :
    Leads (.text []) t.opening (.text []) [.opening t.chars] :=
  t.pairedTag.leads_opening

theorem Tag.leads_alone (t : Tag) :
    Leads (.text []) t.alone (.text []) [.empty t.chars] :=
  t.pairedTag.toEmptyTag.leads

end TypeDocs.Xml
