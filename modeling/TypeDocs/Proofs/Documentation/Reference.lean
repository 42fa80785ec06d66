import TypeDocs.Proofs.Documentation.Standing
import TypeDocs.Proofs.Text.Words

/-!
# References to members

A reference shows what follows its last dot. For a member without parameters, or with parameters
that have no dot in them, this is its name and the parameters behind. But a dot in the parameters
is taken for one before the name, so that the end of a parameter's type is shown and the name is
not.
-/

namespace TypeDocs

namespace Documentation

open Xml

/-- A reference, by a letter for the kind, what the member is in, and its name. -/
def reference (kind : Char) (qualifier name : List Char) : List Char :=
  kind :: ':' :: (qualifier ++ '.' :: name)

/-- A name with a list of parameters behind. -/
def withParameters (name parameters : List Char) : List Char :=
  name ++ '(' :: (parameters ++ [')'])

theorem referenceName_reference {kind : Char} (hkind : kind ≠ ':') (qualifier : List Char)
    {name : List Char} (hname : '.' ∉ name) :
    referenceName (reference kind qualifier name) = name := by
  have hbehind : (reference kind qualifier name).dropWhile (· != ':') =
      ':' :: (qualifier ++ '.' :: name) := by
    simp [reference, hkind]
  have hlast : (qualifier ++ '.' :: name).reverse.takeWhile (· != '.') = name.reverse := by
    have hkeep : ∀ c ∈ name.reverse, (c != '.') = true := by
      intro c hc
      exact bne_iff_ne.mpr fun h => hname (h ▸ List.mem_reverse.mp hc)
    rw [List.reverse_append, List.reverse_cons, List.append_assoc,
      List.takeWhile_append_of_pos hkeep]
    simp
  unfold referenceName
  rw [hbehind]
  dsimp only
  rw [hlast, List.reverse_reverse]

/-- A dot in the parameters is the last one of the reference. -/
theorem reference_withParameters (kind : Char) (qualifier name front back : List Char) :
    reference kind qualifier (withParameters name (front ++ '.' :: back)) =
      reference kind (qualifier ++ '.' :: (name ++ '(' :: front)) (back ++ [')']) := by
  simp [reference, withParameters]

namespace Standing

/-- A text is shown in the summary that is read, if any. -/
def add (s : Standing) (shown : List Char) : Standing := ⟨s.reading.add shown, s.opened⟩

end Standing

/-- Where an element stands in a summary `shown` is added to it. The text is read on with this, and
where the summary is the first of its member and ends, it says what was read before the element,
what the element shows and what is behind. -/
structure Adds (text : String) (s : Standing) (tag shown : List Char) : Prop where
  onward : ∀ rest : String, parse (text ++ .ofList (emptyElement tag) ++ rest) =
    (s.add shown).resume rest.toList
  kept : ∀ {member : String} {before : List (List Char)} {content : Content}
    {behind : List (List Char)} {space : Space} {rest : String} {d : Documentation},
    s.reading.member = some member → s.reading.words = some before →
    s.reading.members.lookup member = none → Summary content behind →
    parse (text ++ .ofList (emptyElement tag) ++
      .ofList (content.chars ++ (summaryName.closing space ++ rest.toList))) = .ok d →
    d.members.lookup member = some (.ofList
      ([' '].intercalate (before ++ Text.words shown ++ behind.flatMap Text.words)))

/-- What is read of the first summary of a member up to its end tag is what is kept. -/
theorem lookup_of_resume {s : Standing} {member : String} {before : List (List Char)}
    {content : Content} {behind : List (List Char)} {space : Space} {rest : List Char}
    {d : Documentation} (hmember : s.reading.member = some member)
    (hwords : s.reading.words = some before) (hnew : s.reading.members.lookup member = none)
    (hcontent : Summary content behind)
    (h : s.resume (content.chars ++ (summaryName.closing space ++ rest)) = .ok d) :
    d.members.lookup member =
      some (.ofList ([' '].intercalate (before ++ behind.flatMap Text.words))) := by
  obtain ⟨⟨members, member?, words?⟩, opened⟩ := s
  cases hmember
  cases hwords
  have hclosing := summaryName.leads_closing space rest
  rw [Standing.resume, piecesFrom_content content _ (summaryName.atMarkup_closing space _),
    Standing.onward_content, steps_summary members (some member) hcontent before, hclosing] at h
  change Standing.onward _ _ = .ok d at h
  have hplace := nested_singleton (Standing.inPlace_of_onward h)
  rw [Standing.onward_append hplace, steps_singleton] at h
  obtain ⟨next, hstep, hrest⟩ := exists_of_bind_eq_ok h
  cases hstep
  refine lookup_of_prefix (Standing.members_prefix_of_onward hrest) ?_
  rw [lookup_endSummary, hnew, if_pos rfl]
  rfl

theorem adds_referenceName {text : String} {s : Standing} {tag : List Char} {cref : String}
    (hs : standing? text = some s) (htag : EmptyTag tag)
    (hcref : attribute? tag "cref" = .ok (some cref)) :
    Adds text s tag (referenceName cref.toList) := by
  have honward (rest : String) : parse (text ++ .ofList (emptyElement tag) ++ rest) =
      (s.add (referenceName cref.toList)).resume rest.toList := by
    rw [parse_emptyElement hs htag, step_empty_of_cref hcref]
    rfl
  refine ⟨honward, fun hmember hwords hnew hcontent h => ?_⟩
  rw [honward, String.toList_ofList] at h
  refine lookup_of_resume (s := s.add _) hmember ?_ hnew hcontent h
  rw [Standing.add, Reading.add, hwords]
  rfl

/-- A reference to a member shows the name, and behind it the parameters if there are any and have
no dot in them. Of parameters with a dot it shows only what follows their last one, and neither
the name nor the name with the parameters. -/
theorem parse_reference {text : String} {s : Standing} {tag : List Char} {kind : Char}
    {name : List Char} (hs : standing? text = some s) (htag : EmptyTag tag) (hkind : kind ≠ ':')
    (hdot : '.' ∉ name) (hparenthesis : ')' ∉ name) (qualifier : List Char) :
    (attribute? tag "cref" = .ok (some (.ofList (reference kind qualifier name))) →
      Adds text s tag name) ∧
    (∀ parameters, '.' ∉ parameters →
      attribute? tag "cref" =
        .ok (some (.ofList (reference kind qualifier (withParameters name parameters)))) →
      Adds text s tag (withParameters name parameters)) ∧
    ∀ front back, '.' ∉ back →
      attribute? tag "cref" = .ok (some (.ofList
        (reference kind qualifier (withParameters name (front ++ '.' :: back))))) →
      Adds text s tag (back ++ [')']) ∧
        Text.words (back ++ [')']) ≠ Text.words name ∧
        Text.words (back ++ [')']) ≠ Text.words (withParameters name (front ++ '.' :: back)) := by
  have hadds (qualifier : List Char) {shown : List Char} (hshown : '.' ∉ shown)
      (hcref : attribute? tag "cref" = .ok (some (.ofList (reference kind qualifier shown)))) :
      Adds text s tag shown := by
    have hadds := adds_referenceName hs htag hcref
    rwa [String.toList_ofList, referenceName_reference hkind qualifier hshown] at hadds
  refine ⟨hadds qualifier hdot, fun parameters hparameters => ?_,
    fun front back hback hcref => ⟨?_, ?_, ?_⟩⟩
  · exact hadds qualifier (by simp [withParameters, hdot, hparameters])
  · rw [reference_withParameters] at hcref
    exact hadds _ (by simp [hback]) hcref
  · exact Text.words_ne_of_mem (by decide) (List.mem_append_right back List.mem_cons_self)
      hparenthesis
  · have hshown : '.' ∈ withParameters name (front ++ '.' :: back) := by simp [withParameters]
    exact (Text.words_ne_of_mem (by decide) hshown (by simp [hback])).symm

/-- The tag of a reference. -/
def seeTag (cref : List Char) (h : '"' ∉ cref) : Tag :=
  tagOf seeName [attributeOf crefKey cref h]

/-- A text that ends in the first summary of a member. -/
def begunSummary : String := "<member name=\"P:A.B\"><summary>see "

def begun : Standing := ⟨⟨[], some "P:A.B", some ["see".toList]⟩, [summaryTag, memberTag]⟩

/-- References to a property, to a method with a plain parameter and to one with a qualified one. -/
theorem begunSummary_references :
    standing? begunSummary = some begun ∧
      Adds begunSummary begun (seeTag "P:X.Name".toList (by decide)).chars "Name".toList ∧
      Adds begunSummary begun (seeTag "M:X.Get(int)".toList (by decide)).chars "Get(int)".toList ∧
      Adds begunSummary begun (seeTag "M:X.Get(N.Int)".toList (by decide)).chars "Int)".toList := by
  have hbegun : standing? begunSummary = some begun := by decide +kernel
  have hcref (cref : List Char) (h : '"' ∉ cref) (hplain : resolved cref = .ok cref) :
      attribute? (seeTag cref h).chars "cref" = .ok (some (.ofList cref)) := by
    have hgiven : (seeTag cref h).given "cref" =
        (resolved cref).map fun cs => some (.ofList cs) := rfl
    rw [attribute?_chars, hgiven, hplain]
    rfl
  have hreference (cref : List Char) (h : '"' ∉ cref) {name : List Char} (hdot : '.' ∉ name)
      (hparenthesis : ')' ∉ name) {kind : Char} (hkind : kind ≠ ':') :=
    parse_reference hbegun (seeTag cref h).pairedTag.toEmptyTag hkind hdot hparenthesis "X".toList
  refine ⟨hbegun, ?_, ?_, ?_⟩
  · exact (hreference _ _ (by decide) (by decide) (by decide)).1
      (hcref (reference 'P' "X".toList "Name".toList) _ rfl)
  · exact (hreference _ _ (by decide) (by decide) (by decide)).2.1 "int".toList (by decide)
      (hcref (reference 'M' "X".toList (withParameters "Get".toList "int".toList)) _ rfl)
  · exact ((hreference _ _ (by decide) (by decide) (by decide)).2.2 "N".toList "Int".toList
      (by decide)
      (hcref (reference 'M' "X".toList (withParameters "Get".toList "N.Int".toList)) _ rfl)).1

/-- Of the method only the end of the type of its parameter is shown. -/
theorem parse_cutReference :
    parse ("<member name=\"P:A.B\"><summary>see <see cref=\"M:X.C.Get(System.Int32)\"/>" ++
      "</summary></member>") = .ok ⟨[("P:A.B", "see Int32)")]⟩ := by
  rfl

end Documentation

end TypeDocs
