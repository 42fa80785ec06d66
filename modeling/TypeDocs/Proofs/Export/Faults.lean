import TypeDocs.Proofs.Documentation.Unfinished
import TypeDocs.Proofs.Export.Serializers
import TypeDocs.Proofs.Render.Tree

/-!
# What cannot stop an export

A sample that cannot be built and a value that cannot be read show as missing, and a file that
gives no documentation is as good as none: whatever was read of it before the fault is forgotten.
So an export succeeds for all types and all files, if the serializers write every tree of texts and
flags.
-/

namespace TypeDocs

namespace Documentation

open Xml

variable {fs : FileSystem} {path xml : String}

/-- Why a file gives no documentation. In the last two cases its text is read up to some piece of
it, with whatever members that are complete by then. -/
inductive Unusable (fs : FileSystem) (path : String) : Prop
  | missing (h : fs.has path = false)
  | directory (h : fs.hasDirectory path = true)
  | noText {content : ByteArray} (hread : fs.read path = .ok content)
      (htext : String.fromUTF8? content = none)
  | refused {xml : String} {before after : List Markup} {m : Markup} {stop : Option Malformed}
      {r : Reading} {e : Malformed} (hread : fs.readText path = .ok xml)
      (hpieces : pieces xml.toList = (before ++ m :: after, stop))
      (hbefore : Reading.start.steps before = .ok r) (hstep : r.step m = .error e)
  | brokenOff {xml : String} {ms : List Markup} {r : Reading} {e : Malformed}
      (hread : fs.readText path = .ok xml) (hpieces : pieces xml.toList = (ms, some e))
      (hsteps : Reading.start.steps ms = .ok r)

/-- What follows a piece that cannot be taken in makes no difference. -/
theorem steps_of_refused {r r' : Reading} {before : List Markup} {m : Markup} {e : Malformed}
    (hbefore : r.steps before = .ok r') (hstep : r'.step m = .error e) (after : List Markup) :
    r.steps (before ++ m :: after) = .error e := by
  rw [steps_append_of_eq hbefore, Reading.steps, hstep]
  rfl

/-- What cannot be read has a first piece that cannot be taken in. -/
theorem exists_of_steps_eq_error {r : Reading} {ms : List Markup} {e : Malformed}
    (h : r.steps ms = .error e) : ∃ before m after r', ms = before ++ m :: after ∧
      r.steps before = .ok r' ∧ r'.step m = .error e := by
  induction ms generalizing r with
  | nil => cases h
  | cons m ms ih =>
    cases hstep : r.step m with
    | error e' =>
      rw [Reading.steps, hstep] at h
      cases h
      exact ⟨[], m, ms, r, rfl, rfl, hstep⟩
    | ok next =>
      rw [steps_cons hstep] at h
      obtain ⟨before, m', after, r', rfl, hbefore, hm'⟩ := ih h
      exact ⟨m :: before, m', after, r', rfl, by rw [steps_cons hstep, hbefore], hm'⟩

theorem readText_of_find_error {e : FileFault} (h : fs.find path = .error e) :
    fs.readText path = .error e := by
  rw [FileSystem.readText, FileSystem.read, h]
  rfl

theorem readText_of_directory {p : Place} (h : fs.find path = .ok (p, .directory)) :
    fs.readText path = .error .isDirectory := by
  rw [FileSystem.readText, FileSystem.read, h]
  rfl

theorem read_of_file {p : Place} {content : ByteArray} (h : fs.find path = .ok (p, .file content)) :
    fs.read path = .ok content := by
  rw [FileSystem.read, h]
  rfl

theorem readText_of_read {content : ByteArray} (h : fs.read path = .ok content) :
    fs.readText path = match String.fromUTF8? content with
      | some s => .ok s
      | none => .error .badText := by
  rw [FileSystem.readText, h]
  change (match String.fromUTF8? content with
    | some s => pure s
    | none => throw FileFault.badText) = _
  cases String.fromUTF8? content <;> rfl

theorem load_of_readText_error {e : FileFault} (h : fs.readText path = .error e) :
    load fs path = .error (.file path e) := by
  rw [load, h]
  rfl

theorem load_of_readText (h : fs.readText path = .ok xml) :
    load fs path = (parse xml).mapError fun m => .documentation path (.xml m) := by
  rw [load, h]
  rfl

theorem parse_of_steps_error {ms : List Markup} {stop : Option Malformed} {e : Malformed}
    (hpieces : pieces xml.toList = (ms, stop)) (h : Reading.start.steps ms = .error e) :
    parse xml = .error e := by
  rw [parse, hpieces]
  dsimp only
  rw [h]

theorem parse_of_stop {ms : List Markup} {r : Reading} {e : Malformed}
    (hpieces : pieces xml.toList = (ms, some e)) (h : Reading.start.steps ms = .ok r) :
    parse xml = .error e := by
  rw [parse, hpieces]
  dsimp only
  rw [h]

theorem Unusable.exists_load_error (h : Unusable fs path) : ∃ e, load fs path = .error e := by
  cases h with
  | missing h =>
    cases hfind : fs.find path with
    | error e => exact ⟨_, load_of_readText_error (readText_of_find_error hfind)⟩
    | ok found =>
      rw [FileSystem.has, hfind] at h
      cases h
  | directory h =>
    unfold FileSystem.hasDirectory at h
    split at h
    · next p hfind => exact ⟨_, load_of_readText_error (readText_of_directory hfind)⟩
    · cases h
  | noText hread htext =>
    have hnone := readText_of_read hread
    rw [htext] at hnone
    exact ⟨_, load_of_readText_error hnone⟩
  | refused hread hpieces hbefore hstep =>
    rw [load_of_readText hread,
      parse_of_steps_error hpieces (steps_of_refused hbefore hstep _)]
    exact ⟨_, rfl⟩
  | brokenOff hread hpieces hsteps =>
    rw [load_of_readText hread, parse_of_stop hpieces hsteps]
    exact ⟨_, rfl⟩

theorem unusable_of_parse_error {e : Malformed} (hread : fs.readText path = .ok xml)
    (h : parse xml = .error e) : Unusable fs path := by
  cases hpieces : pieces xml.toList with
  | mk ms stop =>
    cases hsteps : Reading.start.steps ms with
    | error e' =>
      obtain ⟨before, m, after, r, rfl, hbefore, hstep⟩ := exists_of_steps_eq_error hsteps
      exact .refused hread hpieces hbefore hstep
    | ok r =>
      cases stop with
      | some e' => exact .brokenOff hread hpieces hsteps
      | none =>
        rw [parse, hpieces] at h
        dsimp only at h
        rw [hsteps] at h
        cases h

/-- A file either gives no documentation for one of the reasons or has a text that is read to its
end. -/
theorem unusable_or_exists (fs : FileSystem) (path : String) :
    Unusable fs path ∨ ∃ xml d, fs.readText path = .ok xml ∧ parse xml = .ok d := by
  cases hfind : fs.find path with
  | error e => exact .inl (.missing (by rw [FileSystem.has, hfind]; rfl))
  | ok found =>
    obtain ⟨p, node⟩ := found
    cases node with
    | directory => exact .inl (.directory (by rw [FileSystem.hasDirectory, hfind]))
    | file content =>
      have hread := read_of_file hfind
      have htext := readText_of_read hread
      cases hutf : String.fromUTF8? content with
      | none => exact .inl (.noText hread hutf)
      | some xml =>
        rw [hutf] at htext
        cases hparse : parse xml with
        | error e => exact .inl (unusable_of_parse_error htext hparse)
        | ok d => exact .inr ⟨xml, d, htext, hparse⟩

theorem fromOption_of_unusable (h : Unusable fs path) :
    fromOption fs (some path) = fromOption fs none := by
  obtain ⟨e, hload⟩ := h.exists_load_error
  rw [fromOption, loadOrEmpty, hload]
  rfl

end Documentation

/-- Whether a value can be read off the sample of a type. -/
def TypeDescription.Reads (t : TypeDescription) (p : Property) (v : SampleValue) : Prop :=
  ∃ i get, t.sample = some (.ok i) ∧ p.getter = some get ∧ get i = .ok v

theorem TypeDescription.defaultValue_of_not_reads {t : TypeDescription} {p : Property}
    (h : ∀ v, ¬ t.Reads p v) : t.defaultValue p = Text.missing := by
  unfold defaultValue
  split
  · next i get hsample hgetter =>
    cases hread : get i with
    | error e => rfl
    | ok v => exact absurd ⟨i, get, hsample, hgetter, hread⟩ (h v)
  · rfl

section Serializers

variable {ε : Type} {w : Serializers ε}

/-- Whether the serializers write all trees of texts and flags. -/
def Serializers.WritesTextual (w : Serializers ε) : Prop :=
  ∀ n (tree : Json), tree.Textual n →
    (∃ text, w.json tree = .ok text) ∧ ∃ text, w.yaml tree = .ok text

theorem Serializers.writesTextual_standard : standard.WritesTextual :=
  fun _ _ _ => ⟨⟨_, rfl⟩, ⟨_, rfl⟩⟩

/-- A document is written of the tree of a descriptor. -/
theorem Subject.exists_descriptor (s : Subject) (docs : Documentation) (t : TypeDescription) :
    ∃ d : Descriptor, (s.document docs t).tree = d.toTree := by
  cases s with
  | model => exact ⟨.model (t.describeModel docs), rfl⟩
  | controller => exact ⟨.controller (t.describeController docs), rfl⟩

namespace Serializers

theorem exists_render (hw : w.WritesTextual) (s : Subject) (docs : Documentation) (f : Format)
    (t : TypeDescription) : ∃ text, w.render f (s.document docs t) = .ok text := by
  obtain ⟨d, htree⟩ := s.exists_descriptor docs t
  cases f with
  | markdown => exact ⟨_, rfl⟩
  | csv => exact ⟨_, rfl⟩
  | json =>
    obtain ⟨n, htextual⟩ := d.exists_textual_treeIn Key.apart_pascal
    rw [render, htree, toJson, d.toTree_eq, d.recase_treeIn Key.pascal_plain Key.apart_pascal]
    exact (hw n _ htextual).1
  | yaml =>
    obtain ⟨n, htextual⟩ := d.exists_textual_treeIn Key.apart_camel
    rw [render, htree, toYaml, d.toTree_eq, d.recase_treeIn Key.camel_plain Key.apart_camel]
    exact (hw n _ htextual).2

theorem exists_exportAll (hw : w.WritesTextual) (s : Subject) (fs : FileSystem)
    (xml : Option String) (f : Format) (types : List TypeDescription) :
    ∃ text, w.exportAll s fs xml f types = .ok text := by
  rw [exportAll_eq_join]
  refine mapM_cases (P := fun r => ∃ text, r.map f.separator.intercalate = .ok text)
    (fun texts _ => ⟨_, rfl⟩) fun _ t _ e _ _ herror => ?_
  obtain ⟨text, hone⟩ := exists_render hw s (Documentation.fromOption fs xml) f t
  rw [exportOne, hone] at herror
  cases herror

end Serializers

/-- An export succeeds for all types, also those of which no sample is built or no value read, and
for every state of the file of the documentation. With a file that gives none it is what it is
without the file, and with any other file the text of the file is read to its end. -/
theorem exports_withstand_faults (hw : w.WritesTextual) (s : Subject) (fs : FileSystem) (f : Format)
    (types : List TypeDescription) :
    (∀ xml, ∃ text, w.exportAll s fs xml f types = .ok text) ∧
    (∀ path, Documentation.Unusable fs path →
      w.exportAll s fs (some path) f types = w.exportAll s fs none f types ∧
      s.exportAll fs (some path) f types = s.exportAll fs none f types) ∧
    (∀ path, ¬ Documentation.Unusable fs path → ∃ xml d, fs.readText path = .ok xml ∧
      Documentation.parse xml = .ok d ∧
      w.exportAll s fs (some path) f types = w.renderBatch f (types.map (s.document d))) ∧
    ∀ (docs : Documentation) (t : TypeDescription) (p : Property), (∀ v, ¬ t.Reads p v) →
      (p.describe t docs).defaultValue = Text.missing := by
  refine ⟨fun xml => Serializers.exists_exportAll hw s fs xml f types, fun path h => ?_,
    fun path h => ?_, fun docs t p h => TypeDescription.defaultValue_of_not_reads h⟩
  · have hnone := Documentation.fromOption_of_unusable h
    rw [Serializers.exportAll, Subject.exportAll, hnone]
    exact ⟨rfl, rfl⟩
  · obtain hunusable | ⟨xml, d, hread, hparse⟩ := Documentation.unusable_or_exists fs path
    · exact absurd hunusable h
    · have hdocs : Documentation.fromOption fs (some path) = d :=
        Documentation.loadOrEmpty_of_parse hread hparse
      refine ⟨xml, d, hread, hparse, ?_⟩
      rw [Serializers.exportAll, hdocs]

end Serializers

/-- A text with an end tag out of place behind a complete member. -/
def strayEnd : String := "<doc><member name=\"P:A.B\"><summary>x</summary></member></members>"

/-- A directory with this text and one that is in order. -/
def strayFiles : FileSystem :=
  ⟨[], [(["stray.xml"], .file strayEnd.toUTF8),
    (["docs.xml"], .file
      "<doc><member name=\"P:A.B\"><summary>x</summary></member></doc>".toUTF8)]⟩

/-- A type of which building a sample fails. -/
def unbuilt : TypeDescription where
  name := "A"
  properties := [{ name := "B", type := "T", getter := some (Getter.field "A" "B") }]
  sample := some (.error (.construction "A" "no"))

theorem exports_withstand_strayEnd :
    Serializers.standard.WritesTextual ∧
    (Documentation.Reading.start.steps (Xml.pieces strayEnd.toList).1 =
      .ok ⟨[("P:A.B", "x")], none, none⟩ ∧
    Documentation.Unusable strayFiles "stray.xml" ∧
    Serializers.standard.exportAll .model strayFiles (some "stray.xml") .csv [unbuilt] =
      Serializers.standard.exportAll .model strayFiles none .csv [unbuilt]) ∧
    (¬ Documentation.Unusable strayFiles "docs.xml" ∧
    ∃ xml d, strayFiles.readText "docs.xml" = .ok xml ∧ Documentation.parse xml = .ok d) ∧
    ∀ p ∈ unbuilt.properties, (∀ v, ¬ unbuilt.Reads p v) ∧
      (p.describe unbuilt .empty).defaultValue = Text.missing := by
  have hsteps : Documentation.Reading.start.steps (Xml.pieces strayEnd.toList).1 =
      .ok ⟨[("P:A.B", "x")], none, none⟩ := by decide +kernel
  have hread : strayFiles.readText "stray.xml" = .ok strayEnd := by decide +kernel
  have hpieces : Xml.pieces strayEnd.toList =
      ((Xml.pieces strayEnd.toList).1, some (.mismatchedEnd "doc" "members")) := by decide +kernel
  have hstray : Documentation.Unusable strayFiles "stray.xml" := .brokenOff hread hpieces hsteps
  have hgood : ¬ Documentation.Unusable strayFiles "docs.xml" := by
    intro h
    obtain ⟨e, hload⟩ := h.exists_load_error
    have hloads : (Documentation.load strayFiles "docs.xml").isOk = true := by decide +kernel
    rw [hload] at hloads
    cases hloads
  have hreads (p : Property) (v : SampleValue) : ¬ unbuilt.Reads p v := by
    rintro ⟨i, get, hsample, -, -⟩
    cases hsample
  obtain ⟨-, hbad, hused, hmissing⟩ := exports_withstand_faults
    Serializers.writesTextual_standard .model strayFiles .csv [unbuilt]
  obtain ⟨xml, d, htext, hparse, -⟩ := hused "docs.xml" hgood
  exact ⟨Serializers.writesTextual_standard, ⟨hsteps, hstray, (hbad _ hstray).1⟩,
    ⟨hgood, xml, d, htext, hparse⟩,
    fun p _ => ⟨hreads p, hmissing .empty unbuilt p (hreads p)⟩⟩

end TypeDocs
