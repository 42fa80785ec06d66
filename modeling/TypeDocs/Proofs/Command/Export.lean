import TypeDocs.Proofs.Command.Parts
import TypeDocs.Proofs.Command.Selection

/-!
# How documenting types ends

Documenting the types of a manifest ends in one of few ways, which the files, the arguments and the
settings decide. No output is printed but a document, and the files change only by saving it.
-/

namespace TypeDocs.Command

/-- The document that a run makes of the types it selects. -/
def ExportArguments.document (a : ExportArguments) (subject : Subject) (s : Settings)
    (f : FileSystem) (selected : List TypeDescription) : String :=
  subject.exportAll f (a.xml s) (a.chosenFormat s) selected

/-- How documenting types ends that finds the files `f`, what it prints as output, and the files it
leaves. -/
inductive Exports (subject : Subject) (a : ExportArguments) (s : Settings) (f : FileSystem) :
    Except Failure Unit → String → FileSystem → Prop
  | noManifest : f.has a.manifest = false →
      Exports subject a s f (.error (.missing a.manifest)) "" f
  | badManifest {e : DocumentError} : f.has a.manifest = true →
      Manifest.load f a.manifest = .error e → Exports subject a s f (.error (.document e)) "" f
  | unknown {m : Manifest} {name : String} : Manifest.load f a.manifest = .ok m →
      FirstUnknown (types subject m) a.types name →
      Exports subject a s f (.error (unknownType subject.name name)) "" f
  | nothing {m : Manifest} : Manifest.load f a.manifest = .ok m →
      Selects (types subject m) a.types [] → Exports subject a s f (.ok ()) "" f
  | printed {m : Manifest} {selected : List TypeDescription} :
      Manifest.load f a.manifest = .ok m → Selects (types subject m) a.types selected →
      selected ≠ [] → a.chosenDirectory s = none →
      Exports subject a s f (.ok ()) (a.document subject s f selected ++ "\n") f
  | saved {m : Manifest} {selected : List TypeDescription} {directory path : String}
      {f' : FileSystem} :
      Manifest.load f a.manifest = .ok m → Selects (types subject m) a.types selected →
      selected ≠ [] → a.chosenDirectory s = some directory →
      f.save directory [a.document subject s f selected] (some (a.chosenName s)) (a.appends s) =
        (f', .ok path) → Exports subject a s f (.ok ()) "" f'
  | unsaved {m : Manifest} {selected : List TypeDescription} {directory path : String}
      {f' : FileSystem} {e : FileFault} :
      Manifest.load f a.manifest = .ok m → Selects (types subject m) a.types selected →
      selected ≠ [] → a.chosenDirectory s = some directory →
      f.save directory [a.document subject s f selected] (some (a.chosenName s)) (a.appends s) =
        (f', .error (path, e)) → Exports subject a s f (.error (.document (.file path e))) "" f'

section Export

open Run

variable {f f' : FileSystem} {path : String} {m : Manifest} {s : Settings} {a : ExportArguments}

/-- A manifest that is read is there. -/
theorem has_of_load (h : Manifest.load f path = .ok m) : f.has path = true := by
  obtain ⟨text, htext, -⟩ := exists_of_bind_eq_ok h
  unfold FileSystem.has
  cases hfind : f.find path with
  | ok found => rfl
  | error e =>
    have hread : f.readText path = .error e := by
      unfold FileSystem.readText FileSystem.read
      rw [hfind]
      rfl
    rw [hread] at htext
    cases htext

theorem ends_loadManifest_missing (h : f.has path = false) :
    (loadManifest path).Ends f (.error (.missing path)) "" f := by
  refine (ends_files f).then ?_
  rw [h]
  exact (ends_throw _ f).bind_error

theorem ends_loadManifest_error {e : DocumentError} (h : f.has path = true)
    (hload : Manifest.load f path = .error e) :
    (loadManifest path).Ends f (.error (.document e)) "" f := by
  refine (ends_files f).then ?_
  rw [h]
  dsimp only
  rw [Bool.not_true, if_neg Bool.false_ne_true, hload]
  exact ends_throw _ f

theorem ends_loadManifest (h : f.has path = true) (hload : Manifest.load f path = .ok m) :
    (loadManifest path).Ends f (.ok m) "" f := by
  refine (ends_files f).then ?_
  rw [h]
  dsimp only
  rw [Bool.not_true, if_neg Bool.false_ne_true, hload]
  exact (ends_note _ f).then (ends_pure m f)

theorem ends_produce (subject : Subject) (xml : Option String) (format : Format)
    (ts : List TypeDescription) (f : FileSystem) :
    (produce subject xml format ts).Ends f (.ok (subject.exportAll f xml format ts)) "" f := by
  refine Ends.inside _ _ ((ends_files f).then ?_)
  exact (ends_noteAll _ f).then (ends_pure _ f)

theorem ends_save {directory name document : String} {append : Bool}
    (h : f.save directory [document] (some name) append = (f', .ok path)) :
    (save directory name append document).Ends f (.ok path) "" f' := by
  refine Ends.inside _ _ ((ends_files f).then ?_)
  rw [h]
  refine (ends_setFiles f f').then ?_
  exact (ends_note _ f').then (ends_pure path f')

theorem ends_save_error {directory name document : String} {append : Bool} {e : FileFault}
    (h : f.save directory [document] (some name) append = (f', .error (path, e))) :
    (save directory name append document).Ends f (.error (.document (.file path e))) "" f' := by
  refine Ends.inside _ _ ((ends_files f).then ?_)
  rw [h]
  refine (ends_setFiles f f').then ?_
  exact ends_throw _ f'

theorem output_info (c : Console) (text : String) : (c.info text).output = "" := by
  unfold Console.info
  split
  · rfl
  · rfl

theorem output_success (c : Console) (text : String) : (c.success text).output = "" := by
  unfold Console.success
  split
  · rfl
  · rfl

/-- Messages are no output. -/
theorem ends_print_message {p : Printed} (h : p.output = "") (f : FileSystem) :
    (Run.print p).Ends f (.ok ()) "" f := by
  have hprint := ends_print p f
  rwa [h] at hprint

/-- What becomes of the document of the types that are selected. -/
theorem exists_exports_document (subject : Subject) (a : ExportArguments) (s : Settings)
    (c : Console) (f : FileSystem) {selected : List TypeDescription}
    (hload : Manifest.load f a.manifest = .ok m)
    (hselects : Selects (types subject m) a.types selected) (hsome : selected ≠ []) :
    ∃ r p f', Exports subject a s f r p f' ∧
      (emit a s c (a.document subject s f selected)).Ends f r p f' := by
  unfold emit
  cases hdirectory : a.chosenDirectory s with
  | none =>
    refine ⟨_, _, f, .printed hload hselects hsome hdirectory, ?_⟩
    exact (ends_note _ f).then (ends_print _ f)
  | some directory =>
    cases hsave : f.save directory [a.document subject s f selected] (some (a.chosenName s))
        (a.appends s) with
    | mk f' result =>
      cases result with
      | ok path =>
        refine ⟨_, _, f', .saved hload hselects hsome hdirectory hsave, ?_⟩
        exact (ends_save hsave).then (ends_print_message (output_success c _) f')
      | error fault =>
        refine ⟨_, _, f', .unsaved hload hselects hsome hdirectory hsave, ?_⟩
        exact (ends_save_error hsave).bind_error

theorem exists_exports (subject : Subject) (a : ExportArguments) (s : Settings) (c : Console)
    (f : FileSystem) :
    ∃ r p f', Exports subject a s f r p f' ∧ (exportTypes subject a s c).Ends f r p f' := by
  cases hhas : f.has a.manifest with
  | false =>
    refine ⟨_, _, f, .noManifest hhas, Ends.inside _ _ ?_⟩
    exact (ends_loadManifest_missing hhas).bind_error
  | true =>
    cases hload : Manifest.load f a.manifest with
    | error e =>
      refine ⟨_, _, f, .badManifest hhas hload, Ends.inside _ _ ?_⟩
      exact (ends_loadManifest_error hhas hload).bind_error
    | ok m =>
      have hmanifest := ends_loadManifest hhas hload
      rcases selectTypes_cases subject.name (types subject m) a.types with
        ⟨selected, hselected, hselects⟩ | ⟨name, hselected, hunknown⟩
      · cases selected with
        | nil =>
          refine ⟨_, _, f, .nothing hload hselects, Ends.inside _ _ (hmanifest.then ?_)⟩
          rw [hselected]
          refine (ends_pure _ f).then ?_
          exact ends_print_message rfl f
        | cons t ts =>
          obtain ⟨r, p, f', hexports, hemit⟩ :=
            exists_exports_document subject a s c f hload hselects (List.cons_ne_nil t ts)
          refine ⟨r, p, f', hexports, Ends.inside _ _ (hmanifest.then ?_)⟩
          rw [hselected]
          refine (ends_pure _ f).then ?_
          refine (ends_note _ f).then ?_
          refine (ends_print_message (output_info c _) f).then ?_
          exact (ends_produce _ _ _ _ f).then hemit
      · refine ⟨_, _, f, .unknown hload hunknown, Ends.inside _ _ (hmanifest.then ?_)⟩
        rw [hselected]
        exact (ends_throw _ f).bind_error

end Export

end TypeDocs.Command
