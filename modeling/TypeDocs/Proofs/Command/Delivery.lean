import TypeDocs.Proofs.Command.Arguments
import TypeDocs.Proofs.Command.Ending
import TypeDocs.Proofs.FileSystem.Saving

/-!
# Where documents go

A run that succeeds makes one document of the types that it selects. It prints the document and
changes no file, or it prints nothing and the document goes to one file.
-/

namespace TypeDocs.Command

/-- Where the document of a run is, and what it left of the files. -/
inductive Delivered (a : ExportArguments) (s : Settings) (files : FileSystem) (document : String)
    (o : Outcome) : Prop
  | printed : a.directory.or s.output.directory = none → o.printed.output = document ++ "\n" →
      o.files = files → Delivered a s files document o
  | saved {directory name path : String} : a.directory.or s.output.directory = some directory →
      name = a.fileName.getD s.output.fileName →
      path = Path.join directory
        (if Text.isBlankText name then "model_documentation.txt" else name) →
      o.printed.output = "" →
      o.files.read path = .ok ((if a.append || s.output.append then
        files.content (files.placeOf path) else .empty) ++ (document ++ "\n").toUTF8) →
      (∀ p, p ≠ files.placeOf path → o.files.file? p = files.file? p) →
      Delivered a s files document o

variable {h : Host} {i : Invocation} {arguments : List String} {files f' : FileSystem}
  {subject : Subject} {a : ExportArguments} {s : Settings} {m : Manifest} {p : String}
  {o : Outcome}

theorem delivered_of_exports (hexports : Exports subject a s files (.ok ()) p f')
    (hshows : o.Shows (.ok ()) p f') :
    ∃ m selected, Manifest.load files a.manifest = .ok m ∧
      Selects (types subject m) a.types selected ∧
      (selected = [] ∧ o.printed.output = "" ∧ o.files = files ∨ selected ≠ [] ∧
        Delivered a s files (subject.exportAll files (a.documentation.or s.documentation)
          ((a.format.or s.format).getD .markdown) selected) o) := by
  cases hexports with
  | nothing hload hselects =>
    exact ⟨_, [], hload, hselects, Or.inl ⟨rfl, hshows.output, hshows.files⟩⟩
  | printed hload hselects hsome hdirectory =>
    refine ⟨_, _, hload, hselects, Or.inr ⟨hsome, ?_⟩⟩
    exact .printed hdirectory hshows.output hshows.files
  | saved hload hselects hsome hdirectory hsave =>
    refine ⟨_, _, hload, hselects, Or.inr ⟨hsome, ?_⟩⟩
    obtain ⟨rfl, hread⟩ := FileSystem.read_save hsave
    obtain ⟨-, hfiles⟩ := FileSystem.file?_save hsave
    rw [← hshows.files, FileSystem.lines_singleton] at hread
    refine .saved hdirectory rfl (FileSystem.savePath_some _ _) hshows.output hread fun p hp => ?_
    rw [hshows.files, hfiles]
    exact if_neg fun heq => hp heq.symm

/-- Where there is nothing to document nothing is asked for in vain. -/
theorem exports_of_nothing {r : Except Failure Unit} (hexports : Exports subject a s files r p f')
    (hload : Manifest.load files a.manifest = .ok m) (hnone : types subject m = [])
    (hnames : a.types = []) : r = .ok () ∧ p = "" ∧ f' = files := by
  have hempty {m' : Manifest} {selected : List TypeDescription}
      (hload' : Manifest.load files a.manifest = .ok m')
      (hselects : Selects (types subject m') a.types selected) : selected = [] := by
    rw [hload] at hload'
    cases hload'
    rw [Selects, if_pos hnames] at hselects
    exact hselects.trans hnone
  cases hexports with
  | noManifest hhas =>
    rw [has_of_load hload] at hhas
    cases hhas
  | badManifest _ hload' =>
    rw [hload] at hload'
    cases hload'
  | unknown _ hunknown =>
    have hmem := hunknown.mem
    rw [hnames] at hmem
    cases hmem
  | nothing => exact ⟨rfl, rfl, rfl⟩
  | printed hload' hselects hsome => exact absurd (hempty hload' hselects) hsome
  | saved hload' hselects hsome => exact absurd (hempty hload' hselects) hsome
  | unsaved hload' hselects hsome => exact absurd (hempty hload' hselects) hsome

/-- A run that succeeds delivers one document of the types that are asked for. Where there are none
and none is asked for it succeeds and delivers nothing. -/
theorem delivered_of_run (hread : read h.environment arguments = .ok i)
    (htask : i.task.export? = some (subject, a)) (hlog : NoLogFile h i files) :
    ((run h arguments files).exitCode = 0 → ∃ s skipped m selected,
      Settings.load files h.homes i.settings = .ok (s, skipped) ∧
      Manifest.load files a.manifest = .ok m ∧ Selects (types subject m) a.types selected ∧
      (selected = [] ∧ (run h arguments files).printed.output = "" ∧
          (run h arguments files).files = files ∨
        selected ≠ [] ∧ Delivered a s files (subject.exportAll files
          (a.documentation.or s.documentation) ((a.format.or s.format).getD .markdown) selected)
          (run h arguments files))) ∧
    ∀ s skipped m, Settings.load files h.homes i.settings = .ok (s, skipped) →
      Manifest.load files a.manifest = .ok m → types subject m = [] → a.types = [] →
      (run h arguments files).exitCode = 0 ∧ (run h arguments files).printed.output = "" ∧
        (run h arguments files).files = files := by
  rw [run_eq_follow hread]
  rcases follow_cases hlog with ⟨e, hload, hshows⟩ | ⟨s, skipped, hload, hends⟩
  · refine ⟨fun hexit => ?_, fun s skipped m hload' => ?_⟩
    · cases hshows.eq_ok hexit
    · rw [hload] at hload'
      cases hload'
  · rcases hends with ⟨hnone, -⟩ | ⟨subject', a', r, p, f', hexport, hexports, hshows⟩
    · rw [htask] at hnone
      cases hnone
    · rw [htask] at hexport
      cases hexport
      refine ⟨fun hexit => ?_, fun s' skipped' m hload' hmanifest hnone hnames => ?_⟩
      · obtain rfl := hshows.eq_ok hexit
        obtain ⟨m, selected, hrest⟩ := delivered_of_exports hexports hshows
        exact ⟨s, skipped, m, selected, hload, hrest⟩
      · rw [hload] at hload'
        cases hload'
        obtain ⟨rfl, rfl, rfl⟩ := exports_of_nothing hexports hmanifest hnone hnames
        exact ⟨hshows.ok rfl, hshows.output, hshows.files⟩

/-- A directory with a manifest, settings and an earlier document. -/
def project : FileSystem :=
  ⟨[], [(["types.yaml"], .file "models:\n- name: A\n".toUTF8),
    ([".modeldoc.yaml"], .file "output:\n  directory: out\n  append: true\n".toUTF8),
    (["out"], .directory), (["out", "model_documentation.txt"], .file "x\n".toUTF8)]⟩

def projectSettings : Settings := { output := { directory := some "out", append := true } }

theorem load_project :
    Settings.load project plainHost.homes none = .ok (projectSettings, []) := by
  decide +kernel

theorem modelTypes_project :
    (Manifest.load project "types.yaml").toOption.all (fun m => !m.modelTypes.isEmpty) = true := by
  decide +kernel

theorem exitCode_project : (follow plainHost (.ofManifest "types.yaml") project).exitCode = 0 := by
  decide +kernel

theorem noLogFile_project : NoLogFile plainHost (.ofManifest "types.yaml") project := by
  intro s skipped hload
  rw [Invocation.ofManifest, load_project] at hload
  cases hload
  rfl

theorem project_delivered :
    Command.read plainHost.environment ["model", "types.yaml"] =
      .ok (.ofManifest "types.yaml") ∧
    NoLogFile plainHost (.ofManifest "types.yaml") project ∧
    (run plainHost ["model", "types.yaml"] project).exitCode = 0 ∧
    ∃ selected, selected ≠ [] ∧ Delivered (.ofManifest "types.yaml") projectSettings project
      (Subject.model.exportAll project none .markdown selected)
      (run plainHost ["model", "types.yaml"] project) := by
  have hread : Command.read plainHost.environment ["model", "types.yaml"] =
      .ok (.ofManifest "types.yaml") := read_manifest (by simp) (by decide)
  have hexit : (run plainHost ["model", "types.yaml"] project).exitCode = 0 := by
    rw [run_eq_follow hread]
    exact exitCode_project
  obtain ⟨s, skipped, m, selected, hload, hmanifest, hselects, hends⟩ :=
    (delivered_of_run hread rfl noLogFile_project).1 hexit
  rw [Invocation.ofManifest, load_project] at hload
  cases hload
  have hsome := modelTypes_project
  change Manifest.load project "types.yaml" = .ok m at hmanifest
  rw [hmanifest] at hsome
  change selected = m.modelTypes at hselects
  rcases hends with ⟨rfl, -, -⟩ | hends
  · change (!m.modelTypes.isEmpty) = true at hsome
    rw [← hselects] at hsome
    cases hsome
  · exact ⟨hread, noLogFile_project, hexit, selected, hends⟩

end TypeDocs.Command
