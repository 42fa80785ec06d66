import TypeDocs.Proofs.Command.Arguments
import TypeDocs.Proofs.Command.Ending
import TypeDocs.Proofs.FileSystem.Saving

/-!
# The stages of a run

A run goes through stages, and the first that fails decides its exit code. A run that fails prints
no output and changes no file.
-/

namespace TypeDocs.Command

/-- What a run does that may fail. -/
inductive Stage where
  | findSettings
  | readSettings
  | findManifest
  | readManifest
  | selectTypes
  | saveDocument
  deriving DecidableEq, Repr

namespace Stage

/-- The place of a stage in the order of all. -/
def rank : Stage → Nat
  | .findSettings => 0
  | .readSettings => 1
  | .findManifest => 2
  | .readManifest => 3
  | .selectTypes => 4
  | .saveDocument => 5

def exitCode : Stage → Nat
  | .findSettings | .findManifest => 3
  | .readSettings => 5
  | .readManifest | .saveDocument => 2
  | .selectTypes => 6

/-- When a stage fails that is come to. -/
def Fails (h : Host) (i : Invocation) (files : FileSystem) : Stage → Prop
  | .findSettings => ∃ path, i.settings = some path ∧ files.has path = false
  | .readSettings => ∃ path e, i.settings = some path ∧ Settings.ofFile files path = .error e
  | .findManifest => ∃ subject a, i.task.export? = some (subject, a) ∧
      files.has a.manifest = false
  | .readManifest => ∃ subject a e, i.task.export? = some (subject, a) ∧
      Manifest.load files a.manifest = .error e
  | .selectTypes => ∃ subject a m name, i.task.export? = some (subject, a) ∧
      Manifest.load files a.manifest = .ok m ∧ name ∈ a.types ∧
      (types subject m).find? (isNamed name) = none
  | .saveDocument => ∃ subject a s skipped m selected directory fault,
      i.task.export? = some (subject, a) ∧
      Settings.load files h.homes i.settings = .ok (s, skipped) ∧
      Manifest.load files a.manifest = .ok m ∧ Selects (types subject m) a.types selected ∧
      selected ≠ [] ∧ a.chosenDirectory s = some directory ∧
      (files.save directory [a.document subject s files selected] (some (a.chosenName s))
        (a.appends s)).2 = .error fault

/-- A stage that fails when none before it does. -/
def FailsFirst (h : Host) (i : Invocation) (files : FileSystem) (stage : Stage) : Prop :=
  stage.Fails h i files ∧ ∀ earlier : Stage, earlier.rank < stage.rank → ¬ earlier.Fails h i files

variable {h : Host} {i : Invocation} {files f' : FileSystem} {stage other : Stage}
  {subject : Subject} {a : ExportArguments} {s : Settings} {m : Manifest} {p : String}

theorem FailsFirst.unique (hstage : stage.FailsFirst h i files)
    (hother : other.FailsFirst h i files) : stage = other := by
  by_cases hlt : stage.rank < other.rank
  · exact absurd hstage.1 (hother.2 stage hlt)
  · by_cases hgt : other.rank < stage.rank
    · exact absurd hother.1 (hstage.2 other hgt)
    · have hrank : stage.rank = other.rank := by omega
      cases stage <;> cases other <;> simp_all [rank]

theorem failsFirst_of_load_error {e : Failure}
    (hload : Settings.load files h.homes i.settings = .error e) :
    ∃ stage : Stage, stage.FailsFirst h i files ∧ e.exitCode = stage.exitCode ∧
      stage ≠ .selectTypes := by
  unfold Settings.load at hload
  cases hgiven : i.settings with
  | none =>
    rw [hgiven] at hload
    cases hload
  | some path =>
    rw [hgiven] at hload
    dsimp only at hload
    cases hhas : files.has path with
    | false =>
      rw [hhas] at hload
      cases hload
      refine ⟨.findSettings, ⟨⟨path, hgiven, hhas⟩, fun earlier hlt => ?_⟩, rfl, by simp⟩
      exact absurd hlt (Nat.not_lt_zero _)
    | true =>
      rw [hhas, Bool.not_true, if_neg Bool.false_ne_true] at hload
      cases hfile : Settings.ofFile files path with
      | ok s =>
        rw [hfile] at hload
        cases hload
      | error cause =>
        rw [hfile] at hload
        cases hload
        refine ⟨.readSettings, ⟨⟨path, cause, hgiven, hfile⟩, fun earlier hlt => ?_⟩, rfl, by simp⟩
        intro hfails
        cases earlier with
        | findSettings =>
          obtain ⟨path', hgiven', hhas'⟩ := hfails
          rw [hgiven] at hgiven'
          cases hgiven'
          rw [hhas] at hhas'
          cases hhas'
        | _ => simp [rank] at hlt

theorem not_fails_of_load {loaded : Settings × List (String × Failure)}
    (hsettings : Settings.load files h.homes i.settings = .ok loaded) (hlt : stage.rank < 2) :
    ¬ stage.Fails h i files := by
  unfold Settings.load at hsettings
  cases stage with
  | findSettings =>
    rintro ⟨path, hgiven, hhas⟩
    rw [hgiven] at hsettings
    dsimp only at hsettings
    rw [hhas] at hsettings
    cases hsettings
  | readSettings =>
    rintro ⟨path, e, hgiven, hfile⟩
    rw [hgiven] at hsettings
    dsimp only at hsettings
    rw [hfile] at hsettings
    split at hsettings
    · cases hsettings
    · cases hsettings
  | _ => simp [rank] at hlt

section Manifest

variable {skipped : List (String × Failure)} {selected : List TypeDescription}
  (hsettings : Settings.load files h.homes i.settings = .ok (s, skipped))
  (htask : i.task.export? = some (subject, a))

include hsettings htask

theorem not_fails_of_has (hhas : files.has a.manifest = true) (hlt : stage.rank < 3) :
    ¬ stage.Fails h i files := by
  cases stage with
  | findSettings | readSettings => exact not_fails_of_load hsettings (by simp [rank])
  | findManifest =>
    rintro ⟨subject', a', htask', hhas'⟩
    rw [htask] at htask'
    cases htask'
    rw [hhas] at hhas'
    cases hhas'
  | _ => simp [rank] at hlt

theorem not_fails_of_manifest (hload : Manifest.load files a.manifest = .ok m)
    (hlt : stage.rank < 4) : ¬ stage.Fails h i files := by
  cases stage with
  | findSettings | readSettings | findManifest =>
    exact not_fails_of_has hsettings htask (has_of_load hload) (by simp [rank])
  | readManifest =>
    rintro ⟨subject', a', e, htask', hload'⟩
    rw [htask] at htask'
    cases htask'
    rw [hload] at hload'
    cases hload'
  | _ => simp [rank] at hlt

theorem not_fails_of_selects (hload : Manifest.load files a.manifest = .ok m)
    (hselects : Selects (types subject m) a.types selected) (hlt : stage.rank < 5) :
    ¬ stage.Fails h i files := by
  cases stage with
  | findSettings | readSettings | findManifest | readManifest =>
    exact not_fails_of_manifest hsettings htask hload (by simp [rank])
  | selectTypes =>
    rintro ⟨subject', a', m', name, htask', hload', hname, hnone⟩
    rw [htask] at htask'
    cases htask'
    rw [hload] at hload'
    cases hload'
    exact hselects.find?_ne_none hname hnone
  | saveDocument => simp [rank] at hlt

theorem not_fails_of_saves (hload : Manifest.load files a.manifest = .ok m)
    (hselects : Selects (types subject m) a.types selected)
    (hsaves : selected ≠ [] → ∀ directory, a.chosenDirectory s = some directory →
      (files.save directory [a.document subject s files selected] (some (a.chosenName s))
        (a.appends s)).2.isOk = true) : ¬ stage.Fails h i files := by
  cases stage with
  | saveDocument =>
    rintro ⟨subject', a', s', skipped', m', selected', directory, fault, htask', hsettings',
      hload', hselects', hsome, hdirectory, hfails⟩
    rw [htask] at htask'
    cases htask'
    rw [hsettings] at hsettings'
    cases hsettings'
    rw [hload] at hload'
    cases hload'
    obtain rfl := Selects.unique hselects hselects'
    have hok := hsaves hsome directory hdirectory
    rw [hfails] at hok
    cases hok
  | _ => exact not_fails_of_selects hsettings htask hload hselects (by simp [rank])

/-- Where documenting succeeds no stage fails, and where it fails one fails first, without a trace
in the output or the files. -/
theorem failsFirst_of_exports {r : Except Failure Unit}
    (hexports : Exports subject a s files r p f') :
    (r = .ok () ∧ ∀ stage : Stage, ¬ stage.Fails h i files) ∨
    ∃ e, ∃ stage : Stage, r = .error e ∧ stage.FailsFirst h i files ∧
      e.exitCode = stage.exitCode ∧ p = "" ∧ (∀ q, f'.file? q = files.file? q) ∧
      (stage = .selectTypes → ∃ m name, Manifest.load files a.manifest = .ok m ∧
        FirstUnknown (types subject m) a.types name ∧ e = unknownType subject.name name) := by
  cases hexports with
  | noManifest hhas =>
    have hfails : findManifest.Fails h i files := ⟨subject, a, htask, hhas⟩
    exact Or.inr ⟨_, .findManifest, rfl, ⟨hfails, fun _ => not_fails_of_load hsettings⟩, rfl, rfl,
      fun _ => rfl, by simp⟩
  | badManifest hhas hload =>
    have hfails : readManifest.Fails h i files := ⟨subject, a, _, htask, hload⟩
    exact Or.inr ⟨_, .readManifest, rfl, ⟨hfails, fun _ => not_fails_of_has hsettings htask hhas⟩,
      rfl, rfl, fun _ => rfl, by simp⟩
  | unknown hload hunknown =>
    have hfails : selectTypes.Fails h i files :=
      ⟨subject, a, _, _, htask, hload, hunknown.mem, hunknown.find?_eq_none⟩
    exact Or.inr ⟨_, .selectTypes, rfl,
      ⟨hfails, fun _ => not_fails_of_manifest hsettings htask hload⟩, rfl, rfl, fun _ => rfl,
      fun _ => ⟨_, _, hload, hunknown, rfl⟩⟩
  | nothing hload hselects =>
    refine Or.inl ⟨rfl, fun stage => ?_⟩
    exact not_fails_of_saves hsettings htask hload hselects fun hsome => absurd rfl hsome
  | printed hload hselects hsome hdirectory =>
    refine Or.inl ⟨rfl, fun stage => ?_⟩
    refine not_fails_of_saves hsettings htask hload hselects fun _ directory hdirectory' => ?_
    rw [hdirectory] at hdirectory'
    cases hdirectory'
  | saved hload hselects hsome hdirectory hsave =>
    refine Or.inl ⟨rfl, fun stage => ?_⟩
    refine not_fails_of_saves hsettings htask hload hselects fun _ directory hdirectory' => ?_
    rw [hdirectory] at hdirectory'
    cases hdirectory'
    rw [hsave]
    rfl
  | unsaved hload hselects hsome hdirectory hsave =>
    have hfails : saveDocument.Fails h i files :=
      ⟨subject, a, s, skipped, _, _, _, _, htask, hsettings, hload, hselects, hsome, hdirectory,
        congrArg Prod.snd hsave⟩
    exact Or.inr ⟨_, .saveDocument, rfl,
      ⟨hfails, fun _ => not_fails_of_selects hsettings htask hload hselects⟩, rfl, rfl,
      (FileSystem.made_of_save_error hsave).file?, by simp⟩

end Manifest

/-- Where the task is not to document anything, only the settings can fail. -/
theorem not_fails_of_export?_eq_none {loaded : Settings × List (String × Failure)}
    (hsettings : Settings.load files h.homes i.settings = .ok loaded)
    (htask : i.task.export? = none) : ¬ stage.Fails h i files := by
  cases stage with
  | findSettings | readSettings => exact not_fails_of_load hsettings (by simp [rank])
  | findManifest | readManifest | selectTypes | saveDocument =>
    intro hfails
    simp [Fails, htask] at hfails

end Stage

variable {h : Host} {arguments : List String} {i : Invocation} {files : FileSystem}

/-- A run succeeds when no stage fails, and else ends as the first that does. -/
theorem follow_ends (hlog : NoLogFile h i files) :
    ((follow h i files).exitCode = 0 ∧ ∀ stage : Stage, ¬ stage.Fails h i files) ∨
    ∃ stage : Stage, stage.FailsFirst h i files ∧ (follow h i files).exitCode = stage.exitCode ∧
      (follow h i files).printed.output = "" ∧
      (∀ p, (follow h i files).files.file? p = files.file? p) ∧
      (stage = .selectTypes → ∃ subject a m name before after,
        i.task.export? = some (subject, a) ∧ Manifest.load files a.manifest = .ok m ∧
        FirstUnknown (types subject m) a.types name ∧
        (follow h i files).printed.messages = before ++ ("Invalid arguments: " ++
          ("unknown " ++ subject.name ++ " type '" ++ name ++ "'")) ++ after) := by
  rcases follow_cases hlog with ⟨e, hload, hshows⟩ | ⟨s, skipped, hload, hends⟩
  · obtain ⟨stage, hfirst, hcode, hother⟩ := Stage.failsFirst_of_load_error hload
    refine Or.inr ⟨stage, hfirst, (hshows.error e rfl).1.trans hcode, hshows.output, fun p => ?_,
      fun hselect => absurd hselect hother⟩
    rw [hshows.files]
  · rcases hends with ⟨htask, p, hshows⟩ | ⟨subject, a, r, p, f', htask, hexports, hshows⟩
    · exact Or.inl ⟨hshows.ok rfl, fun _ => Stage.not_fails_of_export?_eq_none hload htask⟩
    · rcases Stage.failsFirst_of_exports hload htask hexports with ⟨rfl, hnone⟩ |
        ⟨e, stage, rfl, hfirst, hcode, rfl, hfiles, hselect⟩
      · exact Or.inl ⟨hshows.ok rfl, hnone⟩
      · obtain ⟨hexit, before, after, hmessages⟩ := hshows.error e rfl
        refine Or.inr ⟨stage, hfirst, hexit.trans hcode, hshows.output, fun p => ?_,
          fun hstage => ?_⟩
        · rw [hshows.files, hfiles]
        · obtain ⟨m, name, hmanifest, hunknown, rfl⟩ := hselect hstage
          exact ⟨subject, a, m, name, before, after, htask, hmanifest, hunknown, hmessages⟩

/-- The first stage that fails decides the exit code. Settings that are not asked for never fail,
and a failure leaves no output and no changed file. -/
theorem run_exitCode (hread : read h.environment arguments = .ok i) (hlog : NoLogFile h i files) :
    (∀ stage : Stage, stage.FailsFirst h i files →
      (run h arguments files).exitCode = stage.exitCode) ∧
    ((∀ stage : Stage, ¬ stage.Fails h i files) → (run h arguments files).exitCode = 0) ∧
    (Stage.selectTypes.FailsFirst h i files → ∃ subject a m name before after,
      i.task.export? = some (subject, a) ∧ Manifest.load files a.manifest = .ok m ∧
      FirstUnknown (types subject m) a.types name ∧
      (run h arguments files).printed.messages = before ++ ("Invalid arguments: " ++
        ("unknown " ++ subject.name ++ " type '" ++ name ++ "'")) ++ after) ∧
    (i.settings = none → (∃ loaded, Settings.load files h.homes i.settings = .ok loaded) ∧
      ¬ Stage.findSettings.Fails h i files ∧ ¬ Stage.readSettings.Fails h i files) ∧
    ((run h arguments files).exitCode ≠ 0 → (run h arguments files).printed.output = "" ∧
      ∀ p, (run h arguments files).files.file? p = files.file? p) := by
  rw [run_eq_follow hread]
  refine ⟨fun stage hfirst => ?_, fun hnone => ?_, fun hfirst => ?_, fun hgiven => ?_,
    fun hexit => ?_⟩
  · rcases follow_ends hlog with ⟨-, hnone⟩ | ⟨first, hfirst', hcode, -⟩
    · exact absurd hfirst.1 (hnone stage)
    · rw [hcode, hfirst'.unique hfirst]
  · rcases follow_ends hlog with ⟨hcode, -⟩ | ⟨first, hfirst, -⟩
    · exact hcode
    · exact absurd hfirst.1 (hnone first)
  · rcases follow_ends hlog with ⟨-, hnone⟩ | ⟨first, hfirst', -, -, -, hselect⟩
    · exact absurd hfirst.1 (hnone .selectTypes)
    · exact hselect (hfirst'.unique hfirst)
  · have hload : ∃ loaded, Settings.load files h.homes i.settings = .ok loaded := by
      rw [hgiven]
      exact ⟨_, rfl⟩
    obtain ⟨loaded, hloaded⟩ := hload
    exact ⟨⟨loaded, hloaded⟩, Stage.not_fails_of_load hloaded (by simp [Stage.rank]),
      Stage.not_fails_of_load hloaded (by simp [Stage.rank])⟩
  · rcases follow_ends hlog with ⟨hcode, -⟩ | ⟨first, -, -, houtput, hfiles, -⟩
    · exact absurd hcode hexit
    · exact ⟨houtput, hfiles⟩

/-- A directory with settings that cannot be read and an earlier document. -/
def spoiled : FileSystem :=
  ⟨[], [([".modeldoc.yaml"], .file "output: here\n".toUTF8), (["model.md"], .file "x\n".toUTF8)]⟩

theorem load_spoiled :
    (Settings.load spoiled plainHost.homes none).toOption.map Prod.fst = some {} := by
  decide +kernel

theorem noLogFile_spoiled : NoLogFile plainHost (.ofManifest "types.yaml") spoiled := by
  intro s skipped hload
  have hsettings := load_spoiled
  rw [Invocation.ofManifest] at hload
  rw [hload] at hsettings
  change some s = some {} at hsettings
  cases hsettings
  rfl

theorem spoiled_exitCode :
    Command.read plainHost.environment ["model", "types.yaml"] =
      .ok (.ofManifest "types.yaml") ∧
    NoLogFile plainHost (.ofManifest "types.yaml") spoiled ∧
    Stage.findManifest.FailsFirst plainHost (.ofManifest "types.yaml") spoiled ∧
    (run plainHost ["model", "types.yaml"] spoiled).exitCode = 3 ∧
    (run plainHost ["model", "types.yaml"] spoiled).printed.output = "" ∧
    (run plainHost ["model", "types.yaml"] spoiled).files.file? ["model.md"] =
      some "x\n".toUTF8 := by
  have hread : Command.read plainHost.environment ["model", "types.yaml"] =
      .ok (.ofManifest "types.yaml") := read_manifest (by simp) (by decide)
  obtain ⟨hcode, -, -, hsettings, hfails⟩ := run_exitCode hread noLogFile_spoiled
  obtain ⟨-, hfind, hopen⟩ := hsettings rfl
  have hfirst : Stage.findManifest.FailsFirst plainHost (.ofManifest "types.yaml") spoiled := by
    refine ⟨⟨.model, .ofManifest "types.yaml", rfl, by decide⟩, fun earlier hlt => ?_⟩
    cases earlier with
    | findSettings => exact hfind
    | readSettings => exact hopen
    | _ => simp [Stage.rank] at hlt
  have hexit := hcode .findManifest hfirst
  obtain ⟨houtput, hfiles⟩ := hfails (by rw [hexit]; simp [Stage.exitCode])
  exact ⟨hread, noLogFile_spoiled, hfirst, hexit, houtput, (hfiles _).trans rfl⟩

end TypeDocs.Command
