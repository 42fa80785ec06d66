import TypeDocs.Proofs.Command.Pairing

/-!
# Setting up a log

To open the file of a log makes directories and that file, and changes no other. Whether a log can
be set up hangs on its level and its file, and a run goes on without one.
-/

namespace TypeDocs.Command

namespace Session

/-- A file is there, and everything else is as it was but for directories that were made. -/
structure Opened (files files' : FileSystem) (inside : String) : Prop extends
    FileSystem.Keeps files files' where
  place : files'.writePlace inside = .ok (files.placeOf inside)
  isSome_file? : (files'.file? (files.placeOf inside)).isSome = true
  file? : ∀ p, p ≠ files.placeOf inside → files'.file? p = files.file? p

variable {files files' : FileSystem} {path inside : String}

theorem opened_of_write {mid : FileSystem} (hmade : FileSystem.Made files mid)
    (h : mid.write inside true .empty = .ok files') : Opened files files' inside := by
  obtain ⟨p, hplace, h⟩ := exists_of_bind_eq_ok h
  cases h
  obtain rfl : p = files.placeOf inside :=
    (FileSystem.eq_placeOf_of_writePlace hplace).trans (hmade.placeOf inside)
  have hroot := FileSystem.ne_nil_of_writePlace hplace
  obtain ⟨-, -, -, -, -, hnode⟩ := FileSystem.writePlace_eq_ok_iff.mp hplace
  have hkeeps := @FileSystem.keeps_setNode mid (files.placeOf inside)
    (.file (mid.content (files.placeOf inside) ++ .empty)) hnode
  refine ⟨hmade.toKeeps.trans hkeeps, hkeeps.writePlace hplace ?_, ?_, fun p hp => ?_⟩
  · rw [FileSystem.node?_setNode hroot, if_pos rfl]
    simp
  · rw [FileSystem.file?_setNode_file hroot, if_pos rfl]
    rfl
  · rw [← hmade.file? p]
    exact (FileSystem.file?_setNode_file hroot _ p).trans (if_neg hp)

theorem openLog_ok (h : openLog files path = (files', .ok inside)) :
    Opened files files' inside := by
  unfold openLog at h
  dsimp only at h
  split at h
  · next hwrite =>
    cases h
    exact opened_of_write (.refl files) hwrite
  · split at h
    · cases h
    · next mid hmade =>
      split at h
      · next hwrite =>
        cases h
        exact opened_of_write (FileSystem.made_makeDirectories hmade) hwrite
      · cases h

theorem openLog_error {e : String} (h : openLog files path = (files', .error e)) :
    FileSystem.Made files files' := by
  unfold openLog at h
  dsimp only at h
  split at h
  · cases h
  · split at h
    · next hmade =>
      cases h
      exact FileSystem.made_makeDirectories hmade
    · next mid hmade =>
      split at h
      · cases h
      · cases h
        exact FileSystem.made_makeDirectories hmade

/-- The files when a log was set up. -/
def settled (setup : LogSetup) (files : FileSystem) : FileSystem :=
  match LogFilter.parse setup.level, setup.file with
  | .ok _, some path => (openLog files path).1
  | _, _ => files

theorem settled_cases (setup : LogSetup) (files : FileSystem) :
    settled setup files = files ∨
      ∃ log, setup.file = some log ∧ settled setup files = (openLog files log).1 := by
  unfold settled
  split
  · next log _ hfile => exact Or.inr ⟨log, hfile, rfl⟩
  · exact Or.inl rfl

theorem settled_of_isOk {a b : LogSetup} (files : FileSystem) (hfile : b.file = a.file)
    (hlevel : (LogFilter.parse a.level).isOk = (LogFilter.parse b.level).isOk) :
    settled b files = settled a files := by
  unfold settled
  rw [hfile]
  cases ha : LogFilter.parse a.level with
  | error e =>
    cases hb : LogFilter.parse b.level with
    | error e' => rfl
    | ok filter =>
      rw [ha, hb] at hlevel
      cases hlevel
  | ok filter =>
    cases hb : LogFilter.parse b.level with
    | error e' =>
      rw [ha, hb] at hlevel
      cases hlevel
    | ok filter => cases a.file <;> rfl

/-- Whether the file of a log is at a place, when it can be opened there. -/
def LogsInto (file : Option String) (files : FileSystem) (p : Place) : Prop :=
  ∃ path inside, file = some path ∧ (openLog files path).2 = .ok inside ∧
    files.placeOf inside = p

/-- Why a log is not set up, as it is told. -/
def faultLine : Option String → String
  | none => ""
  | some reason => "Failed to initialize logging: " ++ reason ++ "\n"

/-- Setting up a log prints nothing but why it is not set up, and its file is where it is said to
be. -/
theorem setUpLog_spec (s : Session) (setup : LogSetup) (hlog : s.log = none) :
    (s.setUpLog setup).files = settled setup s.files ∧
      (s.setUpLog setup).LogsApart (LogsInto setup.file s.files) ∧
      ∃ fault, (s.setUpLog setup).printed = s.printed ++ ⟨"", faultLine fault⟩ := by
  have hnone (t : Session) (ht : t.log = none) : t.LogsApart (LogsInto setup.file s.files) := by
    intro path hpath
    rw [logFile, ht] at hpath
    cases hpath
  have hsilent : s.printed = s.printed ++ ⟨"", faultLine none⟩ :=
    (Printed.append_none _).symm
  unfold setUpLog settled
  cases LogFilter.parse setup.level with
  | error e =>
    exact ⟨rfl, hnone _ hlog, some ("Invalid log level '" ++ setup.level ++ "': " ++ e.message),
      rfl⟩
  | ok filter =>
    cases hfile : setup.file with
    | none =>
      refine ⟨rfl, fun path hpath => ?_, none, hsilent⟩
      cases hpath
    | some path =>
      dsimp only
      cases hopen : openLog s.files path with
      | mk files' result =>
        cases result with
        | error e =>
          refine ⟨rfl, ?_, some ("Failed to open log file " ++ path ++ ": " ++ e), rfl⟩
          rw [← hfile]
          exact hnone _ hlog
        | ok inside =>
          refine ⟨rfl, fun path' hpath => ?_, none, hsilent⟩
          cases hpath
          have hopened := openLog_ok hopen
          exact ⟨_, ⟨path, inside, rfl, by rw [hopen], rfl⟩, hopened.place,
            hopened.isSome_file?⟩

/-- To set up a log moves nothing, and changes no file but that of the log. -/
theorem settled_spec (setup : LogSetup) (files : FileSystem) :
    (settled setup files).here = files.here ∧
      ∀ p, ¬ LogsInto setup.file files p → (settled setup files).file? p = files.file? p := by
  unfold settled
  split
  · next path _ hfile =>
    cases hopen : openLog files path with
    | mk files' result =>
      cases result with
      | error e =>
        have hmade := openLog_error hopen
        exact ⟨hmade.here, fun p _ => hmade.file? p⟩
      | ok inside =>
        have hopened := openLog_ok hopen
        refine ⟨hopened.here, fun p hp => hopened.file? p ?_⟩
        rintro rfl
        exact hp ⟨path, inside, hfile, by rw [hopen], rfl⟩
  · exact ⟨rfl, fun _ _ => rfl⟩

end Session

end TypeDocs.Command
