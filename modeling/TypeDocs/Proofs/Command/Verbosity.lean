import TypeDocs.Command.Reach
import TypeDocs.Proofs.Command.Arguments
import TypeDocs.Proofs.Command.Ending
import TypeDocs.Proofs.Command.LogFile
import TypeDocs.Proofs.Export.Faults

/-!
# What the flags of a run decide

How talkative a run is, whether it is quiet, and whether it may use colors decide what it logs and
which messages it shows, and nothing else, as long as the file of its log keeps out of the way of
its task. A quiet run leaves out messages that tell of progress, and none that warn.
-/

namespace TypeDocs.Command

open Message Run

/-! ### Documenting types -/

section Export

variable {e : Pairing} {f g : FileSystem} {path : String} {a : ExportArguments} {s : Settings}

theorem messages_documenting (quiet : Bool) (n : Nat) (subject : Subject) (f : Format) :
    (Console.info ⟨false, quiet⟩ ("Documenting " ++ toString n ++ " " ++ subject.name ++
      "(s) as " ++ f.name)).messages = told quiet [.documenting n subject f] := by
  rw [told_singleton]
  cases quiet with
  | true => rfl
  | false =>
    change "INFO: " ++ _ ++ "\n" = "INFO: Documenting " ++ _ ++ _ ++ _ ++ _ ++ _ ++ "\n"
    simp only [← String.append_assoc]
    rfl

theorem messages_saved (quiet : Bool) (path : String) :
    (Console.success ⟨false, quiet⟩ ("✓ Saved to " ++ path)).messages =
      told quiet [.saved path] := by
  rw [told_singleton]
  cases quiet <;> rfl

theorem messages_warning (quiet : Bool) (text : String) :
    (Console.warning ⟨false, quiet⟩ text).messages = told quiet [.warning text] := by
  rw [told_singleton]
  cases quiet <;> rfl

theorem load_of_alike (h : e.Alike f g) (hreads : e.Reads path) :
    Manifest.load g path = Manifest.load f path := by
  rw [Manifest.load, Manifest.load, h.readText hreads]

theorem fromOption_of_alike {xml : Option String} (h : e.Alike f g)
    (hreads : ∀ path ∈ xml, e.Reads path) :
    Documentation.fromOption g xml = Documentation.fromOption f xml := by
  cases xml with
  | none => rfl
  | some path =>
    rw [Documentation.fromOption, Documentation.fromOption, Documentation.loadOrEmpty,
      Documentation.loadOrEmpty, Documentation.load, Documentation.load,
      h.readText (hreads path rfl)]

theorem alike_loadManifest (hreads : e.Reads path) :
    Run.Alike e (loadManifest path) (loadManifest path) := by
  refine alike_files fun f g h => ?_
  rw [h.has hreads, load_of_alike h hreads]
  cases f.has path with
  | false => exact alike_throw_bind _
  | true =>
    cases Manifest.load f path with
    | error cause => exact alike_throw _
    | ok m => exact (alike_note _).bind fun _ => alike_pure m

theorem alike_produce {subject : Subject} {xml : Option String} {format : Format}
    {ts : List TypeDescription} (hreads : ∀ path ∈ xml, e.Reads path) :
    Run.Alike e (produce subject xml format ts) (produce subject xml format ts) := by
  refine Alike.inside _ _ (alike_files fun f g h => ?_)
  refine (alike_noteAll _ _).bind fun _ => ?_
  rw [Subject.exportAll, Subject.exportAll, fromOption_of_alike h hreads]
  exact alike_pure _

theorem alike_save {directory name document : String} {append : Bool}
    (hdirectory : e.Goes directory) (hpath : e.Goes (FileSystem.savePath directory (some name))) :
    Run.Alike e (save directory name append document) (save directory name append document) := by
  refine Alike.inside _ _ fun s t h => ?_
  rw [run_files_bind, run_files_bind]
  have hsaved : FileSystem.Alike.Both e.seen e.apart
      (s.files.save directory [document] (some name) append)
      (t.files.save directory [document] (some name) append) :=
    h.files.toAlike.save (hdirectory.keepsTo h.files) (hpath.keepsTo h.files)
  cases hs : s.files.save directory [document] (some name) append with
  | mk f' result =>
    cases ht : t.files.save directory [document] (some name) append with
    | mk g' result' =>
      rw [hs, ht] at hsaved
      obtain ⟨hfiles, hresult⟩ := hsaved
      obtain rfl : result' = result := hresult
      have hset := h.setFiles (Session.stays_of_save hs) (Session.stays_of_save ht) hfiles
      cases result' with
      | error fault => exact .silent hset rfl rfl
      | ok path =>
        have hnoted : Run.Alike e (Run.note Notes.saved >>= fun _ => pure path)
            (Run.note Notes.saved >>= fun _ => pure path) :=
          (alike_note _).bind fun _ => alike_pure path
        exact (hnoted _ _ hset).of_printed rfl rfl

/-- The paths whose content a task looks at. -/
def ExportArguments.reads (a : ExportArguments) (s : Settings) : List String :=
  a.manifest :: (a.xml s).toList

theorem alike_emit {document : String} (hgoes : ∀ path ∈ exportPaths a s, e.Goes path) :
    Run.Alike e (emit a s ⟨false, e.firstQuiet⟩ document)
      (emit a s ⟨false, e.secondQuiet⟩ document) := by
  unfold emit
  cases hdirectory : a.chosenDirectory s with
  | none =>
    refine (alike_note _).bind fun _ => ?_
    exact alike_print [] rfl rfl rfl
  | some directory =>
    have hmem (path : String) (hpath : path ∈ [directory,
        FileSystem.savePath directory (some (a.chosenName s))]) : e.Goes path := by
      refine hgoes path ?_
      rw [exportPaths, hdirectory]
      simpa using Or.inr (Or.inr (by simpa using hpath))
    refine (alike_save (hmem _ ?_) (hmem _ ?_)).bind fun path => ?_
    · exact List.mem_cons_self
    · exact List.mem_cons_of_mem _ List.mem_cons_self
    · refine alike_print [.saved path] ?_ (messages_saved _ _) (messages_saved _ _)
      rw [output_success, output_success]

theorem alike_exportTypes (subject : Subject) (hreads : ∀ path ∈ a.reads s, e.Reads path)
    (hgoes : ∀ path ∈ exportPaths a s, e.Goes path) :
    Run.Alike e (exportTypes subject a s ⟨false, e.firstQuiet⟩)
      (exportTypes subject a s ⟨false, e.secondQuiet⟩) := by
  have hmanifest : e.Reads a.manifest := hreads _ List.mem_cons_self
  have hxml : ∀ path ∈ a.xml s, e.Reads path := fun path hpath =>
    hreads path (List.mem_cons_of_mem _ (Option.mem_toList.mpr hpath))
  refine Alike.inside _ _ ((alike_loadManifest hmanifest).bind fun m => ?_)
  cases selectTypes subject.name (types subject m) a.types with
  | error failure => exact alike_throw_bind failure
  | ok selected =>
    refine (alike_pure selected).bind fun selected => ?_
    cases selected with
    | nil => exact alike_print [.warning _] rfl (messages_warning _ _) (messages_warning _ _)
    | cons t ts =>
      refine (alike_note _).bind fun _ => (alike_print [.documenting _ subject _] ?_
        (messages_documenting _ _ _ _) (messages_documenting _ _ _ _)).bind fun _ => ?_
      · rw [output_info, output_info]
      · exact (alike_produce hxml).bind fun document => alike_emit hgoes

/-- The paths whose content a task looks at. -/
def Task.reads (t : Task) (s : Settings) : List String :=
  match t with
  | .models a | .controllers a => a.reads s
  | .formats | .completions _ => []

theorem mem_taskPaths_of_mem_reads {t : Task} (hpath : path ∈ t.reads s) :
    path ∈ taskPaths t s := by
  cases t with
  | models a | controllers a =>
    change path ∈ a.manifest :: (a.xml s).toList ++ _
    exact List.mem_append_left _ hpath
  | formats | completions shell => cases hpath

theorem alike_task (h : Host) {t : Task} (hreads : ∀ path ∈ t.reads s, e.Reads path)
    (hgoes : ∀ path ∈ taskPaths t s, e.Goes path) :
    Run.Alike e (t.logged h s ⟨false, e.firstQuiet⟩) (t.logged h s ⟨false, e.secondQuiet⟩) := by
  refine Alike.inside _ _ ((alike_note _).bind fun _ => ?_)
  cases t with
  | models a => exact alike_exportTypes .model hreads hgoes
  | controllers a => exact alike_exportTypes .controller hreads hgoes
  | formats => exact alike_print [] rfl rfl rfl
  | completions shell => exact alike_print [] rfl rfl rfl

end Export

/-! ### Logs and messages -/

section Setup

theorem withStyle_file (l : LogSetup) (name : Option String) :
    (l.withStyle name).1.file = l.file := by
  unfold LogSetup.withStyle
  split
  · rfl
  · split <;> rfl

theorem withStyle_warnings (l l' : LogSetup) (name : Option String) :
    (l.withStyle name).2 = (l'.withStyle name).2 := by
  unfold LogSetup.withStyle
  split
  · rfl
  · split <;> rfl

/-- How talkative a run is does not decide where its log goes or which settings are warned of. -/
theorem logSetup_alike (h : Host) (i j : Invocation) (s : Settings) :
    (logSetup h j s).1.file = (logSetup h i s).1.file ∧
      (logSetup h j s).2 = (logSetup h i s).2 := by
  have hfile (k : Invocation) : (logSetup h k s).1.file =
      (h.environment.lookup "MODELDOC_LOG_FILE").or
        (s.logging.file.or (LogSetup.ofVerbosity k.verbosity).file) := by
    have hlast : (logSetup h k s).1.file =
        (LogSetup.ofAll k.verbosity s.logging h.environment).1.file := by
      unfold logSetup
      dsimp only
      split <;> rfl
    rw [hlast, LogSetup.ofAll]
    dsimp only
    rw [LogSetup.withVariables, withStyle_file, LogSetup.withSettings, withStyle_file]
  have hverbosity (n : Nat) : (LogSetup.ofVerbosity n).file = none := by
    unfold LogSetup.ofVerbosity
    split <;> rfl
  constructor
  · rw [hfile, hfile, hverbosity, hverbosity]
  · have hwarnings (n m : Nat) : (LogSetup.ofAll n s.logging h.environment).2 =
        (LogSetup.ofAll m s.logging h.environment).2 := by
      unfold LogSetup.ofAll LogSetup.withVariables LogSetup.withSettings
      dsimp only
      exact congrArg₂ _ (withStyle_warnings _ _ _) (withStyle_warnings _ _ _)
    exact hwarnings _ _

theorem printAll_lines (quiet : Bool) (lines : List String) :
    printAll (lines.map .messageLine) = ⟨"", told quiet (lines.map .line)⟩ := by
  have hfold (before : Printed) : (lines.map Printed.messageLine).foldl (· ++ ·) before =
      before ++ ⟨"", told quiet (lines.map .line)⟩ := by
    induction lines generalizing before with
    | nil => exact (Printed.append_none before).symm
    | cons line lines ih =>
      rw [List.map_cons, List.foldl_cons, ih, Printed.append_assoc, List.map_cons,
        ← List.singleton_append, told_append, told_singleton]
      cases quiet <;> rfl
  refine (hfold .none).trans ?_
  change Printed.mk ("" ++ "") ("" ++ _) = _
  rw [String.empty_append, String.empty_append]

theorem exists_reportFailure (f : Failure) :
    ∃ ms, ∀ quiet, reportFailure false f = ⟨"", told quiet ms⟩ := by
  cases hhelped : f.isHelped with
  | false =>
    refine ⟨[.line (f.report false)], fun quiet => ?_⟩
    rw [reportFailure, hhelped, told_singleton]
    exact (Printed.append_none _).trans (by cases quiet <;> rfl)
  | true =>
    refine ⟨[.line (f.report false)] ++ [.line "\nFor more information, try '--help'"],
      fun quiet => ?_⟩
    rw [reportFailure, hhelped, told_append, told_singleton, told_singleton]
    cases quiet <;> rfl

end Setup

/-! ### Whole runs -/

section Outcome

/-- Whether the file of a log keeps out of the way of a task, given how the log is set up in two
runs. It is no file that the task reads. Where only one of the two levels is a level, so that only
one run opens the file, to open it changes nothing on the way along the paths of the task. -/
structure LogKeepsOut (a b : LogSetup) (t : Task) (s : Settings) (files : FileSystem) : Prop where
  unread : ∀ path ∈ t.reads s, ¬ Session.LogsInto a.file files (files.placeOf path)
  unpassed : (LogFilter.parse a.level).isOk = (LogFilter.parse b.level).isOk ∨
    ∀ log, a.file = some log → ∀ path ∈ taskPaths t s,
      files.KeepsTo (fun p => (Session.openLog files log).1.kind? p = files.kind? p) path

/-- Whether the file of the log of an invocation is at a place. -/
def LogPlace (h : Host) (i : Invocation) (files : FileSystem) (p : Place) : Prop :=
  ∃ s skipped, Settings.load files h.homes i.settings = .ok (s, skipped) ∧
    Session.LogsInto (logSetup h i s).1.file files p

/-- Two outcomes with the same result. Their messages are the same too but for the reason why a
log is not set up and for what a quiet run leaves out. -/
structure Outcome.Alike (apart : Place → Prop) (quiet quiet' : Bool) (o o' : Outcome) : Prop where
  exitCode : o'.exitCode = o.exitCode
  output : o'.printed.output = o.printed.output
  file? : ∀ p, ¬ apart p → o'.files.file? p = o.files.file? p
  messages : ∃ before after fault fault',
    o.printed.messages = told quiet before ++ Session.faultLine fault ++ told quiet after ∧
      o'.printed.messages = told quiet' before ++ Session.faultLine fault' ++ told quiet' after

variable {h : Host} {i j : Invocation} {s : Settings} {files : FileSystem}

/-- What one run finds on the way along the paths of a task the other finds too. -/
theorem LogKeepsOut.keepsTo {a b : LogSetup} {t : Task} (hkeeps : LogKeepsOut a b t s files)
    (hfile : b.file = a.file) {path : String} (hpath : path ∈ taskPaths t s) :
    files.KeepsTo (fun p => (Session.settled b files).kind? p = (Session.settled a files).kind? p)
      path := by
  rcases hkeeps.unpassed with hlevel | hopen
  · rw [Session.settled_of_isOk files hfile hlevel]
    exact fun _ _ => rfl
  · intro names hnames
    have hkind {log : String} (hlog : a.file = some log) := hopen log hlog path hpath names hnames
    rcases Session.settled_cases a files with ha | ⟨log, hlog, ha⟩ <;>
      rcases Session.settled_cases b files with hb | ⟨log', hlog', hb⟩ <;> rw [ha, hb]
    · rw [hfile] at hlog'
      exact hkind hlog'
    · exact (hkind hlog).symm
    · rw [hfile, hlog] at hlog'
      cases hlog'
      rfl

/-- Two runs whose logs are set up beside each other. -/
def besideLogs (a b : LogSetup) (quiet quiet' : Bool) (files : FileSystem) : Pairing where
  files := files
  seen p := (Session.settled b files).kind? p = (Session.settled a files).kind? p
  apart := Session.LogsInto a.file files
  firstQuiet := quiet
  secondQuiet := quiet'

/-- The session of a run before its log is set up, with what it has told so far. -/
def atStart (h : Host) (files : FileSystem) (quiet : Bool) (ms : List Message) : Session :=
  ⟨files, ⟨"", told quiet ms⟩, none, [], h.time, ""⟩

theorem alike_setUpLog {a b : LogSetup} (hfile : b.file = a.file) (quiet quiet' : Bool)
    (ms : List Message) : Session.Alike (besideLogs a b quiet quiet' files)
      ((atStart h files quiet ms).setUpLog a) ((atStart h files quiet' ms).setUpLog b) := by
  obtain ⟨hfiles, hapart, -⟩ := (atStart h files quiet ms).setUpLog_spec a rfl
  obtain ⟨hfiles', hapart', -⟩ := (atStart h files quiet' ms).setUpLog_spec b rfl
  obtain ⟨hhere, hrest⟩ := Session.settled_spec a files
  obtain ⟨hhere', hrest'⟩ := Session.settled_spec b files
  rw [hfile] at hapart' hrest'
  refine ⟨⟨⟨?_, ?_, ?_⟩, ?_⟩, hapart, hapart'⟩
  · rw [hfiles, hfiles']
    exact hhere'.trans hhere.symm
  · rw [hfiles, hfiles']
    exact fun _ hp => hp
  · rw [hfiles, hfiles']
    exact fun p hp => (hrest' p hp).trans (hrest p hp).symm
  · rw [hfiles]
    exact hhere

/-- The outcome of a run without colors that has come to an end. -/
def Outcome.ofEnd : Except Failure Unit × Session → Outcome
  | (.ok (), t) => ⟨0, t.printed, t.logged, t.files⟩
  | (.error f, t) => ⟨f.exitCode, t.printed ++ reportFailure false f, t.logged, t.files⟩

theorem outcomeAlike_of_ended {e : Pairing} {u v : Session} {x y : Except Failure Unit × Session}
    {before : List Message} {fault fault' : Option String} (hends : Ended e u v x y)
    (hu : u.printed = ⟨"", told e.firstQuiet before ++ Session.faultLine fault⟩)
    (hv : v.printed = ⟨"", told e.secondQuiet before ++ Session.faultLine fault'⟩) :
    Outcome.Alike e.apart e.firstQuiet e.secondQuiet (.ofEnd x) (.ofEnd y) := by
  obtain ⟨r, t⟩ := x
  obtain ⟨r', t'⟩ := y
  obtain ⟨hresult, hsessions, p, ms, ht, ht'⟩ := hends
  dsimp only at hresult hsessions ht ht'
  subst hresult
  rw [hu] at ht
  rw [hv] at ht'
  have hfile? := hsessions.files.file?
  cases r' with
  | ok u =>
    refine ⟨rfl, ?_, hfile?, before, ms, fault, fault', ?_, ?_⟩
    · change t'.printed.output = t.printed.output
      rw [ht, ht', Printed.output_append, Printed.output_append]
    · exact congrArg Printed.messages ht
    · exact congrArg Printed.messages ht'
  | error f =>
    obtain ⟨report, hreport⟩ := exists_reportFailure f
    refine ⟨rfl, ?_, hfile?, before, ms ++ report, fault, fault', ?_, ?_⟩
    · change (t'.printed ++ reportFailure false f).output =
        (t.printed ++ reportFailure false f).output
      rw [ht, ht', Printed.output_append, Printed.output_append, Printed.output_append,
        Printed.output_append]
    · change (t.printed ++ reportFailure false f).messages = _
      rw [ht, hreport e.firstQuiet, Printed.messages_append, Printed.messages_append, told_append,
        String.append_assoc]
    · change (t'.printed ++ reportFailure false f).messages = _
      rw [ht', hreport e.secondQuiet, Printed.messages_append, Printed.messages_append,
        told_append, String.append_assoc]

theorem carryOut_eq (hterminal : h.terminal = false) (before : List Message) :
    carryOut h i s ⟨"", told i.quiet before⟩ files =
      .ofEnd ((i.task.logged h s ⟨false, i.quiet⟩).run
        (((atStart h files i.quiet (before ++ (logSetup h i s).2.map .line)).setUpLog
          (logSetup h i s).1).note Notes.ready)) := by
  have hstart : (⟨"", told i.quiet before⟩ : Printed) ++
      printAll ((logSetup h i s).2.map .messageLine) =
        ⟨"", told i.quiet (before ++ (logSetup h i s).2.map .line)⟩ := by
    rw [printAll_lines i.quiet, told_append]
    rfl
  unfold carryOut
  rw [hterminal, Bool.and_false, Bool.false_and]
  dsimp only
  rw [hstart]
  rfl

theorem carryOut_alike (hterminal : h.terminal = false) (htask : j.task = i.task)
    (hkeeps : LogKeepsOut (logSetup h i s).1 (logSetup h j s).1 i.task s files)
    (before : List Message) :
    Outcome.Alike (Session.LogsInto (logSetup h i s).1.file files) i.quiet j.quiet
      (carryOut h i s ⟨"", told i.quiet before⟩ files)
      (carryOut h j s ⟨"", told j.quiet before⟩ files) := by
  obtain ⟨hfile, hwarnings⟩ := logSetup_alike h i j s
  rw [carryOut_eq hterminal, carryOut_eq hterminal, hwarnings, htask]
  generalize (logSetup h i s).1 = a at hkeeps hfile ⊢
  generalize (logSetup h j s).1 = b at hkeeps hfile ⊢
  generalize before ++ (logSetup h i s).2.map .line = before
  obtain ⟨-, -, fault, hprinted⟩ := (atStart h files i.quiet before).setUpLog_spec a rfl
  obtain ⟨-, -, fault', hprinted'⟩ := (atStart h files j.quiet before).setUpLog_spec b rfl
  have hsetUp : Session.Alike (besideLogs a b i.quiet j.quiet files)
      ((atStart h files i.quiet before).setUpLog a) ((atStart h files j.quiet before).setUpLog b) :=
    alike_setUpLog hfile i.quiet j.quiet before
  have hgoes : ∀ path ∈ taskPaths i.task s, (besideLogs a b i.quiet j.quiet files).Goes path :=
    fun path hpath => hkeeps.keepsTo hfile hpath
  have hreads : ∀ path ∈ i.task.reads s, (besideLogs a b i.quiet j.quiet files).Reads path :=
    fun path hpath => ⟨hgoes path (mem_taskPaths_of_mem_reads hpath), hkeeps.unread path hpath⟩
  have hends := ((alike_note Notes.ready).bind fun _ => alike_task h hreads hgoes) _ _ hsetUp
  exact outcomeAlike_of_ended hends hprinted hprinted'

theorem exists_lines_passedOver (skipped : List (String × Failure)) :
    ∃ lines : List String, skipped.map passedOver = lines.map .messageLine := by
  refine ⟨skipped.map fun x => "Warning: Failed to load config from " ++ Text.quoted x.1 ++ ": " ++
    x.2.message, ?_⟩
  rw [List.map_map]
  rfl

theorem follow_of_load_error {f : Failure} (hterminal : h.terminal = false)
    (hload : Settings.load files h.homes i.settings = .error f) :
    follow h i files = ⟨f.exitCode, reportFailure false f, "", files⟩ := by
  unfold follow
  rw [hload, hterminal, Bool.and_false]

theorem follow_of_load {skipped : List (String × Failure)}
    (hload : Settings.load files h.homes i.settings = .ok (s, skipped)) :
    follow h i files = carryOut h i s (printAll (skipped.map passedOver)) files := by
  unfold follow
  rw [hload]

theorem follow_alike (hterminal : h.terminal = false) (hsettings : j.settings = i.settings)
    (htask : j.task = i.task)
    (hkeeps : ∀ s skipped, Settings.load files h.homes i.settings = .ok (s, skipped) →
      LogKeepsOut (logSetup h i s).1 (logSetup h j s).1 i.task s files) :
    Outcome.Alike (LogPlace h i files) i.quiet j.quiet (follow h i files) (follow h j files) := by
  cases hload : Settings.load files h.homes i.settings with
  | error f =>
    obtain ⟨report, hreport⟩ := exists_reportFailure f
    have htold (quiet : Bool) : (reportFailure false f).messages =
        told quiet report ++ Session.faultLine none ++ told quiet [] := by
      rw [hreport quiet, told_nil, String.append_empty]
      exact String.append_empty.symm
    have hload' : Settings.load files h.homes j.settings = .error f := by
      rw [hsettings]
      exact hload
    rw [follow_of_load_error hterminal hload, follow_of_load_error hterminal hload']
    exact ⟨rfl, rfl, fun _ _ => rfl, report, [], none, none, htold i.quiet, htold j.quiet⟩
  | ok loaded =>
    obtain ⟨s, skipped⟩ := loaded
    obtain ⟨lines, hlines⟩ := exists_lines_passedOver skipped
    have halike := carryOut_alike hterminal htask (hkeeps s skipped hload) (lines.map .line)
    have hload' : Settings.load files h.homes j.settings = .ok (s, skipped) := by
      rw [hsettings]
      exact hload
    rw [← printAll_lines i.quiet, ← printAll_lines j.quiet, ← hlines, ← follow_of_load hload,
      ← follow_of_load hload'] at halike
    obtain ⟨hcode, houtput, hfile?, hmessages⟩ := halike
    exact ⟨hcode, houtput, fun p hp => hfile? p fun hlog => hp ⟨s, skipped, hload, hlog⟩, hmessages⟩

/-- Runs that differ only in how talkative they are, in whether they are quiet, and in whether
they may use colors where there are none have the same outcome, as long as the file of the log
keeps out of the way. -/
theorem run_alike {arguments arguments' : List String}
    (hread : Command.read h.environment arguments = .ok i)
    (hread' : Command.read h.environment arguments' = .ok j) (hterminal : h.terminal = false)
    (hsettings : j.settings = i.settings) (htask : j.task = i.task)
    (hkeeps : ∀ s skipped, Settings.load files h.homes i.settings = .ok (s, skipped) →
      LogKeepsOut (logSetup h i s).1 (logSetup h j s).1 i.task s files) :
    Outcome.Alike (LogPlace h i files) i.quiet j.quiet (run h arguments files)
      (run h arguments' files) := by
  rw [run_eq_follow hread, run_eq_follow hread']
  exact follow_alike hterminal hsettings htask hkeeps

end Outcome

/-- A directory with a manifest, and settings that give the log a file. -/
def watched : FileSystem :=
  ⟨[], [(["types.yaml"], .file "models:\n- name: A\n".toUTF8),
    ([".modeldoc.yaml"], .file "logging:\n  file: run.log\n".toUTF8)]⟩

theorem load_watched : Settings.load watched plainHost.homes none =
    .ok ({ logging := { file := some "run.log" } }, []) := by
  decide +kernel

theorem logKeepsOut_watched (s : Settings) (skipped : List (String × Failure))
    (hload : Settings.load watched plainHost.homes none = .ok (s, skipped)) :
    LogKeepsOut
      (logSetup plainHost { Invocation.ofManifest "types.yaml" with quiet := true } s).1
      (logSetup plainHost
        { Invocation.ofManifest "types.yaml" with verbose := 1, noColor := true } s).1
      (.models (.ofManifest "types.yaml")) s watched := by
  have hopen : (Session.openLog watched "run.log").2 = .ok "./run.log" := by decide +kernel
  rw [load_watched] at hload
  cases hload
  refine ⟨?_, Or.inl (by decide +kernel)⟩
  rintro path hpath ⟨log, inside, hlog, hinside, hp⟩
  cases hlog
  rw [hopen] at hinside
  cases hinside
  obtain rfl : path = "types.yaml" := List.mem_singleton.mp hpath
  revert hp
  decide +kernel

theorem logPlace_watched :
    LogPlace plainHost { Invocation.ofManifest "types.yaml" with quiet := true } watched
      ["run.log"] :=
  ⟨_, [], load_watched, "run.log", "./run.log", rfl, by decide +kernel, by decide +kernel⟩

/-- A quiet run and a talkative one. -/
theorem watched_alike :
    ∃ i j, Command.read plainHost.environment ["-q", "model", "types.yaml"] = .ok i ∧
      Command.read plainHost.environment ["-v", "--no-color", "model", "types.yaml"] = .ok j ∧
      i.quiet = true ∧ j.quiet = false ∧ i.verbosity = 0 ∧ j.verbosity = 1 ∧
      j.settings = i.settings ∧ j.task = i.task ∧ LogPlace plainHost i watched ["run.log"] ∧
      (∀ s skipped, Settings.load watched plainHost.homes i.settings = .ok (s, skipped) →
        LogKeepsOut (logSetup plainHost i s).1 (logSetup plainHost j s).1 i.task s watched) ∧
      Outcome.Alike (LogPlace plainHost i watched) true false
        (run plainHost ["-q", "model", "types.yaml"] watched)
        (run plainHost ["-v", "--no-color", "model", "types.yaml"] watched) := by
  have hread := @read_quiet "types.yaml" (by simp) (by decide)
  have hread' := @read_verbose "types.yaml" (by simp) (by decide)
  have halike := run_alike (h := plainHost) hread hread' rfl rfl rfl logKeepsOut_watched
  exact ⟨_, _, hread, hread', rfl, rfl, rfl, rfl, rfl, rfl, logPlace_watched,
    logKeepsOut_watched, halike⟩

/-- A directory where the log goes into the file that is documented. -/
def loggedInto : FileSystem :=
  ⟨[], [(["types.log"], .file "models:\n- name: A\n".toUTF8),
    ([".modeldoc.yaml"], .file "logging:\n  file: types.log\n".toUTF8)]⟩

/-- A directory where a path to the manifest leads through the directory of the log, and where the
level of the log is none. -/
def passedThrough : FileSystem :=
  ⟨[], [(["types.yaml"], .file "models:\n- name: A\n".toUTF8),
    ([".modeldoc.yaml"], .file "logging:\n  level: a=b\n  file: logs/run.log\n".toUTF8)]⟩

/-- What is logged decides how a run ends when the log is in the way. -/
theorem log_in_the_way :
    (∃ i j, Command.read plainHost.environment ["model", "types.log"] = .ok i ∧
      Command.read plainHost.environment ["-v", "--no-color", "model", "types.log"] = .ok j ∧
      j.settings = i.settings ∧ j.task = i.task ∧
      (run plainHost ["model", "types.log"] loggedInto).exitCode = 0 ∧
      (run plainHost ["-v", "--no-color", "model", "types.log"] loggedInto).exitCode = 2) ∧
    ∃ i j, Command.read plainHost.environment ["model", "logs/../types.yaml"] = .ok i ∧
      Command.read plainHost.environment ["-q", "model", "logs/../types.yaml"] = .ok j ∧
      j.settings = i.settings ∧ j.task = i.task ∧
      (run plainHost ["model", "logs/../types.yaml"] passedThrough).exitCode = 3 ∧
      (run plainHost ["-q", "model", "logs/../types.yaml"] passedThrough).exitCode = 0 := by
  have hlog := @read_manifest "types.log" (by simp) (by decide)
  have hlog' := @read_verbose "types.log" (by simp) (by decide)
  have hpast := @read_manifest "logs/../types.yaml" (by simp) (by decide)
  have hpast' := @read_quiet "logs/../types.yaml" (by simp) (by decide)
  refine ⟨⟨_, _, hlog, hlog', rfl, rfl, ?_, ?_⟩, ⟨_, _, hpast, hpast', rfl, rfl, ?_, ?_⟩⟩
  · rw [run_eq_follow (h := plainHost) hlog]
    decide +kernel
  · rw [run_eq_follow (h := plainHost) hlog']
    decide +kernel
  · rw [run_eq_follow (h := plainHost) hpast]
    decide +kernel
  · rw [run_eq_follow (h := plainHost) hpast']
    decide +kernel

end TypeDocs.Command
