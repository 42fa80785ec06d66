import TypeDocs.Proofs.Command.Export

/-!
# How a run ends

A run whose log is not in a file ends as its settings cannot be loaded or as its task ends.
-/

namespace TypeDocs.Command

/-- What a task documents, if it documents anything. -/
def Task.export? : Task → Option (Subject × ExportArguments)
  | .models a => some (.model, a)
  | .controllers a => some (.controller, a)
  | .formats | .completions _ => none

/-- Whatever the settings of an invocation are, its log is in no file. -/
def NoLogFile (h : Host) (i : Invocation) (files : FileSystem) : Prop :=
  ∀ s skipped, Settings.load files h.homes i.settings = .ok (s, skipped) →
    (logSetup h i s).1.file = none

/-- An outcome that shows how a part of a run ends. -/
structure Outcome.Shows (o : Outcome) (r : Except Failure Unit) (p : String) (f : FileSystem) :
    Prop where
  output : o.printed.output = p
  files : o.files = f
  ok : r = .ok () → o.exitCode = 0
  error : ∀ e, r = .error e → o.exitCode = e.exitCode ∧
    ∃ before after, o.printed.messages = before ++ e.message ++ after

/-- A host without variables, homes and a terminal, which has nothing to say. -/
def plainHost : Host := ⟨[], ⟨none, none⟩, false, "0", fun _ _ => "", fun _ => ""⟩

variable {h : Host} {arguments : List String} {i : Invocation} {files f' : FileSystem}
  {s : Settings} {r : Except Failure Unit} {p : String}

theorem Outcome.Shows.eq_ok {o : Outcome} (h : o.Shows r p files) (hexit : o.exitCode = 0) :
    r = .ok () := by
  cases r with
  | ok u => rfl
  | error e =>
    have hcode := (h.error e rfl).1
    have hpos := e.exitCode_pos
    omega

theorem output_printAll {α : Type} (f : α → Printed) (hf : ∀ a, (f a).output = "")
    (xs : List α) : (printAll (xs.map f)).output = "" := by
  have hfold : ∀ before : Printed, before.output = "" →
      ((xs.map f).foldl (· ++ ·) before).output = "" := by
    induction xs with
    | nil => exact fun _ hbefore => hbefore
    | cons x xs ih =>
      intro before hbefore
      refine ih (before ++ f x) ?_
      rw [Printed.output_append, hbefore, hf, String.append_empty]
  exact hfold .none rfl

theorem output_reportFailure (colored : Bool) (e : Failure) :
    (reportFailure colored e).output = "" := by
  unfold reportFailure
  cases e.isHelped with
  | false => rfl
  | true => rfl

theorem exists_messages_reportFailure (colored : Bool) (e : Failure) :
    ∃ before after, (reportFailure colored e).messages = before ++ e.message ++ after := by
  unfold reportFailure Failure.report Printed.messageLine
  rw [Printed.messages_append]
  dsimp only
  rw [String.append_assoc]
  exact ⟨_, _, rfl⟩

/-- A log that is in no file is set up without a trace in the files or the output. -/
theorem setUpLog_of_file (t : Session) {setup : LogSetup} (hfile : setup.file = none)
    (hlog : t.log = none) :
    (t.setUpLog setup).files = t.files ∧ (t.setUpLog setup).logFile = none ∧
      (t.setUpLog setup).printed.output = t.printed.output := by
  unfold Session.setUpLog
  cases LogFilter.parse setup.level with
  | error e =>
    refine ⟨rfl, ?_, String.append_empty⟩
    change t.log.bind Log.path = none
    rw [hlog]
    rfl
  | ok filter =>
    dsimp only
    rw [hfile]
    exact ⟨rfl, rfl, rfl⟩

theorem ends_logged {t : Task} {c : Console} (htask : (t.run h s c).Ends files r p f') :
    (t.logged h s c).Ends files r p f' :=
  Run.Ends.inside _ _ ((Run.ends_note _ files).then htask)

/-- The console of an invocation. -/
def consoleOf (h : Host) (i : Invocation) (s : Settings) : Console :=
  ⟨!i.noColor && h.terminal && s.output.color, i.quiet⟩

theorem carryOut_shows {before : Printed} (hlog : (logSetup h i s).1.file = none)
    (hbefore : before.output = "") (htask : (i.task.run h s (consoleOf h i s)).Ends files r p f') :
    (carryOut h i s before files).Shows r p f' := by
  unfold carryOut
  cases hsetup : logSetup h i s with
  | mk setup warnings =>
    rw [hsetup] at hlog
    dsimp only
    have hwarnings : (before ++ printAll (warnings.map .messageLine)).output = "" := by
      rw [Printed.output_append, hbefore, String.empty_append]
      exact output_printAll _ (fun _ => rfl) warnings
    obtain ⟨hfiles, hfile, houtput⟩ := setUpLog_of_file
      ⟨files, before ++ printAll (warnings.map .messageLine), none, [], h.time, ""⟩ hlog rfl
    -- From here on the session is only known by its files, its log and its output.
    generalize Session.setUpLog _ setup = session at hfiles hfile houtput ⊢
    obtain ⟨hfiles', hlog', hprinted⟩ := session.note_of_logFile Notes.ready hfile
    obtain ⟨t, hrun, ht, -, hlast⟩ := ends_logged htask (session.note Notes.ready)
      (hfiles'.trans hfiles) (by rw [Session.logFile, hlog']; exact hfile)
    unfold consoleOf at hrun
    rw [hrun]
    rw [hprinted, houtput, hwarnings, String.empty_append] at hlast
    cases r with
    | ok u => exact ⟨hlast, ht, fun _ => rfl, fun e he => by cases he⟩
    | error e =>
      refine ⟨?_, ht, (fun he => by cases he), fun e' he => ?_⟩
      · dsimp only
        rw [Printed.output_append, output_reportFailure, hlast, String.append_empty]
      · cases he
        obtain ⟨start, after, hmessage⟩ := exists_messages_reportFailure
          (!i.noColor && h.terminal && s.output.color) e
        refine ⟨rfl, t.printed.messages ++ start, after, ?_⟩
        dsimp only
        rw [Printed.messages_append, hmessage, String.append_assoc, String.append_assoc,
          String.append_assoc]

theorem follow_shows_of_error {e : Failure}
    (hload : Settings.load files h.homes i.settings = .error e) :
    (follow h i files).Shows (.error e) "" files := by
  unfold follow
  rw [hload]
  refine ⟨output_reportFailure _ e, rfl, (fun he => by cases he), fun e' he => ?_⟩
  cases he
  exact ⟨rfl, exists_messages_reportFailure _ e⟩

theorem follow_shows {skipped : List (String × Failure)}
    (hload : Settings.load files h.homes i.settings = .ok (s, skipped))
    (hlog : NoLogFile h i files) (htask : (i.task.run h s (consoleOf h i s)).Ends files r p f') :
    (follow h i files).Shows r p f' := by
  unfold follow
  rw [hload]
  exact carryOut_shows (hlog s skipped hload) (output_printAll _ (fun _ => rfl) skipped) htask

theorem run_eq_follow (hread : read h.environment arguments = .ok i) :
    run h arguments files = follow h i files := by
  unfold run
  rw [hread]

/-- The ways in which a run ends. -/
theorem follow_cases (hlog : NoLogFile h i files) :
    (∃ e, Settings.load files h.homes i.settings = .error e ∧
      (follow h i files).Shows (.error e) "" files) ∨
    ∃ s skipped, Settings.load files h.homes i.settings = .ok (s, skipped) ∧
      ((i.task.export? = none ∧ ∃ p, (follow h i files).Shows (.ok ()) p files) ∨
        ∃ subject a r p f', i.task.export? = some (subject, a) ∧
          Exports subject a s files r p f' ∧ (follow h i files).Shows r p f') := by
  cases hload : Settings.load files h.homes i.settings with
  | error e => exact Or.inl ⟨e, rfl, follow_shows_of_error hload⟩
  | ok loaded =>
    obtain ⟨s, skipped⟩ := loaded
    refine Or.inr ⟨s, skipped, rfl, ?_⟩
    have hshows {r p f'} := @follow_shows h i files f' s r p skipped hload hlog
    cases htask : i.task with
    | models a =>
      obtain ⟨r, p, f', hexports, hends⟩ := exists_exports .model a s (consoleOf h i s) files
      rw [htask] at hshows
      exact Or.inr ⟨.model, a, r, p, f', rfl, hexports, hshows hends⟩
    | controllers a =>
      obtain ⟨r, p, f', hexports, hends⟩ := exists_exports .controller a s (consoleOf h i s) files
      rw [htask] at hshows
      exact Or.inr ⟨.controller, a, r, p, f', rfl, hexports, hshows hends⟩
    | formats =>
      rw [htask] at hshows
      exact Or.inl ⟨rfl, _, hshows (Run.ends_print _ files)⟩
    | completions shell =>
      rw [htask] at hshows
      exact Or.inl ⟨rfl, _, hshows (Run.ends_print _ files)⟩

end TypeDocs.Command
