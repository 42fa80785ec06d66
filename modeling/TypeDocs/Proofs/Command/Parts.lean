import TypeDocs.Command.Run

/-!
# What the parts of a run do

A part of a run whose log is not in a file is told by the files that it finds: how it ends, what
it prints as output and which files it leaves. The rules here put parts together.
-/

namespace TypeDocs.Command

namespace Session

variable {s : Session}

/-- The file of the log, if it has one. -/
def logFile (s : Session) : Option String := s.log.bind Log.path

/-- Without a file of its own the log changes no files, and it never is output. -/
theorem note_of_logFile (r : LogRecord) (h : s.logFile = none) :
    (s.note r).files = s.files ∧ (s.note r).log = s.log ∧ (s.note r).printed = s.printed := by
  unfold note
  split
  · exact ⟨rfl, rfl, rfl⟩
  · next l hlog =>
    have hpath : l.path = none := by rwa [logFile, hlog] at h
    split
    · exact ⟨rfl, rfl, rfl⟩
    · rw [hpath]
      exact ⟨rfl, rfl, rfl⟩

theorem foldl_note_of_logFile (rs : List LogRecord) (h : s.logFile = none) :
    (rs.foldl note s).files = s.files ∧ (rs.foldl note s).log = s.log ∧
      (rs.foldl note s).printed = s.printed := by
  induction rs generalizing s with
  | nil => exact ⟨rfl, rfl, rfl⟩
  | cons r rs ih =>
    obtain ⟨hfiles, hlog, hprinted⟩ := note_of_logFile r h
    have hrest := @ih (s.note r) (by rw [logFile, hlog]; exact h)
    rw [hfiles, hlog, hprinted] at hrest
    exact hrest

end Session

namespace Run

variable {α β : Type} {x : Run α} {k : α → Run β} {f f' f'' : FileSystem} {a : α} {e : Failure}
  {r : Except Failure β} {p q : String}

/-- How a part ends that finds the files `f`, what it prints as output, and the files it leaves. -/
def Ends (x : Run α) (f : FileSystem) (r : Except Failure α) (p : String) (f' : FileSystem) :
    Prop :=
  ∀ s : Session, s.files = f → s.logFile = none → ∃ t, x.run s = (r, t) ∧
    t.files = f' ∧ t.log = s.log ∧ t.printed.output = s.printed.output ++ p

theorem ends_pure (a : α) (f : FileSystem) : (pure a : Run α).Ends f (.ok a) "" f :=
  fun s hf _ => ⟨s, rfl, hf, rfl, String.append_empty.symm⟩

theorem ends_throw (e : Failure) (f : FileSystem) : (throw e : Run α).Ends f (.error e) "" f :=
  fun s hf _ => ⟨s, rfl, hf, rfl, String.append_empty.symm⟩

theorem ends_files (f : FileSystem) : Run.files.Ends f (.ok f) "" f :=
  fun s hf _ => ⟨s, by rw [← hf]; rfl, hf, rfl, String.append_empty.symm⟩

theorem ends_print (p : Printed) (f : FileSystem) :
    (Run.print p).Ends f (.ok ()) p.output f :=
  fun s hf _ => ⟨s.print p, rfl, hf, rfl, rfl⟩

theorem ends_note (r : LogRecord) (f : FileSystem) : (Run.note r).Ends f (.ok ()) "" f := by
  intro s hf hlog
  obtain ⟨hfiles, hkept, hprinted⟩ := s.note_of_logFile r hlog
  exact ⟨s.note r, rfl, hfiles.trans hf, hkept, by rw [hprinted, String.append_empty]⟩

theorem ends_setFiles (f f' : FileSystem) :
    (modify fun s : Session => { s with files := f' } : Run Unit).Ends f (.ok ()) "" f' :=
  fun s _ _ => ⟨{ s with files := f' }, rfl, rfl, rfl, String.append_empty.symm⟩

/-- A second part behind a first that succeeds. -/
theorem Ends.bind (hx : x.Ends f (.ok a) p f') (hk : (k a).Ends f' r q f'') :
    (x >>= k).Ends f r (p ++ q) f'' := by
  intro s hf hlog
  obtain ⟨t, hrun, hfiles, hkept, hprinted⟩ := hx s hf hlog
  obtain ⟨u, hrun', hfiles', hkept', hprinted'⟩ := hk t hfiles
    (by rw [Session.logFile, hkept]; exact hlog)
  refine ⟨u, ?_, hfiles', hkept'.trans hkept, ?_⟩
  · change ExceptT.bindCont k (x.run s).1 (x.run s).2 = _
    rw [hrun]
    exact hrun'
  · rw [hprinted', hprinted, String.append_assoc]

/-- A second part is left out behind a first that fails. -/
theorem Ends.bind_error (hx : x.Ends f (.error e) p f') : (x >>= k).Ends f (.error e) p f' := by
  intro s hf hlog
  obtain ⟨t, hrun, ht⟩ := hx s hf hlog
  refine ⟨t, ?_, ht⟩
  change ExceptT.bindCont k (x.run s).1 (x.run s).2 = _
  rw [hrun]
  rfl

/-- A second part behind one that prints nothing as output. -/
theorem Ends.then (hx : x.Ends f (.ok a) "" f') (hk : (k a).Ends f' r q f'') :
    (x >>= k).Ends f r q f'' := by
  have hboth := hx.bind hk
  rwa [String.empty_append] at hboth

theorem ends_noteAll (rs : List LogRecord) (f : FileSystem) :
    (Run.noteAll rs).Ends f (.ok ()) "" f := by
  induction rs with
  | nil => exact ends_pure () f
  | cons record rs ih =>
    change (Run.note record >>= fun _ => Run.noteAll rs).Ends f (.ok ()) "" f
    exact (ends_note record f).then ih

theorem Ends.inside {r : Except Failure α} (span : LogSpan) (atEnd : List LogRecord)
    (hx : x.Ends f r p f') : (Run.inside span atEnd x).Ends f r p f' := by
  intro s hf hlog
  obtain ⟨t, hrun, hfiles, hkept, hprinted⟩ := hx { s with spans := span :: s.spans } hf hlog
  have ht : t.logFile = none := by rw [Session.logFile, hkept]; exact hlog
  obtain ⟨hfiles', hkept', hprinted'⟩ := Session.foldl_note_of_logFile atEnd ht
  refine ⟨{ atEnd.foldl Session.note t with spans := s.spans }, ?_, hfiles'.trans hfiles,
    hkept'.trans hkept, ?_⟩
  · change ((x.run { s with spans := span :: s.spans }).1, ({ atEnd.foldl Session.note
      (x.run { s with spans := span :: s.spans }).2 with spans := s.spans } : Session)) = _
    rw [hrun]
  · rw [← hprinted, ← hprinted']

end Run

end TypeDocs.Command
