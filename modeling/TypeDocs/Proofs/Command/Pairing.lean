import TypeDocs.Proofs.Command.Parts
import TypeDocs.Proofs.FileSystem.Alike

/-!
# Runs side by side

Two runs of one task may differ in what they log and in whether they are quiet. They are compared
part by part: where both find files that look alike, they end with the same result, print the same
output, and leave files that look alike, whatever is written into the file of either log. Their
messages are the same too, but a quiet run leaves out those that only tell of progress.
-/

namespace TypeDocs.Command

/-- A message of a run. -/
inductive Message where
  /-- That types are documented, and how many. -/
  | documenting (count : Nat) (subject : Subject) (f : Format)
  | saved (path : String)
  | warning (text : String)
  | line (text : String)
  deriving DecidableEq, Repr

namespace Message

/-- Whether a message only tells of progress. -/
def isProgress : Message → Bool
  | .documenting .. | .saved _ => true
  | .warning _ | .line _ => false

/-- The line of a message where there are no colors. -/
def text : Message → String
  | .documenting count subject f =>
    "INFO: Documenting " ++ toString count ++ " " ++ subject.name ++ "(s) as " ++ f.name ++ "\n"
  | .saved path => "✓ Saved to " ++ path ++ "\n"
  | .warning s => "WARNING: " ++ s ++ "\n"
  | .line s => s ++ "\n"

/-- What is shown of a message. A quiet run leaves out what only tells of progress. -/
def shown (quiet : Bool) (m : Message) : String := if quiet && m.isProgress then "" else m.text

/-- The messages of a run, one after the other. -/
def told (quiet : Bool) (ms : List Message) : String := String.join (ms.map (shown quiet))

variable {quiet : Bool}

theorem told_nil : told quiet [] = "" := rfl

theorem told_append (ms more : List Message) :
    told quiet (ms ++ more) = told quiet ms ++ told quiet more := by
  rw [told, List.map_append, String.join_append]
  rfl

theorem told_singleton (m : Message) : told quiet [m] = m.shown quiet := by
  rw [told, List.map_singleton, String.join_cons, String.join_nil, String.append_empty]

end Message

open Message

/-- Two runs that are compared. -/
structure Pairing where
  /-- The files that both find. -/
  files : FileSystem
  /-- The places that look alike to both. -/
  seen : Place → Prop
  /-- Where the files of their logs are. -/
  apart : Place → Prop
  firstQuiet : Bool
  secondQuiet : Bool

namespace Pairing

/-- Whether both runs may go along a path. -/
def Goes (e : Pairing) (path : String) : Prop := e.files.KeepsTo e.seen path

/-- Whether both runs may read what is at a path. -/
def Reads (e : Pairing) (path : String) : Prop :=
  e.Goes path ∧ ¬ e.apart (e.files.placeOf path)

/-- Files that look alike to both runs. -/
structure Alike (e : Pairing) (fs fs' : FileSystem) : Prop extends
    FileSystem.Alike e.seen e.apart fs fs' where
  unmoved : fs.here = e.files.here

variable {e : Pairing} {fs fs' : FileSystem} {path : String}

theorem Goes.keepsTo (hgoes : e.Goes path) (h : e.Alike fs fs') : fs.KeepsTo e.seen path := by
  rw [FileSystem.KeepsTo, FileSystem.start, h.unmoved]
  exact hgoes

theorem Reads.not_apart (hreads : e.Reads path) (h : e.Alike fs fs') :
    ¬ e.apart (fs.placeOf path) := by
  rw [FileSystem.placeOf, FileSystem.start, h.unmoved]
  exact hreads.2

theorem Alike.has (h : e.Alike fs fs') (hreads : e.Reads path) : fs'.has path = fs.has path :=
  h.toAlike.has (hreads.1.keepsTo h) (hreads.not_apart h)

theorem Alike.readText (h : e.Alike fs fs') (hreads : e.Reads path) :
    fs'.readText path = fs.readText path :=
  h.toAlike.readText (hreads.1.keepsTo h) (hreads.not_apart h)

end Pairing

namespace Session

/-- Nothing is taken away from files: directories stay, and files stay files. -/
structure Stays (fs fs' : FileSystem) : Prop extends FileSystem.Keeps fs fs' where
  isSome_file? : ∀ p, (fs.file? p).isSome = true → (fs'.file? p).isSome = true

theorem Stays.node?_ne {fs fs' : FileSystem} (h : Stays fs fs') {p : Place}
    (hp : (fs.file? p).isSome = true) : fs'.node? p ≠ some .directory := by
  intro hnode
  have hfile := h.isSome_file? p hp
  rw [FileSystem.file?, hnode] at hfile
  cases hfile

/-- Whether the file of the log, if it has one, is there and set apart. -/
def LogsApart (apart : Place → Prop) (s : Session) : Prop :=
  ∀ path, s.logFile = some path → ∃ p, apart p ∧ s.files.writePlace path = .ok p ∧
    (s.files.file? p).isSome = true

variable {apart : Place → Prop} {s : Session}

theorem LogsApart.of_stays (h : s.LogsApart apart) {fs : FileSystem} (hfs : Stays s.files fs) :
    ({ s with files := fs } : Session).LogsApart apart := by
  intro path hpath
  obtain ⟨p, hp, hplace, hfile⟩ := h path hpath
  exact ⟨p, hp, hfs.toKeeps.writePlace hplace (hfs.node?_ne hfile), hfs.isSome_file? p hfile⟩

/-- A record changes nothing but a file that is set apart. -/
theorem note_of_logsApart (h : s.LogsApart apart) (r : LogRecord) (seen : Place → Prop) :
    FileSystem.Alike seen apart s.files (s.note r).files ∧ (s.note r).LogsApart apart ∧
      (s.note r).printed = s.printed := by
  have hsame : FileSystem.Alike seen apart s.files s.files ∧ s.LogsApart apart ∧
      s.printed = s.printed := ⟨.refl _, h, rfl⟩
  unfold note
  split
  · exact hsame
  · next l hlog =>
    split
    · exact hsame
    · split
      · exact ⟨.refl _, h, rfl⟩
      · next path hpath =>
        obtain ⟨p, hp, hplace, hfile⟩ := h path (by rw [logFile, hlog]; exact hpath)
        have hroot := FileSystem.ne_nil_of_writePlace hplace
        dsimp only
        rw [FileSystem.write_of_writePlace hplace]
        dsimp only
        refine ⟨.of_setNode _ hroot hp hfile _, h.of_stays ⟨?_, fun q hq => ?_⟩, rfl⟩
        · obtain ⟨-, -, -, -, -, hnode⟩ := FileSystem.writePlace_eq_ok_iff.mp hplace
          exact FileSystem.keeps_setNode hnode
        · rw [FileSystem.file?_setNode_file hroot]
          split
          · rfl
          · exact hq

theorem foldl_note_of_logsApart (h : s.LogsApart apart) (rs : List LogRecord)
    (seen : Place → Prop) :
    FileSystem.Alike seen apart s.files (rs.foldl note s).files ∧
      (rs.foldl note s).LogsApart apart ∧ (rs.foldl note s).printed = s.printed := by
  induction rs generalizing s with
  | nil => exact ⟨.refl _, h, rfl⟩
  | cons r rs ih =>
    obtain ⟨hfiles, hlog, hprinted⟩ := note_of_logsApart h r seen
    obtain ⟨hfiles', hlog', hprinted'⟩ := ih hlog
    exact ⟨hfiles.trans hfiles', hlog', hprinted'.trans hprinted⟩

theorem stays_of_save {fs fs' : FileSystem} {directory : String} {documents : List String}
    {name : Option String} {append : Bool} {result : Except (String × FileFault) String}
    (h : fs.save directory documents name append = (fs', result)) : Stays fs fs' := by
  cases result with
  | error fault =>
    have hmade := FileSystem.made_of_save_error h
    exact ⟨hmade.toKeeps, fun p hp => by rwa [hmade.file?]⟩
  | ok path =>
    obtain ⟨hkeeps, hfiles⟩ := FileSystem.file?_save h
    refine ⟨hkeeps, fun p hp => ?_⟩
    rw [hfiles]
    split
    · rfl
    · exact hp

/-- Two sessions that have found and done alike what both see. -/
structure Alike (e : Pairing) (s t : Session) : Prop where
  files : e.Alike s.files t.files
  first : s.LogsApart e.apart
  second : t.LogsApart e.apart

variable {e : Pairing} {t : Session}

theorem Alike.foldl_note (h : Alike e s t) (rs rs' : List LogRecord) :
    Alike e (rs.foldl note s) (rs'.foldl note t) := by
  obtain ⟨hfiles, hlog, -⟩ := foldl_note_of_logsApart h.first rs e.seen
  obtain ⟨hfiles', hlog', -⟩ := foldl_note_of_logsApart h.second rs' e.seen
  exact ⟨⟨(hfiles.symm.trans h.files.toAlike).trans hfiles', hfiles.here.trans h.files.unmoved⟩,
    hlog, hlog'⟩

/-- Sessions whose files are replaced alike, with nothing taken away. -/
theorem Alike.setFiles (h : Alike e s t) {fs fs' : FileSystem} (hs : Stays s.files fs)
    (ht : Stays t.files fs') (hfiles : FileSystem.Alike e.seen e.apart fs fs') :
    Alike e { s with files := fs } { t with files := fs' } :=
  ⟨⟨hfiles, hs.here.trans h.files.unmoved⟩, h.first.of_stays hs, h.second.of_stays ht⟩

end Session

namespace Run

variable {α β : Type}

/-- Two ends of runs that began with sessions `s` and `t`: with the same result and output, and
with the same messages but for those that a quiet run leaves out. -/
structure Ended (e : Pairing) (s t : Session) (x y : Except Failure α × Session) : Prop where
  result : y.1 = x.1
  sessions : Session.Alike e x.2 y.2
  printed : ∃ p ms, x.2.printed = s.printed ++ ⟨p, told e.firstQuiet ms⟩ ∧
    y.2.printed = t.printed ++ ⟨p, told e.secondQuiet ms⟩

/-- Two parts of runs that end alike when they begin alike. -/
def Alike (e : Pairing) (x y : Run α) : Prop :=
  ∀ s t, Session.Alike e s t → Ended e s t (x.run s) (y.run t)

variable {e : Pairing} {s t u v : Session} {x y : Run α} {k l : α → Run β}

/-- Ends of later parts are ends of the whole. -/
theorem Ended.after {z w : Except Failure α × Session} {p : String} {ms : List Message}
    (h : Ended e u v z w) (hs : u.printed = s.printed ++ ⟨p, told e.firstQuiet ms⟩)
    (ht : v.printed = t.printed ++ ⟨p, told e.secondQuiet ms⟩) : Ended e s t z w := by
  obtain ⟨q, more, hz, hw⟩ := h.printed
  refine ⟨h.result, h.sessions, p ++ q, ms ++ more, ?_, ?_⟩
  · rw [hz, hs, Printed.append_assoc, told_append]
    rfl
  · rw [hw, ht, Printed.append_assoc, told_append]
    rfl

theorem Ended.of_printed {z w : Except Failure α × Session} (h : Ended e u v z w)
    (hs : u.printed = s.printed) (ht : v.printed = t.printed) : Ended e s t z w := by
  obtain ⟨p, ms, hz, hw⟩ := h.printed
  exact ⟨h.result, h.sessions, p, ms, by rw [hz, hs], by rw [hw, ht]⟩

/-- Ends without anything printed. -/
theorem Ended.silent {r : Except Failure α} (h : Session.Alike e u v)
    (hs : u.printed = s.printed) (ht : v.printed = t.printed) : Ended e s t (r, u) (r, v) :=
  ⟨rfl, h, "", [], by rw [hs]; exact (Printed.append_none _).symm,
    by rw [ht]; exact (Printed.append_none _).symm⟩

theorem alike_pure (a : α) : Alike e (pure a) (pure a) :=
  fun _ _ h => .silent h rfl rfl

theorem alike_throw (f : Failure) : Alike e (throw f : Run α) (throw f) :=
  fun _ _ h => .silent h rfl rfl

/-- Behind a failure nothing is done. -/
theorem alike_throw_bind (f : Failure) : Alike e ((throw f : Run α) >>= k) (throw f >>= l) :=
  fun _ _ h => .silent h rfl rfl

theorem Alike.bind (hx : Alike e x y) (hk : ∀ a, Alike e (k a) (l a)) :
    Alike e (x >>= k) (y >>= l) := by
  intro s t h
  change Ended e s t (ExceptT.bindCont k (x.run s).1 (x.run s).2)
    (ExceptT.bindCont l (y.run t).1 (y.run t).2)
  have hends := hx s t h
  generalize x.run s = z, y.run t = w at hends
  obtain ⟨r, u⟩ := z
  obtain ⟨r', v⟩ := w
  obtain rfl : r' = r := hends.result
  obtain ⟨p, ms, hu, hv⟩ := hends.printed
  cases r' with
  | error f => exact ⟨rfl, hends.sessions, p, ms, hu, hv⟩
  | ok a => exact (hk a u v hends.sessions).after hu hv

theorem alike_print {p p' : Printed} (ms : List Message) (houtput : p'.output = p.output)
    (h : p.messages = told e.firstQuiet ms) (h' : p'.messages = told e.secondQuiet ms) :
    Alike e (Run.print p) (Run.print p') := by
  intro s t hst
  refine ⟨rfl, ⟨hst.files, hst.first, hst.second⟩, p.output, ms, ?_, ?_⟩
  · rw [← h]
    rfl
  · rw [← h', ← houtput]
    rfl

theorem run_noteAll (rs : List LogRecord) (s : Session) :
    (Run.noteAll rs).run s = (.ok (), rs.foldl Session.note s) := by
  induction rs generalizing s with
  | nil => rfl
  | cons r rs ih => exact ih (s.note r)

theorem alike_noteAll (rs rs' : List LogRecord) : Alike e (Run.noteAll rs) (Run.noteAll rs') := by
  intro s t h
  rw [run_noteAll, run_noteAll]
  exact .silent (h.foldl_note rs rs') (Session.foldl_note_of_logsApart h.first rs e.seen).2.2
    (Session.foldl_note_of_logsApart h.second rs' e.seen).2.2

theorem alike_note (r : LogRecord) : Alike e (Run.note r) (Run.note r) :=
  alike_noteAll [r] [r]

theorem run_files_bind (k : FileSystem → Run β) (s : Session) :
    (Run.files >>= k).run s = (k s.files).run s := rfl

/-- Parts that go on from files that look alike. -/
theorem alike_files {k l : FileSystem → Run β}
    (h : ∀ f g, e.Alike f g → Alike e (k f) (l g)) :
    Alike e (Run.files >>= k) (Run.files >>= l) :=
  fun s t hst => h s.files t.files hst.files s t hst

theorem Alike.inside (span : LogSpan) (atEnd : List LogRecord) (h : Alike e x y) :
    Alike e (Run.inside span atEnd x) (Run.inside span atEnd y) := by
  intro s t hst
  have hends := h { s with spans := span :: s.spans } { t with spans := span :: t.spans }
    ⟨hst.files, hst.first, hst.second⟩
  obtain ⟨p, ms, hu, hv⟩ := hends.printed
  have hlast := hends.sessions.foldl_note atEnd atEnd
  refine ⟨hends.result, ⟨hlast.files, hlast.first, hlast.second⟩, p, ms, ?_, ?_⟩
  · exact (Session.foldl_note_of_logsApart hends.sessions.first atEnd e.seen).2.2.trans hu
  · exact (Session.foldl_note_of_logsApart hends.sessions.second atEnd e.seen).2.2.trans hv

end Run

end TypeDocs.Command
