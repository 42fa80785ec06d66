import TypeDocs.Proofs.FileSystem.Directories

/-!
# Calls that save

A call that saves documents changes the file that it targets and no other, and one that fails
changes no file. So what a file holds after some calls is told by those that targeted it and
succeeded: by the last that overwrites and those behind it or, if none does, by all of them behind
what the file held before. Documents that are saved in parts are saved as they are at once.
-/

namespace TypeDocs.FileSystem

section Step

variable {fs fs' : FileSystem} {directory path : String} {documents : List String}
  {name : Option String} {append : Bool}

theorem lines_append (first rest : List String) :
    lines (first ++ rest) = lines first ++ lines rest := by
  rw [lines, List.map_append, String.join_append]
  exact String.toByteArray_append

theorem savePath_some (directory name : String) :
    savePath directory (some name) =
      Path.join directory (if Text.isBlankText name then "model_documentation.txt" else name) := by
  unfold savePath Text.nonBlank
  rw [Option.filter_some]
  cases Text.isBlankText name with
  | true => rfl
  | false => rfl

theorem lines_singleton (document : String) :
    lines [document] = (document ++ "\n").toUTF8 := by
  rw [lines, List.map_singleton, String.join_cons, String.join_nil, String.append_empty]

/-- Saving makes the directory, finds the place of the file, and writes there. -/
theorem save_eq (fs : FileSystem) (directory : String) (documents : List String)
    (name : Option String) (append : Bool) :
    fs.save directory documents name append =
      match fs.makeDirectories directory with
      | (fs, some e) => (fs, .error (directory, e))
      | (fs, none) => match fs.writePlace (savePath directory name) with
        | .error e => (fs, .error (savePath directory name, e))
        | .ok p => (fs.setNode p (.file ((if append then fs.content p else .empty) ++
            lines documents)), .ok (savePath directory name)) := by
  rw [save]
  cases fs.makeDirectories directory with
  | mk mid fault =>
    cases fault with
    | some e => rfl
    | none =>
      dsimp only
      rw [write]
      cases mid.writePlace (savePath directory name) with
      | error e => rfl
      | ok p =>
        cases append with
        | true => rfl
        | false =>
          dsimp only [bind, Except.bind]
          rw [if_neg Bool.false_ne_true, if_neg Bool.false_ne_true, ByteArray.empty_append]
          rfl

theorem save_ok_cases (h : fs.save directory documents name append = (fs', .ok path)) :
    ∃ mid p, fs.makeDirectories directory = (mid, none) ∧
      mid.writePlace (savePath directory name) = .ok p ∧ path = savePath directory name ∧
      fs' = mid.setNode p (.file ((if append then mid.content p else .empty) ++
        lines documents)) := by
  rw [save_eq] at h
  split at h
  · cases h
  · next mid hmade =>
    split at h
    · cases h
    · next p hp =>
      cases h
      exact ⟨mid, p, hmade, hp, rfl, rfl⟩

/-- A file is written where its path leads before directories are made, behind what is there. -/
theorem Made.writePlace {mid : FileSystem} {p : Place} (hmid : Made fs mid)
    (hp : mid.writePlace path = .ok p) :
    p = fs.placeOf path ∧ mid.content p = fs.content p := by
  refine ⟨(eq_placeOf_of_writePlace hp).trans (hmid.placeOf path), ?_⟩
  rw [content_eq, content_eq, hmid.file?]

/-- Saving changes the file that it targets and no other. -/
theorem file?_save (h : fs.save directory documents name append = (fs', .ok path)) :
    Keeps fs fs' ∧ ∀ p, fs'.file? p =
      if fs.placeOf (savePath directory name) = p then
        some ((if append then fs.content p else .empty) ++ lines documents)
      else fs.file? p := by
  obtain ⟨mid, q, hmade, hq, -, rfl⟩ := save_ok_cases h
  have hmid := made_makeDirectories hmade
  obtain ⟨hplace, hcontent⟩ := hmid.writePlace hq
  obtain ⟨-, -, -, -, -, hnode⟩ := writePlace_eq_ok_iff.mp hq
  refine ⟨hmid.toKeeps.trans (keeps_setNode hnode), fun p => ?_⟩
  rw [file?_setNode_file (ne_nil_of_writePlace hq), ← hplace]
  by_cases hp : p = q
  · rw [if_pos hp, if_pos hp.symm, hp, hcontent]
  · rw [if_neg hp, if_neg (Ne.symm hp), hmid.file?]

/-- What is saved is read from the path that saving gives. -/
theorem read_save (h : fs.save directory documents name append = (fs', .ok path)) :
    path = savePath directory name ∧
      fs'.read path = .ok ((if append then fs.content (fs.placeOf path) else .empty) ++
        lines documents) := by
  obtain ⟨mid, q, hmade, hq, rfl, rfl⟩ := save_ok_cases h
  obtain ⟨hplace, hcontent⟩ := (made_makeDirectories hmade).writePlace hq
  rw [read_of_writePlace hq, ← hplace, hcontent]
  exact ⟨rfl, rfl⟩

/-- Saving that fails changes no file. -/
theorem made_of_save_error {fault : String × FileFault}
    (h : fs.save directory documents name append = (fs', .error fault)) : Made fs fs' := by
  rw [save_eq] at h
  split at h
  · next hmade =>
    cases h
    exact made_makeDirectories hmade
  · next hmade =>
    split at h
    · cases h
      exact made_makeDirectories hmade
    · cases h

end Step

/-- What saving is asked for. -/
structure SaveCall where
  directory : String
  documents : List String
  name : Option String
  append : Bool

namespace SaveCall

variable (c : SaveCall)

/-- The path of the file in which it saves. -/
def path : String := savePath c.directory c.name

def run (fs : FileSystem) : FileSystem × Except (String × FileFault) String :=
  fs.save c.directory c.documents c.name c.append

/-- What becomes of a file when a call that targets it succeeds. -/
def rewrite (old : Option ByteArray) : Option ByteArray :=
  some ((if c.append then old.getD .empty else .empty) ++ lines c.documents)

/-- The call that saves these documents behind those of `c`. -/
def behind (documents : List String) : SaveCall := { c with documents, append := true }

/-- The call that saves these documents with those of `c`. -/
def adding (documents : List String) : SaveCall :=
  { c with documents := c.documents ++ documents }

end SaveCall

/-- The files after some calls, one behind the other, and those of the calls that succeeded. -/
def saveAll (fs : FileSystem) : List SaveCall → FileSystem × List SaveCall
  | [] => (fs, [])
  | c :: cs =>
    let (fs, result) := c.run fs
    let (last, saved) := fs.saveAll cs
    (last, if result.isOk then c :: saved else saved)

/-- What a file holds after some calls that targeted it and succeeded, of what it held before. -/
inductive Written (old : Option ByteArray) : List SaveCall → Option ByteArray → Prop
  | untouched : Written old [] old
  | extended {calls : List SaveCall} : calls ≠ [] → (∀ c ∈ calls, c.append = true) →
      Written old calls (some (old.getD .empty ++ lines (calls.flatMap SaveCall.documents)))
  | replaced {before after : List SaveCall} {c : SaveCall} : c.append = false →
      (∀ d ∈ after, d.append = true) →
      Written old (before ++ c :: after)
        (some (lines ((c :: after).flatMap SaveCall.documents)))

/-- Those of some calls that target a place. -/
def targeting (fs : FileSystem) (p : Place) (cs : List SaveCall) : List SaveCall :=
  cs.filter fun c => fs.placeOf c.path == p

section Run

variable {fs : FileSystem} {p : Place}

theorem file?_run (c : SaveCall) (fs : FileSystem) (p : Place) :
    Keeps fs (c.run fs).1 ∧ (c.run fs).1.file? p =
      if (c.run fs).2.isOk ∧ fs.placeOf c.path = p then c.rewrite (fs.file? p)
      else fs.file? p := by
  cases hresult : c.run fs with
  | mk fs' result =>
    cases result with
    | error fault =>
      have hmade := made_of_save_error hresult
      exact ⟨hmade.toKeeps, (hmade.file? p).trans (if_neg fun h => Bool.false_ne_true h.1).symm⟩
    | ok path =>
      obtain ⟨hkeeps, hfile⟩ := file?_save hresult
      refine ⟨hkeeps, (hfile p).trans ?_⟩
      rw [← SaveCall.path]
      by_cases hp : fs.placeOf c.path = p
      · rw [if_pos hp, SaveCall.rewrite, content_eq]
        exact (if_pos ⟨rfl, hp⟩).symm
      · rw [if_neg hp]
        exact (if_neg fun h => hp h.2).symm

/-- After a run every file is what the calls that targeted it and succeeded made of it. -/
theorem file?_saveAll (fs : FileSystem) (cs : List SaveCall) (p : Place) :
    (fs.saveAll cs).1.file? p =
      (fs.targeting p (fs.saveAll cs).2).foldl (fun old c => c.rewrite old) (fs.file? p) := by
  induction cs generalizing fs with
  | nil => rfl
  | cons c cs ih =>
    obtain ⟨hkeeps, hfile⟩ := file?_run c fs p
    rw [saveAll]
    dsimp only
    rw [ih (c.run fs).1]
    have htargeting : (c.run fs).1.targeting p = fs.targeting p := by
      funext cs
      unfold targeting
      simp only [hkeeps.placeOf]
    rw [htargeting, hfile]
    by_cases hok : (c.run fs).2.isOk = true
    · rw [if_pos hok]
      by_cases hp : fs.placeOf c.path = p
      · rw [if_pos ⟨hok, hp⟩, targeting, targeting,
          List.filter_cons_of_pos (by simpa using hp), List.foldl_cons]
      · rw [if_neg (fun h => hp h.2), targeting, targeting,
          List.filter_cons_of_neg (by simpa using hp)]
    · rw [if_neg hok, if_neg (fun h => hok h.1)]

/-- One more call turns what is written so far into what is written with it. -/
theorem Written.rewrite {old new : Option ByteArray} {calls : List SaveCall}
    (h : Written old calls new) (c : SaveCall) : Written old (calls ++ [c]) (c.rewrite new) := by
  -- A call that overwrites is the last that does; one that appends comes behind that.
  cases happend : c.append with
  | false =>
    have hlast : Written old (calls ++ [c]) (some (lines ([c].flatMap SaveCall.documents))) :=
      Written.replaced happend (List.forall_mem_nil _)
    rw [SaveCall.rewrite, happend, if_neg Bool.false_ne_true, ByteArray.empty_append]
    rwa [List.flatMap_singleton] at hlast
  | true =>
    have hone : ∀ d ∈ [c], d.append = true := List.forall_mem_singleton.mpr happend
    rw [SaveCall.rewrite, happend, if_pos rfl]
    cases h with
    | untouched =>
      have hfirst : Written old [c] _ := Written.extended (List.cons_ne_nil c []) hone
      rwa [List.flatMap_singleton] at hfirst
    | extended _ hall =>
      have hmore : Written old (calls ++ [c]) _ := Written.extended (by simp)
        (List.forall_mem_append.mpr ⟨hall, hone⟩)
      rwa [List.flatMap_append, List.flatMap_singleton, lines_append,
        ← ByteArray.append_assoc] at hmore
    | @replaced before after overwriting hover hall =>
      have hmore : Written old (before ++ overwriting :: (after ++ [c])) _ :=
        Written.replaced hover (List.forall_mem_append.mpr ⟨hall, hone⟩)
      rw [← List.cons_append, List.flatMap_append, List.flatMap_singleton, lines_append,
        ← List.append_assoc] at hmore
      exact hmore

theorem Written.foldl {old new : Option ByteArray} {calls : List SaveCall}
    (h : Written old calls new) (more : List SaveCall) :
    Written old (calls ++ more) (more.foldl (fun old c => c.rewrite old) new) := by
  induction more generalizing calls new with
  | nil => rwa [List.append_nil]
  | cons c more ih =>
    rw [List.append_cons]
    exact ih (h.rewrite c)

/-- A part that is saved behind another, as if both were saved at once. -/
theorem run_append_of_ok {c : SaveCall} {fs' : FileSystem} {path : String}
    (h : c.run fs = (fs', .ok path)) (part : List String) :
    ∃ fs'', (c.behind part).run fs' = (fs'', .ok path) ∧
      (c.adding part).run fs = (fs'', .ok path) := by
  obtain ⟨mid, q, hmade, hq, rfl, rfl⟩ := save_ok_cases h
  obtain ⟨-, -, -, -, -, hnode⟩ := writePlace_eq_ok_iff.mp hq
  have hroot := ne_nil_of_writePlace hq
  generalize hfirst : (if c.append then mid.content q else .empty) ++ lines c.documents = first
  have hkeeps : Keeps mid (mid.setNode q (.file first)) := keeps_setNode hnode
  have hfile : (mid.setNode q (.file first)).node? q = some (.file first) := by
    rw [node?_setNode hroot, if_pos rfl]
  have hagain := hkeeps.writePlace hq (by rw [hfile]; simp)
  have hcontent : (mid.setNode q (.file first)).content q = first := by
    rw [content_eq, file?_setNode_file hroot, if_pos rfl, Option.getD_some]
  rw [SaveCall.run, SaveCall.run, SaveCall.behind, SaveCall.adding, save_eq, save_eq, hmade,
    makeDirectories_of_keeps hmade hkeeps]
  dsimp only
  rw [hagain, hq]
  dsimp only
  rw [setNode_setNode, hcontent, if_pos rfl, lines_append, ← ByteArray.append_assoc, hfirst]
  exact ⟨_, rfl, rfl⟩

/-- Where saving failed it fails again, whatever the documents are. -/
theorem run_behind_of_error {c : SaveCall} {fs' : FileSystem} {fault : String × FileFault}
    (h : c.run fs = (fs', .error fault)) (part : List String) :
    (∃ fault', (c.behind part).run fs' = (fs', .error fault')) ∧
      (c.adding part).run fs = (fs', .error fault) := by
  rw [SaveCall.run, save_eq] at h
  rw [SaveCall.run, SaveCall.run, SaveCall.behind, SaveCall.adding, save_eq, save_eq]
  dsimp only at h ⊢
  cases hmade : fs.makeDirectories c.directory with
  | mk mid e =>
    rw [hmade] at h
    cases e with
    | some e =>
      cases h
      obtain ⟨e', hagain⟩ := makeDirectories_again hmade
      rw [hagain]
      exact ⟨⟨_, rfl⟩, rfl⟩
    | none =>
      dsimp only at h
      cases hplace : mid.writePlace (savePath c.directory c.name) with
      | ok q =>
        rw [hplace] at h
        cases h
      | error e =>
        rw [hplace] at h
        cases h
        rw [makeDirectories_of_keeps hmade (Keeps.refl _)]
        dsimp only
        rw [hplace]
        exact ⟨⟨_, rfl⟩, rfl⟩

/-- Parts behind one that is saved, as if all were saved at once. -/
theorem saveAll_of_ok {c : SaveCall} {fs' : FileSystem} {path : String}
    (h : c.run fs = (fs', .ok path)) (parts : List (List String)) :
    (c.adding parts.flatten).run fs = ((fs'.saveAll (parts.map c.behind)).1, .ok path) ∧
      (fs'.saveAll (parts.map c.behind)).2 = parts.map c.behind := by
  induction parts generalizing c fs' with
  | nil =>
    rw [SaveCall.adding, List.flatten_nil, List.append_nil]
    exact ⟨h, rfl⟩
  | cons part parts ih =>
    obtain ⟨fs'', hpart, hboth⟩ := run_append_of_ok h part
    obtain ⟨hrun, hsaved⟩ := ih hboth
    have hadding : (c.adding part).adding parts.flatten = c.adding (part :: parts).flatten := by
      rw [List.flatten_cons, SaveCall.adding, SaveCall.adding, SaveCall.adding, List.append_assoc]
    have hbehind : (c.adding part).behind = c.behind := rfl
    rw [hadding, hbehind] at hrun
    rw [hbehind] at hsaved
    rw [List.map_cons, saveAll, hpart]
    dsimp only
    rw [hsaved]
    exact ⟨hrun, rfl⟩

/-- Parts behind one that is not saved are not saved, and change nothing. -/
theorem saveAll_of_error {c : SaveCall} {fs' : FileSystem} {fault : String × FileFault}
    (h : c.run fs = (fs', .error fault)) (parts : List (List String)) :
    fs'.saveAll (parts.map c.behind) = (fs', []) := by
  induction parts with
  | nil => rfl
  | cons part parts ih =>
    obtain ⟨⟨fault', hpart⟩, -⟩ := run_behind_of_error h part
    rw [List.map_cons, saveAll, hpart]
    dsimp only
    rw [ih]
    rfl

/-- Some calls behind one another, with what each file holds then. A call that fails changes no
file, and documents can be saved in parts or at once. -/
theorem written_saveAll (fs : FileSystem) (calls : List SaveCall) :
    (∀ p, Written (fs.file? p) (fs.targeting p (fs.saveAll calls).2)
      ((fs.saveAll calls).1.file? p)) ∧
    (∀ c : SaveCall, (c.run fs).2.isOk = false → ∀ p, (c.run fs).1.file? p = fs.file? p) ∧
    ∀ (c : SaveCall) (parts : List (List String)),
      (fs.saveAll (c :: parts.map c.behind)).1 = (fs.saveAll [c.adding parts.flatten]).1 ∧
      (fs.saveAll (c :: parts.map c.behind)).2 = (if (c.run fs).2.isOk then
        c :: parts.map c.behind else []) ∧
      (fs.saveAll [c.adding parts.flatten]).2 = (if (c.run fs).2.isOk then
        [c.adding parts.flatten] else []) := by
  refine ⟨fun p => ?_, fun c hfails p => ?_, fun c parts => ?_⟩
  · rw [file?_saveAll]
    exact Written.untouched.foldl _
  · rw [(file?_run c fs p).2, if_neg]
    rw [hfails]
    exact fun h => Bool.false_ne_true h.1
  · rw [saveAll, saveAll]
    cases hfirst : c.run fs with
    | mk fs' result =>
      cases result with
      | ok path =>
        obtain ⟨hrun, hsaved⟩ := saveAll_of_ok hfirst parts
        rw [hrun]
        dsimp only
        rw [hsaved]
        exact ⟨rfl, rfl, rfl⟩
      | error fault =>
        rw [(run_behind_of_error hfirst parts.flatten).2]
        dsimp only
        rw [saveAll_of_error hfirst]
        exact ⟨rfl, rfl, rfl⟩

-- The second call fails, and a blank name is none.
example : ((⟨[], []⟩ : FileSystem).saveAll [⟨"out", ["a"], none, true⟩,
    ⟨"out/model_documentation.txt", ["b"], none, false⟩,
    ⟨"out", ["c", "d"], some " ", true⟩]).1.file? ["out", "model_documentation.txt"] =
      some "a\nc\nd\n".toUTF8 := by
  decide +kernel

end Run

end TypeDocs.FileSystem
