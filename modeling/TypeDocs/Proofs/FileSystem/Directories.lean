import TypeDocs.Proofs.FileSystem.Places

/-!
# Making directories

Making a directory and those above it changes no file and takes no directory away, whether it
succeeds or not. Doing it again changes nothing more, and succeeds just when it did before.
-/

namespace TypeDocs.FileSystem

/-- The second file system has the directories of the first and the same files. -/
structure Made (fs fs' : FileSystem) : Prop extends Keeps fs fs' where
  file? : ∀ p, fs'.file? p = fs.file? p

theorem Made.refl (fs : FileSystem) : Made fs fs := ⟨Keeps.refl fs, fun _ => rfl⟩

theorem Made.trans {fs fs' fs'' : FileSystem} (h : Made fs fs') (h' : Made fs' fs'') :
    Made fs fs'' :=
  ⟨h.toKeeps.trans h'.toKeeps, fun p => (h'.file? p).trans (h.file? p)⟩

variable {fs fs' : FileSystem} {path : Path} {e : FileFault} {absolute : Bool}
  {above : List String}

section One

theorem isDirectoryAt_iff :
    fs.isDirectoryAt path = true ↔ ∃ above proper, fs.target path = .ok (above, proper) ∧
      ∀ p ∈ proper, fs.node? p = some .directory := by
  rw [isDirectoryAt]
  cases htarget : fs.target path with
  | error e => simp
  | ok target =>
    obtain ⟨above, _ | p⟩ := target
    · exact ⟨fun _ => ⟨above, none, rfl, by simp⟩, fun _ => rfl⟩
    · simp only [Except.ok.injEq, Prod.mk.injEq, and_assoc]
      cases hnode : fs.node? p with
      | none => simp [hnode]
      | some n => cases n <;> simp [hnode]

theorem Keeps.isDirectoryAt (hk : Keeps fs fs') (h : fs.isDirectoryAt path = true) :
    fs'.isDirectoryAt path = true := by
  obtain ⟨above, proper, htarget, hnode⟩ := isDirectoryAt_iff.mp h
  exact isDirectoryAt_iff.mpr
    ⟨above, proper, hk.target htarget, fun p hp => hk.directory p (hnode p hp)⟩

/-- A path whose names can all be entered leads to a directory. -/
theorem isDirectoryAt_of_enterAll {p : Place}
    (h : fs.enterAll (fs.start path) path.names = .ok p) : fs.isDirectoryAt path = true := by
  rw [isDirectoryAt_iff]
  unfold target
  rcases List.eq_nil_or_concat path.names with hnames | ⟨names, name, hnames⟩
  · rw [hnames]
    exact ⟨_, none, rfl, by simp⟩
  · rw [List.concat_eq_append] at hnames
    rw [hnames, enterAll_append] at h
    obtain ⟨dir, hdir, h⟩ := exists_of_bind_eq_ok h
    obtain ⟨q, hname, -⟩ := exists_of_bind_eq_ok h
    rw [hnames, List.dropLast_concat, List.getLast?_concat, hdir]
    by_cases hdots : (name == "." || name == "..") = true
    · refine ⟨q, none, ?_, by simp⟩
      simp only [hdots, if_true]
      change (fs.enter dir name).bind _ = _
      rw [hname]
      rfl
    · rw [Bool.or_eq_true, not_or] at hdots
      rw [enter, if_neg hdots.1, if_neg hdots.2] at hname
      split at hname
      · cases hname
      · next hshort =>
        refine ⟨dir, some (dir ++ [name]), ?_, ?_⟩
        · simp only [hdots, hshort]
          rfl
        · rintro r ⟨⟩
          split at hname
          · next hnode => exact hnode
          · cases hname
          · cases hname

theorem makeDirectoryAt_cases (h : fs.makeDirectoryAt path = .ok fs') :
    ∃ above p, fs.target path = .ok (above, some p) ∧ fs.node? p = none ∧
      fs' = fs.setNode p .directory := by
  obtain ⟨⟨above, proper⟩, htarget, h⟩ := exists_of_bind_eq_ok h
  cases proper with
  | none => cases h
  | some p =>
    cases hnode : fs.node? p with
    | none =>
      simp only [hnode] at h
      cases h
      exact ⟨above, p, htarget, hnode, rfl⟩
    | some n =>
      simp only [hnode] at h
      cases h

/-- A directory that is there is made already. -/
theorem ensureDirectoryAt_of_isDirectoryAt (h : fs.isDirectoryAt path = true) :
    fs.ensureDirectoryAt path = .ok fs := by
  unfold ensureDirectoryAt
  split
  · next fs' hmade =>
    obtain ⟨above, p, htarget, hnode, -⟩ := makeDirectoryAt_cases hmade
    obtain ⟨above', proper, htarget', hdirectory⟩ := isDirectoryAt_iff.mp h
    rw [htarget] at htarget'
    cases htarget'
    rw [hdirectory p rfl] at hnode
    cases hnode
  · rw [if_pos h]

theorem ensureDirectoryAt_cases (h : fs.ensureDirectoryAt path = .ok fs') :
    Made fs fs' ∧ fs'.isDirectoryAt path = true := by
  unfold ensureDirectoryAt at h
  split at h
  · next hmade =>
    cases h
    obtain ⟨above, p, htarget, hnode, rfl⟩ := makeDirectoryAt_cases hmade
    have hroot := ne_nil_of_target htarget
    have hkeeps : Keeps fs (fs.setNode p .directory) := keeps_setNode (by rw [hnode]; simp)
    refine ⟨⟨hkeeps, file?_setNode_directory hroot hnode⟩, isDirectoryAt_iff.mpr
      ⟨above, some p, hkeeps.target htarget, ?_⟩⟩
    rintro q ⟨⟩
    rw [node?_setNode hroot, if_pos rfl]
  · split at h
    · next hdirectory =>
      cases h
      exact ⟨Made.refl fs, hdirectory⟩
    · cases h

end One

section Above

/-- Makes a directory, and before it those above when they are missing. -/
def makeBelow (absolute : Bool) (above : List String) (path : Path) (fs : FileSystem) :
    FileSystem × Option FileFault :=
  match fs.ensureDirectoryAt path with
  | .ok fs' => (fs', none)
  | .error .noEntry =>
    let (fs, fault) := makeAbove absolute above fs
    match fault with
    | some e => (fs, some e)
    | none => match fs.ensureDirectoryAt path with
      | .ok fs' => (fs', none)
      | .error e => (fs, some e)
  | .error e => (fs, some e)

theorem makeAbove_cons (name : String) (fs : FileSystem) :
    makeAbove absolute (name :: above) fs =
      makeBelow absolute above ⟨absolute, (name :: above).reverse, false⟩ fs := rfl

/-- The directory is made at once, or not at all, or after those above it. -/
theorem makeBelow_cases {fault : Option FileFault}
    (h : makeBelow absolute above path fs = (fs', fault)) :
    (fs.ensureDirectoryAt path = .ok fs' ∧ fault = none) ∨
    (∃ e, fs.ensureDirectoryAt path = .error e ∧ fs' = fs ∧ fault = some e) ∨
    (∃ e, makeAbove absolute above fs = (fs', some e) ∧ fault = some e) ∨
    (∃ mid, makeAbove absolute above fs = (mid, none) ∧
      mid.ensureDirectoryAt path = .ok fs' ∧ fault = none) ∨
    ∃ e, makeAbove absolute above fs = (fs', none) ∧
      fs'.ensureDirectoryAt path = .error e ∧ fault = some e := by
  unfold makeBelow at h
  split at h
  · next hmade =>
    cases h
    exact Or.inl ⟨hmade, rfl⟩
  · next hmissing =>
    generalize habove : makeAbove absolute above fs = result at h
    obtain ⟨mid, _ | e⟩ := result
    · dsimp only at h
      split at h
      · next hmade =>
        cases h
        exact Or.inr (Or.inr (Or.inr (Or.inl ⟨mid, rfl, hmade, rfl⟩)))
      · next e hfails =>
        cases h
        exact Or.inr (Or.inr (Or.inr (Or.inr ⟨e, rfl, hfails, rfl⟩)))
    · cases h
      exact Or.inr (Or.inr (Or.inl ⟨e, rfl, rfl⟩))
  · next e _ hfails =>
    cases h
    exact Or.inr (Or.inl ⟨e, hfails, rfl, rfl⟩)

/-- With a directory that cannot be made nothing is done where those above are made already. -/
theorem makeBelow_of_error {fault : Option FileFault} (h : fs.ensureDirectoryAt path = .error e)
    (habove : makeAbove absolute above fs = (fs, fault)) :
    ∃ e', makeBelow absolute above path fs = (fs, some e') := by
  unfold makeBelow
  rw [h]
  split
  · next hmade => cases hmade
  · rw [habove]
    cases fault with
    | some e' => exact ⟨e', rfl⟩
    | none =>
      dsimp only
      rw [h]
      exact ⟨e, rfl⟩
  · next e' _ _ => exact ⟨e', rfl⟩

theorem isDirectoryAt_of_makeBelow (h : makeBelow absolute above path fs = (fs', none)) :
    fs'.isDirectoryAt path = true := by
  rcases makeBelow_cases h with ⟨hmade, -⟩ | ⟨e, -, -, hnone⟩ | ⟨e, -, hnone⟩ |
    ⟨mid, -, hmade, -⟩ | ⟨e, -, -, hnone⟩
  · exact (ensureDirectoryAt_cases hmade).2
  · cases hnone
  · cases hnone
  · exact (ensureDirectoryAt_cases hmade).2
  · cases hnone

theorem makeBelow_of_isDirectoryAt (h : fs.isDirectoryAt path = true) :
    makeBelow absolute above path fs = (fs, none) := by
  unfold makeBelow
  rw [ensureDirectoryAt_of_isDirectoryAt h]

theorem made_makeBelow (habove : ∀ fs, Made fs (makeAbove absolute above fs).1) :
    Made fs (makeBelow absolute above path fs).1 := by
  have hfirst := habove fs
  cases hresult : makeBelow absolute above path fs with
  | mk fs' fault =>
    rcases makeBelow_cases hresult with ⟨hmade, -⟩ | ⟨e, -, rfl, -⟩ | ⟨e, habove, -⟩ |
      ⟨mid, habove, hmade, -⟩ | ⟨e, habove, -, -⟩
    · exact (ensureDirectoryAt_cases hmade).1
    · exact Made.refl _
    · rwa [habove] at hfirst
    · rw [habove] at hfirst
      exact hfirst.trans (ensureDirectoryAt_cases hmade).1
    · rwa [habove] at hfirst

theorem made_makeAbove (absolute : Bool) (above : List String) (fs : FileSystem) :
    Made fs (makeAbove absolute above fs).1 := by
  induction above generalizing fs with
  | nil => exact Made.refl fs
  | cons name above ih =>
    rw [makeAbove_cons]
    exact made_makeBelow ih

/-- Where making directories fails, one of them is left that cannot be made. -/
theorem exists_error_of_makeAbove (h : makeAbove absolute above fs = (fs', some e)) :
    ∃ names e', names <:+ above ∧
      fs'.ensureDirectoryAt ⟨absolute, names.reverse, false⟩ = .error e' := by
  induction above generalizing fs with
  | nil => cases h
  | cons name above ih =>
    rw [makeAbove_cons] at h
    rcases makeBelow_cases h with ⟨-, hnone⟩ | ⟨e', hfails, rfl, -⟩ | ⟨e', habove, hsome⟩ |
      ⟨mid, -, -, hnone⟩ | ⟨e', -, hfails, -⟩
    · cases hnone
    · exact ⟨name :: above, e', List.suffix_refl _, hfails⟩
    · cases hsome
      obtain ⟨names, e', hsuffix, hfails⟩ := ih habove
      exact ⟨names, e', hsuffix.trans (List.suffix_cons name above), hfails⟩
    · cases hnone
    · exact ⟨name :: above, e', List.suffix_refl _, hfails⟩

/-- Where making directories fails, they cannot all be entered. -/
theorem enterAll_ne_ok_of_makeAbove (h : makeAbove absolute above fs = (fs', some e)) (p q : Place)
    (hp : p = fs'.start ⟨absolute, above.reverse, false⟩) :
    fs'.enterAll p above.reverse ≠ .ok q := by
  intro henter
  obtain ⟨names, e', ⟨more, rfl⟩, hfails⟩ := exists_error_of_makeAbove h
  rw [List.reverse_append, enterAll_append] at henter
  obtain ⟨r, hnames, -⟩ := exists_of_bind_eq_ok henter
  rw [hp] at hnames
  have hdirectory : fs'.isDirectoryAt ⟨absolute, names.reverse, false⟩ = true :=
    isDirectoryAt_of_enterAll hnames
  rw [ensureDirectoryAt_of_isDirectoryAt hdirectory] at hfails
  cases hfails

theorem exists_enterAll_of_ensureDirectoryAt (h : fs.ensureDirectoryAt path = .ok fs') :
    ∃ q, fs.enterAll (fs.start path) path.names.dropLast = .ok q := by
  have htarget : ∃ target, fs.target path = .ok target := by
    unfold ensureDirectoryAt at h
    split at h
    · next hmade =>
      obtain ⟨above, p, htarget, -⟩ := makeDirectoryAt_cases hmade
      exact ⟨_, htarget⟩
    · split at h
      · next hdirectory =>
        obtain ⟨above, proper, htarget, -⟩ := isDirectoryAt_iff.mp hdirectory
        exact ⟨_, htarget⟩
      · cases h
  obtain ⟨target, htarget⟩ := htarget
  obtain ⟨q, hq, -⟩ := exists_of_bind_eq_ok htarget
  exact ⟨q, hq⟩

/-- A directory that could not be made cannot be made again if that is so of those above. -/
theorem makeBelow_again (habsolute : path.absolute = absolute)
    (hlead : ∀ (fs : FileSystem) q, fs.enterAll (fs.start path) path.names.dropLast = .ok q →
      ∃ r, fs.enterAll (fs.start path) above.reverse = .ok r)
    (hagain : ∀ fs fs' fault, makeAbove absolute above fs = (fs', fault) →
      ∃ fault', makeAbove absolute above fs' = (fs', fault') ∧ fault'.isSome = fault.isSome)
    (h : makeBelow absolute above path fs = (fs', some e)) :
    ∃ e', makeBelow absolute above path fs' = (fs', some e') := by
  rcases makeBelow_cases h with ⟨-, hnone⟩ | ⟨e', -, rfl, -⟩ | ⟨e', habove, -⟩ |
    ⟨mid, -, -, hnone⟩ | ⟨e', habove, hfails, -⟩
  · cases hnone
  · exact ⟨e, h⟩
  · obtain ⟨fault', hagain', -⟩ := hagain fs fs' _ habove
    cases hmade : fs'.ensureDirectoryAt path with
    | error e'' => exact makeBelow_of_error hmade hagain'
    | ok fs'' =>
      obtain ⟨q, hq⟩ := exists_enterAll_of_ensureDirectoryAt hmade
      obtain ⟨r, hr⟩ := hlead fs' q hq
      have hstart : fs'.start path = fs'.start ⟨absolute, above.reverse, false⟩ := by
        rw [start, start, habsolute]
      exact absurd hr (enterAll_ne_ok_of_makeAbove habove _ r hstart)
  · cases hnone
  · obtain ⟨fault', hagain', -⟩ := hagain fs fs' _ habove
    exact makeBelow_of_error hfails hagain'

theorem makeAbove_again {fault : Option FileFault}
    (h : makeAbove absolute above fs = (fs', fault)) :
    ∃ fault', makeAbove absolute above fs' = (fs', fault') ∧ fault'.isSome = fault.isSome := by
  induction above generalizing fs fs' fault with
  | nil =>
    cases h
    exact ⟨none, rfl, rfl⟩
  | cons name above ih =>
    rw [makeAbove_cons] at h
    cases fault with
    | none => exact ⟨none, makeBelow_of_isDirectoryAt (isDirectoryAt_of_makeBelow h), rfl⟩
    | some e =>
      obtain ⟨e', hagain⟩ := makeBelow_again rfl
        (fun fs q hq => ⟨q, by rwa [List.reverse_cons, List.dropLast_concat] at hq⟩)
        (fun fs fs' fault hfault => ih hfault) h
      exact ⟨some e', hagain, rfl⟩

end Above

section Whole

variable {text : String}

/-- The names above a path that are made, last first. -/
def namesAbove (p : Path) : List String := (p.names.filter (· != ".")).dropLast.reverse

theorem makeDirectories_eq (fs : FileSystem) (text : String) :
    fs.makeDirectories text = if text.isEmpty then (fs, none) else match checked text with
      | .error e => (fs, some e)
      | .ok p => makeBelow p.absolute (namesAbove p) p fs := by
  rfl

theorem enterAll_filter (fs : FileSystem) (p : Place) (names : List String) :
    fs.enterAll p (names.filter (· != ".")) = fs.enterAll p names := by
  induction names generalizing p with
  | nil => rfl
  | cons name names ih =>
    by_cases hdot : name = "."
    · have hstay : fs.enterAll p ("." :: names) = fs.enterAll p names := rfl
      rw [List.filter_cons_of_neg (by simp [hdot]), ih, hdot, hstay]
    · rw [List.filter_cons_of_pos (by simp [hdot]), enterAll, enterAll]
      cases fs.enter p name with
      | error e => rfl
      | ok q => exact ih q

theorem dropLast_filter_prefix (f : String → Bool) (names : List String) :
    (names.filter f).dropLast <+: names.dropLast.filter f := by
  rcases List.eq_nil_or_concat names with rfl | ⟨init, name, rfl⟩
  · exact List.prefix_refl _
  · rw [List.concat_eq_append, List.filter_append, List.dropLast_concat]
    by_cases hname : f name = true
    · rw [List.filter_cons_of_pos hname, List.filter_nil]
      exact ⟨[], by rw [List.append_nil, List.dropLast_concat]⟩
    · rw [List.filter_cons_of_neg hname, List.filter_nil, List.append_nil]
      exact List.dropLast_prefix _

/-- Where the directory above a path can be entered, so can those that are made. -/
theorem exists_enterAll_namesAbove {p : Path} {q : Place}
    (h : fs.enterAll (fs.start p) p.names.dropLast = .ok q) :
    ∃ r, fs.enterAll (fs.start p) (namesAbove p).reverse = .ok r := by
  rw [← enterAll_filter] at h
  obtain ⟨more, hmore⟩ := dropLast_filter_prefix (· != ".") p.names
  rw [← hmore, enterAll_append] at h
  obtain ⟨r, hr, -⟩ := exists_of_bind_eq_ok h
  exact ⟨r, by rwa [namesAbove, List.reverse_reverse]⟩

/-- Making directories changes no file, also where it fails. -/
theorem made_makeDirectories {fault : Option FileFault}
    (h : fs.makeDirectories text = (fs', fault)) : Made fs fs' := by
  rw [makeDirectories_eq] at h
  split at h
  · cases h
    exact Made.refl fs
  · split at h
    · cases h
      exact Made.refl fs
    · next p _ =>
      have hmade : Made fs (makeBelow p.absolute (namesAbove p) p fs).1 :=
        made_makeBelow (made_makeAbove _ _)
      rwa [h] at hmade

/-- Directories that were made are there as long as none is taken away. -/
theorem makeDirectories_of_keeps {fs'' : FileSystem}
    (h : fs.makeDirectories text = (fs', none)) (hk : Keeps fs' fs'') :
    fs''.makeDirectories text = (fs'', none) := by
  rw [makeDirectories_eq] at h ⊢
  by_cases hempty : text.isEmpty = true
  · rw [if_pos hempty]
  · rw [if_neg hempty] at h ⊢
    cases hchecked : checked text with
    | error e =>
      rw [hchecked] at h
      cases h
    | ok p =>
      rw [hchecked] at h
      exact makeBelow_of_isDirectoryAt (hk.isDirectoryAt (isDirectoryAt_of_makeBelow h))

/-- Directories that could not be made cannot be made again, and what was made stays. -/
theorem makeDirectories_again (h : fs.makeDirectories text = (fs', some e)) :
    ∃ e', fs'.makeDirectories text = (fs', some e') := by
  rw [makeDirectories_eq] at h ⊢
  by_cases hempty : text.isEmpty = true
  · rw [if_pos hempty] at h
    cases h
  · rw [if_neg hempty] at h ⊢
    cases hchecked : checked text with
    | error e' => exact ⟨e', rfl⟩
    | ok p =>
      rw [hchecked] at h
      exact makeBelow_again rfl (fun _ _ => exists_enterAll_namesAbove)
        (fun _ _ _ => makeAbove_again) h

end Whole

end TypeDocs.FileSystem
