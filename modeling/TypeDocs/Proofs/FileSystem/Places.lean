import TypeDocs.FileSystem.Save
import TypeDocs.Proofs.Outcome

/-!
# Places of paths

A path that leads anywhere leads to one place, which its names alone tell. It leads there too when
there are more directories. What is written to a path is what is then read from it, and no other
file changes.
-/

namespace TypeDocs.FileSystem

/-- Where a name leads from a place, if it leads anywhere. -/
def onward (p : Place) (name : String) : Place :=
  if name == "." then p else if name == ".." then p.dropLast else p ++ [name]

variable (fs : FileSystem)

/-- The place that a path means, if it means one. -/
def placeOf (path : String) : Place :=
  (Path.parse path).names.foldl onward (fs.start (Path.parse path))

/-- The content of the file at a place, if there is one. -/
def file? (p : Place) : Option ByteArray :=
  match fs.node? p with
  | some (.file content) => some content
  | _ => none

theorem content_eq (p : Place) : fs.content p = (fs.file? p).getD .empty := by
  rw [content, file?]
  cases fs.node? p with
  | none => rfl
  | some n => cases n <;> rfl

/-- The second file system starts where the first does and has its directories. -/
structure Keeps (fs fs' : FileSystem) : Prop where
  here : fs'.here = fs.here
  directory : ∀ p, fs.node? p = some .directory → fs'.node? p = some .directory

namespace Keeps

theorem refl : Keeps fs fs := ⟨rfl, fun _ h => h⟩

variable {fs} {fs' fs'' : FileSystem}

theorem trans (h : Keeps fs fs') (h' : Keeps fs' fs'') : Keeps fs fs'' :=
  ⟨h'.here.trans h.here, fun p hp => h'.directory p (h.directory p hp)⟩

theorem start (h : Keeps fs fs') (path : Path) : fs'.start path = fs.start path := by
  rw [FileSystem.start, FileSystem.start, h.here]

theorem placeOf (h : Keeps fs fs') (path : String) : fs'.placeOf path = fs.placeOf path := by
  rw [FileSystem.placeOf, FileSystem.placeOf, h.start]

end Keeps

section Nodes

variable {fs} {p q : Place} {n : Node}

theorem node?_setNode (hp : p ≠ []) :
    (fs.setNode p n).node? q = if q = p then some n else fs.node? q := by
  rw [node?, node?, setNode, lookup_put]
  cases q with
  | nil => simp [hp.symm]
  | cons name names => simp

theorem keeps_setNode (hp : fs.node? p ≠ some .directory) : Keeps fs (fs.setNode p n) := by
  have hroot : p ≠ [] := by
    rintro rfl
    exact hp rfl
  refine ⟨rfl, fun q hq => ?_⟩
  rw [node?_setNode hroot, if_neg, hq]
  rintro rfl
  exact hp hq

theorem setNode_setNode (fs : FileSystem) (p : Place) (n m : Node) :
    (fs.setNode p n).setNode p m = fs.setNode p m := by
  have hput (nodes : List (Place × Node)) : put (put nodes p n) p m = put nodes p m := by
    induction nodes with
    | nil => simp [put]
    | cons entry nodes ih =>
      by_cases h : entry.1 = p
      · simp [put, h]
      · simp [put, h, ih]
  rw [setNode, setNode, setNode, hput]

end Nodes

section Names

variable {fs} {fs' : FileSystem} {p q : Place} {name : String} {names : List String}

theorem enter_eq_onward (h : fs.enter p name = .ok q) : q = onward p name := by
  unfold enter at h
  unfold onward
  split at h
  · next hdot => rw [if_pos hdot]; cases h; rfl
  · next hdot =>
    rw [if_neg hdot]
    split at h
    · next hup => rw [if_pos hup]; cases h; rfl
    · next hup =>
      rw [if_neg hup]
      split at h
      · cases h
      · split at h
        · cases h; rfl
        · cases h
        · cases h

theorem Keeps.enter (hk : Keeps fs fs') (h : fs.enter p name = .ok q) :
    fs'.enter p name = .ok q := by
  unfold FileSystem.enter at h ⊢
  split at h
  · next hdot => rw [if_pos hdot]; exact h
  · next hdot =>
    rw [if_neg hdot]
    split at h
    · next hup => rw [if_pos hup]; exact h
    · next hup =>
      rw [if_neg hup]
      split at h
      · cases h
      · next hshort =>
        rw [if_neg hshort]
        split at h
        · next hnode => rw [hk.directory _ hnode]; exact h
        · cases h
        · cases h

theorem enterAll_append (p : Place) (names more : List String) :
    fs.enterAll p (names ++ more) = (fs.enterAll p names).bind fun q => fs.enterAll q more := by
  induction names generalizing p with
  | nil => rfl
  | cons name names ih =>
    rw [List.cons_append, enterAll, enterAll]
    cases h : fs.enter p name with
    | error e => rfl
    | ok q => exact ih q

theorem enterAll_eq_foldl (h : fs.enterAll p names = .ok q) : q = names.foldl onward p := by
  induction names generalizing p with
  | nil => cases h; rfl
  | cons name names ih =>
    obtain ⟨r, hname, hrest⟩ := exists_of_bind_eq_ok h
    rw [List.foldl_cons, ← enter_eq_onward hname]
    exact ih hrest

theorem Keeps.enterAll (hk : Keeps fs fs') (h : fs.enterAll p names = .ok q) :
    fs'.enterAll p names = .ok q := by
  induction names generalizing p with
  | nil => exact h
  | cons name names ih =>
    obtain ⟨r, hname, hrest⟩ := exists_of_bind_eq_ok h
    rw [FileSystem.enterAll, hk.enter hname]
    exact ih hrest

end Names

section Target

variable {fs} {fs' : FileSystem} {path : Path} {above : Place} {proper : Option Place}

/-- What the target of a path is: where it starts if it has no name, what its last name means if
that is no proper one, and else a place in a directory. -/
theorem target_cases (h : fs.target path = .ok (above, proper)) :
    (path.names = [] ∧ above = fs.start path ∧ proper = none) ∨
    ∃ names name dir, path.names = names ++ [name] ∧
      fs.enterAll (fs.start path) names = .ok dir ∧
      ((name = "." ∨ name = "..") ∧ fs.enter dir name = .ok above ∧ proper = none ∨
        (name ≠ "." ∧ name ≠ "..") ∧ above = dir ∧ proper = some (dir ++ [name])) := by
  obtain ⟨dir, hdir, h⟩ := exists_of_bind_eq_ok h
  rcases List.eq_nil_or_concat path.names with hnames | ⟨names, name, hnames⟩
  · rw [hnames] at hdir h
    cases hdir
    cases h
    exact Or.inl ⟨hnames, rfl, rfl⟩
  · rw [List.concat_eq_append] at hnames
    rw [hnames, List.dropLast_concat] at hdir
    rw [hnames, List.getLast?_concat] at h
    refine Or.inr ⟨names, name, dir, hnames, hdir, ?_⟩
    dsimp only at h
    split at h
    · next hdots =>
      obtain ⟨q, hq, h⟩ := exists_of_bind_eq_ok h
      cases h
      exact Or.inl ⟨by simpa using hdots, hq, rfl⟩
    · next hdots =>
      split at h
      · cases h
      · cases h
        exact Or.inr ⟨by simpa using hdots, rfl, rfl⟩

theorem Keeps.target (hk : Keeps fs fs') (h : fs.target path = .ok (above, proper)) :
    fs'.target path = .ok (above, proper) := by
  unfold FileSystem.target at h ⊢
  obtain ⟨dir, hdir, h⟩ := exists_of_bind_eq_ok h
  rw [hk.start, hk.enterAll hdir]
  cases hlast : path.names.getLast? with
  | none =>
    rw [hlast] at h
    exact h
  | some name =>
    rw [hlast] at h
    by_cases hdots : (name == "." || name == "..") = true
    · simp only [hdots, if_true] at h ⊢
      obtain ⟨q, hq, h⟩ := exists_of_bind_eq_ok h
      cases h
      change (fs'.enter dir name).bind _ = _
      rw [hk.enter hq]
      rfl
    · simp only [hdots] at h ⊢
      exact h

/-- The target of a path is the place that its names tell. -/
theorem target_eq_foldl (h : fs.target path = .ok (above, proper)) :
    proper.getD above = path.names.foldl onward (fs.start path) := by
  rcases target_cases h with ⟨hnames, rfl, rfl⟩ | ⟨names, name, dir, hnames, hdir, hlast⟩
  · rw [hnames]
    rfl
  · rw [hnames, List.foldl_append, ← enterAll_eq_foldl hdir]
    rcases hlast with ⟨-, hname, rfl⟩ | ⟨⟨hdot, hup⟩, -, rfl⟩
    · exact enter_eq_onward hname
    · simp [onward, hdot, hup]

theorem ne_nil_of_target {p : Place} (h : fs.target path = .ok (above, some p)) : p ≠ [] := by
  rcases target_cases h with ⟨-, -, hnone⟩ | ⟨names, name, dir, -, -, ⟨-, -, hnone⟩ | ⟨-, -, hp⟩⟩
  · cases hnone
  · cases hnone
  · cases hp
    simp

end Target

section Writing

variable {fs} {fs' : FileSystem} {path : String} {p : Place}

theorem eq_parse_of_checked {parsed : Path} (h : checked path = .ok parsed) :
    parsed = Path.parse path := by
  unfold checked at h
  split at h
  · cases h
  · split at h
    · cases h
    · split at h
      · cases h
      · cases h
        rfl

theorem writePlace_eq_ok_iff :
    fs.writePlace path = .ok p ↔ ∃ parsed above, checked path = .ok parsed ∧
      fs.target parsed = .ok (above, some p) ∧ parsed.slash = false ∧
      fs.node? p ≠ some .directory := by
  constructor
  · intro h
    obtain ⟨parsed, hchecked, h⟩ := exists_of_bind_eq_ok h
    obtain ⟨⟨above, proper⟩, htarget, h⟩ := exists_of_bind_eq_ok h
    cases proper with
    | none => cases h
    | some q =>
      dsimp only at h
      split at h
      · cases h
      · next hslash =>
        split at h
        · cases h
        · next hnode =>
          cases h
          exact ⟨parsed, above, hchecked, htarget, by simpa using hslash, hnode⟩
  · rintro ⟨parsed, above, hchecked, htarget, hslash, hnode⟩
    unfold writePlace
    rw [hchecked]
    change (fs.target parsed).bind _ = _
    rw [htarget]
    change (if parsed.slash = true then _ else _) = _
    rw [hslash, if_neg Bool.false_ne_true]
    split
    · next h => exact absurd h hnode
    · rfl

theorem eq_placeOf_of_writePlace (h : fs.writePlace path = .ok p) : p = fs.placeOf path := by
  obtain ⟨parsed, above, hchecked, htarget, -, -⟩ := writePlace_eq_ok_iff.mp h
  obtain rfl := eq_parse_of_checked hchecked
  exact target_eq_foldl htarget

theorem ne_nil_of_writePlace (h : fs.writePlace path = .ok p) : p ≠ [] := by
  obtain ⟨parsed, above, -, htarget, -, -⟩ := writePlace_eq_ok_iff.mp h
  exact ne_nil_of_target htarget

/-- Writing again goes to the same place. -/
theorem Keeps.writePlace (hk : Keeps fs fs') (h : fs.writePlace path = .ok p)
    (hnode : fs'.node? p ≠ some .directory) : fs'.writePlace path = .ok p := by
  obtain ⟨parsed, above, hchecked, htarget, hslash, -⟩ := writePlace_eq_ok_iff.mp h
  exact writePlace_eq_ok_iff.mpr ⟨parsed, above, hchecked, hk.target htarget, hslash, hnode⟩

theorem file?_setNode_file (hp : p ≠ []) (content : ByteArray) (q : Place) :
    (fs.setNode p (.file content)).file? q = if q = p then some content else fs.file? q := by
  rw [file?, node?_setNode hp]
  by_cases hq : q = p
  · rw [if_pos hq, if_pos hq]
  · rw [if_neg hq, if_neg hq]
    rfl

theorem file?_setNode_directory (hp : p ≠ []) (hnode : fs.node? p = none) (q : Place) :
    (fs.setNode p .directory).file? q = fs.file? q := by
  rw [file?, file?, node?_setNode hp]
  by_cases hq : q = p
  · rw [if_pos hq, hq, hnode]
  · rw [if_neg hq]

theorem write_of_writePlace (h : fs.writePlace path = .ok p) (append : Bool)
    (content : ByteArray) : fs.write path append content =
      .ok (fs.setNode p (.file (if append then fs.content p ++ content else content))) := by
  rw [write, h]
  rfl

/-- What is written to a path is read from it. -/
theorem read_of_writePlace (h : fs.writePlace path = .ok p) (content : ByteArray) :
    (fs.setNode p (.file content)).read path = .ok content := by
  obtain ⟨parsed, above, hchecked, htarget, hslash, hnode⟩ := writePlace_eq_ok_iff.mp h
  have hfile : (fs.setNode p (.file content)).node? p = some (.file content) := by
    rw [node?_setNode (ne_nil_of_writePlace h), if_pos rfl]
  have hfind : (fs.setNode p (.file content)).find path = .ok (p, .file content) := by
    unfold find
    rw [hchecked]
    change (FileSystem.target _ parsed).bind _ = _
    rw [(keeps_setNode hnode).target htarget]
    dsimp only [Except.bind]
    rw [hfile, hslash]
    rfl
  unfold read
  rw [hfind]
  rfl

end Writing

end TypeDocs.FileSystem
