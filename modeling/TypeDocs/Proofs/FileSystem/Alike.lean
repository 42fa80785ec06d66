import TypeDocs.Proofs.FileSystem.Saving

/-!
# File systems that look alike

Two file systems look alike at some places when each of these is a directory in both, a file in
both, or nothing in both, and when all files hold the same but for some that are set apart. A path
that keeps to these places leads to the same in both. So it is read alike, unless it leads to a
file that is set apart, and what is made or written along it leaves them alike.
-/

namespace TypeDocs

def Node.isDirectory : Node → Bool
  | .directory => true
  | .file _ => false

namespace FileSystem

/-- Whether there is a directory at a place, if there is anything. -/
def kind? (fs : FileSystem) (p : Place) : Option Bool := (fs.node? p).map Node.isDirectory

/-- Two file systems that look alike at the places that are seen, and hold the same files but for
those that are set apart. -/
structure Alike (seen apart : Place → Prop) (fs fs' : FileSystem) : Prop where
  here : fs'.here = fs.here
  kind? : ∀ p, seen p → fs'.kind? p = fs.kind? p
  file? : ∀ p, ¬ apart p → fs'.file? p = fs.file? p

/-- Whether all places are seen that names lead through from a place. -/
def Along (seen : Place → Prop) (p : Place) (names : List String) : Prop :=
  ∀ ns, ns <+: names → seen (ns.foldl onward p)

/-- Whether a path keeps to places that are seen. -/
def KeepsTo (fs : FileSystem) (seen : Place → Prop) (text : String) : Prop :=
  Along seen (fs.start (Path.parse text)) (Path.parse text).names

section Along

variable {seen : Place → Prop} {p : Place} {name : String} {names : List String}

theorem Along.of_start {ns : List String} (h : Along seen p names) (hns : ns <+: names) :
    Along seen p ns := fun _ hms => h _ (hms.trans hns)

theorem Along.last (h : Along seen p names) : seen (names.foldl onward p) :=
  h names (List.prefix_refl names)

theorem along_cons : Along seen p (name :: names) ↔ seen p ∧ Along seen (onward p name) names := by
  constructor
  · intro h
    refine ⟨h [] List.nil_prefix, fun ns hns => ?_⟩
    exact h (name :: ns) (List.cons_prefix_cons.mpr ⟨rfl, hns⟩)
  · rintro ⟨hp, h⟩ ns hns
    rcases List.prefix_cons_iff.mp hns with rfl | ⟨ms, rfl, hms⟩
    · exact hp
    · exact h ms hms

theorem foldl_onward_filter (p : Place) (names : List String) :
    (names.filter (· != ".")).foldl onward p = names.foldl onward p := by
  induction names generalizing p with
  | nil => rfl
  | cons name names ih =>
    by_cases hdot : name = "."
    · rw [List.filter_cons_of_neg (by simp [hdot]), ih, List.foldl_cons, hdot]
      rfl
    · rw [List.filter_cons_of_pos (by simp [hdot]), List.foldl_cons, List.foldl_cons, ih]

/-- Names that stay where they are lead through no other places. -/
theorem Along.filter (h : Along seen p names) : Along seen p (names.filter (· != ".")) := by
  intro ns hns
  obtain ⟨ms, hms, rfl⟩ := List.prefix_filter_iff.mp hns
  rw [foldl_onward_filter]
  exact h ms hms

theorem Along.seen_of_target {fs : FileSystem} {path : Path} {above q : Place}
    (h : Along seen (fs.start path) path.names) (htarget : fs.target path = .ok (above, some q)) :
    seen q := by
  have hlast := h.last
  rwa [← target_eq_foldl htarget] at hlast

theorem KeepsTo.seen_placeOf {fs : FileSystem} {text : String} (h : fs.KeepsTo seen text) :
    seen (fs.placeOf text) := Along.last h

end Along

namespace Alike

variable {seen apart : Place → Prop} {fs fs' fs'' : FileSystem} {p : Place} {name text : String}
  {names : List String} {path : Path}

/-! ### Likeness as such -/

theorem refl (fs : FileSystem) : Alike seen apart fs fs := ⟨rfl, fun _ _ => rfl, fun _ _ => rfl⟩

theorem symm (h : Alike seen apart fs fs') : Alike seen apart fs' fs :=
  ⟨h.here.symm, fun p hp => (h.kind? p hp).symm, fun p hp => (h.file? p hp).symm⟩

theorem trans (h : Alike seen apart fs fs') (h' : Alike seen apart fs' fs'') :
    Alike seen apart fs fs'' :=
  ⟨h'.here.trans h.here, fun p hp => (h'.kind? p hp).trans (h.kind? p hp),
    fun p hp => (h'.file? p hp).trans (h.file? p hp)⟩

theorem start (h : Alike seen apart fs fs') (path : Path) : fs'.start path = fs.start path := by
  rw [FileSystem.start, FileSystem.start, h.here]

/-- At a place that is seen there is nothing in both, a directory in both or a file in both. -/
theorem node?_cases (h : Alike seen apart fs fs') (hp : seen p) :
    (fs.node? p = none ∧ fs'.node? p = none) ∨
    (fs.node? p = some .directory ∧ fs'.node? p = some .directory) ∨
    ∃ content content', fs.node? p = some (.file content) ∧
      fs'.node? p = some (.file content') := by
  have hkind := h.kind? p hp
  rw [FileSystem.kind?, FileSystem.kind?] at hkind
  match hnode : fs.node? p, hnode' : fs'.node? p with
  | none, none | some .directory, some .directory | some (.file _), some (.file _) => simp
  | none, some _ | some _, none => simp [hnode, hnode'] at hkind
  | some .directory, some (.file _) | some (.file _), some .directory =>
    simp [hnode, hnode', Node.isDirectory] at hkind

theorem node?_eq (h : Alike seen apart fs fs') (hp : seen p) (hapart : ¬ apart p) :
    fs'.node? p = fs.node? p := by
  have hfile := h.file? p hapart
  rw [FileSystem.file?, FileSystem.file?] at hfile
  rcases h.node?_cases hp with
    ⟨hnode, hnode'⟩ | ⟨hnode, hnode'⟩ | ⟨content, content', hnode, hnode'⟩
  · rw [hnode, hnode']
  · rw [hnode, hnode']
  · rw [hnode, hnode'] at hfile ⊢
    rw [Option.some.inj hfile]

/-- Setting the same kind of node in both keeps them alike. -/
theorem setNode (h : Alike seen apart fs fs') (hp : p ≠ []) {n n' : Node}
    (hkind : n'.isDirectory = n.isDirectory)
    (hfile : ¬ apart p → (fs'.setNode p n').file? p = (fs.setNode p n).file? p) :
    Alike seen apart (fs.setNode p n) (fs'.setNode p n') := by
  refine ⟨h.here, fun q hq => ?_, fun q hq => ?_⟩
  · rw [FileSystem.kind?, FileSystem.kind?, node?_setNode hp, node?_setNode hp]
    by_cases hqp : q = p
    · rw [if_pos hqp, if_pos hqp, Option.map_some, Option.map_some, hkind]
    · rw [if_neg hqp, if_neg hqp]
      exact h.kind? q hq
  · by_cases hqp : q = p
    · subst hqp
      exact hfile hq
    · have hother := h.file? q hq
      rw [FileSystem.file?, FileSystem.file?] at hother ⊢
      rwa [node?_setNode hp, node?_setNode hp, if_neg hqp, if_neg hqp]

/-- A file that is set apart may come to hold anything. -/
theorem of_setNode (fs : FileSystem) (hp : p ≠ []) (hapart : apart p)
    (hfile : (fs.file? p).isSome = true) (content : ByteArray) :
    Alike seen apart fs (fs.setNode p (.file content)) := by
  refine ⟨rfl, fun q _ => ?_, fun q hq => ?_⟩
  · rw [FileSystem.kind?, FileSystem.kind?, node?_setNode hp]
    by_cases hqp : q = p
    · rw [FileSystem.file?] at hfile
      rw [if_pos hqp, hqp]
      cases hnode : fs.node? p with
      | none => simp [hnode] at hfile
      | some node =>
        cases node with
        | directory => simp [hnode] at hfile
        | file => rfl
    · rw [if_neg hqp]
  · rw [file?_setNode_file hp, if_neg]
    rintro rfl
    exact hq hapart

/-! ### Where paths lead -/

theorem enter (h : Alike seen apart fs fs') (hp : seen (onward p name)) :
    fs'.enter p name = fs.enter p name := by
  unfold FileSystem.enter
  by_cases hdot : (name == ".") = true
  · rw [if_pos hdot, if_pos hdot]
  · by_cases hup : (name == "..") = true
    · rw [if_neg hdot, if_neg hdot, if_pos hup, if_pos hup]
    · rw [if_neg hdot, if_neg hdot, if_neg hup, if_neg hup]
      rw [onward, if_neg hdot, if_neg hup] at hp
      rcases h.node?_cases hp with ⟨hnode, hnode'⟩ | ⟨hnode, hnode'⟩ | ⟨_, _, hnode, hnode'⟩
      all_goals rw [hnode, hnode']

theorem enterAll (h : Alike seen apart fs fs') (hnames : Along seen p names) :
    fs'.enterAll p names = fs.enterAll p names := by
  induction names generalizing p with
  | nil => rfl
  | cons name names ih =>
    obtain ⟨-, hrest⟩ := along_cons.mp hnames
    rw [FileSystem.enterAll, FileSystem.enterAll, h.enter (hrest [] List.nil_prefix)]
    cases henter : fs.enter p name with
    | error e => rfl
    | ok q =>
      rw [← enter_eq_onward henter] at hrest
      exact ih hrest

theorem target (h : Alike seen apart fs fs') (hpath : Along seen (fs.start path) path.names) :
    fs'.target path = fs.target path := by
  unfold FileSystem.target
  rw [h.start, h.enterAll (hpath.of_start (List.dropLast_prefix _))]
  cases habove : fs.enterAll (fs.start path) path.names.dropLast with
  | error e => rfl
  | ok above =>
    rcases List.eq_nil_or_concat path.names with hnames | ⟨init, last, hnames⟩
    · rw [hnames]
      rfl
    · rw [List.concat_eq_append] at hnames
      have hseen := hpath.last
      rw [hnames, List.dropLast_concat] at habove
      rw [hnames, List.foldl_append, ← enterAll_eq_foldl habove] at hseen
      rw [hnames, List.getLast?_concat]
      dsimp only [bind, Except.bind]
      rw [h.enter hseen]

theorem find (h : Alike seen apart fs fs') (htext : fs.KeepsTo seen text)
    (hapart : ¬ apart (fs.placeOf text)) : fs'.find text = fs.find text := by
  unfold FileSystem.find
  cases hchecked : checked text with
  | error e => rfl
  | ok parsed =>
    obtain rfl := eq_parse_of_checked hchecked
    dsimp only [bind, Except.bind]
    rw [h.target htext]
    cases htarget : fs.target (Path.parse text) with
    | error e => rfl
    | ok target =>
      obtain ⟨above, _ | q⟩ := target
      · rfl
      · obtain rfl : q = fs.placeOf text := target_eq_foldl htarget
        dsimp only
        rw [h.node?_eq htext.seen_placeOf hapart]

theorem has (h : Alike seen apart fs fs') (htext : fs.KeepsTo seen text)
    (hapart : ¬ apart (fs.placeOf text)) : fs'.has text = fs.has text := by
  rw [FileSystem.has, FileSystem.has, h.find htext hapart]

theorem readText (h : Alike seen apart fs fs') (htext : fs.KeepsTo seen text)
    (hapart : ¬ apart (fs.placeOf text)) : fs'.readText text = fs.readText text := by
  unfold FileSystem.readText FileSystem.read
  rw [h.find htext hapart]

/-! ### What is made and written -/

theorem writePlace (h : Alike seen apart fs fs') (htext : fs.KeepsTo seen text) :
    fs'.writePlace text = fs.writePlace text := by
  unfold FileSystem.writePlace
  cases hchecked : checked text with
  | error e => rfl
  | ok parsed =>
    obtain rfl := eq_parse_of_checked hchecked
    dsimp only [bind, Except.bind]
    rw [h.target htext]
    cases htarget : fs.target (Path.parse text) with
    | error e => rfl
    | ok target =>
      obtain ⟨above, _ | q⟩ := target
      · rfl
      · obtain rfl : q = fs.placeOf text := target_eq_foldl htarget
        dsimp only
        rcases h.node?_cases htext.seen_placeOf with ⟨hnode, hnode'⟩ | ⟨hnode, hnode'⟩ |
          ⟨_, _, hnode, hnode'⟩
        all_goals rw [hnode, hnode']

theorem content (h : Alike seen apart fs fs') (hapart : ¬ apart p) :
    fs'.content p = fs.content p := by
  rw [content_eq, content_eq, h.file? p hapart]

/-- Two results of a step, of which either both fail for the same reason, or both leave file systems
that look alike. -/
inductive Result (seen apart : Place → Prop) :
    Except FileFault FileSystem → Except FileFault FileSystem → Prop where
  | error (e : FileFault) : Result seen apart (.error e) (.error e)
  | ok {fs fs' : FileSystem} (h : Alike seen apart fs fs') :
    Result seen apart (.ok fs) (.ok fs')

theorem makeDirectoryAt (h : Alike seen apart fs fs')
    (hpath : Along seen (fs.start path) path.names) :
    Result seen apart (fs.makeDirectoryAt path) (fs'.makeDirectoryAt path) := by
  unfold FileSystem.makeDirectoryAt
  rw [h.target hpath]
  cases htarget : fs.target path with
  | error e => exact .error e
  | ok target =>
    obtain ⟨above, _ | q⟩ := target
    · exact .error .exists
    · dsimp only [bind, Except.bind]
      rcases h.node?_cases (hpath.seen_of_target htarget) with ⟨hnode, hnode'⟩ |
        ⟨hnode, hnode'⟩ | ⟨_, _, hnode, hnode'⟩
      · rw [hnode, hnode']
        have hroot := ne_nil_of_target htarget
        refine .ok (h.setNode hroot rfl fun hq => ?_)
        rw [file?_setNode_directory hroot hnode, file?_setNode_directory hroot hnode', h.file? _ hq]
      · rw [hnode, hnode']
        exact .error .exists
      · rw [hnode, hnode']
        exact .error .exists

theorem isDirectoryAt (h : Alike seen apart fs fs')
    (hpath : Along seen (fs.start path) path.names) :
    fs'.isDirectoryAt path = fs.isDirectoryAt path := by
  unfold FileSystem.isDirectoryAt
  rw [h.target hpath]
  cases htarget : fs.target path with
  | error e => rfl
  | ok target =>
    obtain ⟨above, _ | q⟩ := target
    · rfl
    · dsimp only
      rcases h.node?_cases (hpath.seen_of_target htarget) with ⟨hnode, hnode'⟩ |
        ⟨hnode, hnode'⟩ | ⟨_, _, hnode, hnode'⟩
      all_goals rw [hnode, hnode']

theorem ensureDirectoryAt (h : Alike seen apart fs fs')
    (hpath : Along seen (fs.start path) path.names) :
    Result seen apart (fs.ensureDirectoryAt path) (fs'.ensureDirectoryAt path) := by
  unfold FileSystem.ensureDirectoryAt
  have hmade := h.makeDirectoryAt hpath
  generalize fs.makeDirectoryAt path = x, fs'.makeDirectoryAt path = y at hmade
  cases hmade with
  | ok hmade => exact .ok hmade
  | error e =>
    dsimp only
    rw [h.isDirectoryAt hpath]
    by_cases hdirectory : fs.isDirectoryAt path = true
    · rw [if_pos hdirectory, if_pos hdirectory]
      exact .ok h
    · rw [if_neg hdirectory, if_neg hdirectory]
      exact .error e

/-- Two ends of a call that say the same and leave file systems that look alike. -/
def Both {α : Type} (seen apart : Place → Prop) (x y : FileSystem × α) : Prop :=
  Alike seen apart x.1 y.1 ∧ y.2 = x.2

/-- Making a directory, and before it those above, ends alike when making those above does. -/
theorem makeBelow {absolute : Bool} {above : List String} (h : Alike seen apart fs fs')
    (hpath : Along seen (fs.start path) path.names)
    (habove : Both seen apart (makeAbove absolute above fs) (makeAbove absolute above fs')) :
    Both seen apart (makeBelow absolute above path fs) (makeBelow absolute above path fs') := by
  unfold FileSystem.makeBelow
  have hfirst := h.ensureDirectoryAt hpath
  generalize fs.ensureDirectoryAt path = x, fs'.ensureDirectoryAt path = y at hfirst
  cases hfirst with
  | ok hfirst => exact ⟨hfirst, rfl⟩
  | error e =>
    have hmade := made_makeAbove absolute above fs
    obtain ⟨hmid, hfault⟩ := habove
    generalize makeAbove absolute above fs = x, makeAbove absolute above fs' = y
      at hmade hmid hfault
    obtain ⟨mid, fault⟩ := x
    obtain ⟨mid', fault'⟩ := y
    obtain rfl : fault' = fault := hfault
    change Alike seen apart mid mid' at hmid
    cases e with
    | noEntry =>
      cases fault' with
      | some e => exact ⟨hmid, rfl⟩
      | none =>
        have hlast : Result seen apart (mid.ensureDirectoryAt path)
            (mid'.ensureDirectoryAt path) := hmid.ensureDirectoryAt (by rwa [hmade.start])
        dsimp only
        generalize mid.ensureDirectoryAt path = x, mid'.ensureDirectoryAt path = y at hlast
        cases hlast with
        | ok hlast => exact ⟨hlast, rfl⟩
        | error e => exact ⟨hmid, rfl⟩
    | _ => exact ⟨h, rfl⟩

theorem makeAbove {absolute : Bool} {above : List String} (h : Alike seen apart fs fs')
    (hpath : Along seen (fs.start ⟨absolute, above.reverse, false⟩) above.reverse) :
    Both seen apart (makeAbove absolute above fs) (makeAbove absolute above fs') := by
  induction above with
  | nil => exact ⟨h, rfl⟩
  | cons name above ih =>
    rw [makeAbove_cons, makeAbove_cons]
    refine h.makeBelow hpath (ih ?_)
    rw [List.reverse_cons] at hpath
    exact hpath.of_start (List.prefix_append _ _)

theorem makeDirectories (h : Alike seen apart fs fs') (htext : fs.KeepsTo seen text) :
    Both seen apart (fs.makeDirectories text) (fs'.makeDirectories text) := by
  rw [makeDirectories_eq, makeDirectories_eq]
  by_cases hempty : text.isEmpty = true
  · rw [if_pos hempty, if_pos hempty]
    exact ⟨h, rfl⟩
  · rw [if_neg hempty, if_neg hempty]
    cases hchecked : checked text with
    | error e => exact ⟨h, rfl⟩
    | ok parsed =>
      obtain rfl := eq_parse_of_checked hchecked
      refine h.makeBelow htext (h.makeAbove ?_)
      rw [namesAbove, List.reverse_reverse]
      exact (Along.filter htext).of_start (List.dropLast_prefix _)

/-- Saving ends alike, and leaves file systems that look alike. -/
theorem save {directory : String} {documents : List String} {name : Option String} {append : Bool}
    (h : Alike seen apart fs fs') (hdirectory : fs.KeepsTo seen directory)
    (hpath : fs.KeepsTo seen (savePath directory name)) :
    Both seen apart (fs.save directory documents name append)
      (fs'.save directory documents name append) := by
  rw [save_eq, save_eq]
  obtain ⟨hmid, hfault⟩ := h.makeDirectories hdirectory
  cases hmade : fs.makeDirectories directory with
  | mk mid fault =>
    cases hmade' : fs'.makeDirectories directory with
    | mk mid' fault' =>
      rw [hmade, hmade'] at hmid hfault
      obtain rfl : fault' = fault := hfault
      cases fault' with
      | some e => exact ⟨hmid, rfl⟩
      | none =>
        have hkeeps : mid.KeepsTo seen (savePath directory name) := by
          rwa [KeepsTo, (made_makeDirectories hmade).start]
        dsimp only
        rw [Alike.writePlace hmid hkeeps]
        cases hplace : mid.writePlace (savePath directory name) with
        | error e => exact ⟨hmid, rfl⟩
        | ok p =>
          have hroot := ne_nil_of_writePlace hplace
          refine ⟨hmid.setNode hroot rfl fun hp => ?_, rfl⟩
          rw [file?_setNode_file hroot, file?_setNode_file hroot, if_pos rfl, if_pos rfl,
            hmid.content hp]

end Alike

end FileSystem

end TypeDocs
