import Mathlib.Data.List.Basic
import TypeDocs.Settings.Load

/-!
# Which settings are used

Without a file that is given the settings are those of the first usual path that has any. A file
that cannot be read is passed over, and is told of, and what is behind the first that can be read
makes no difference. A file that is given is the only one that is looked at.
-/

namespace TypeDocs.Settings

/-- Something is at a path, and it is a file of settings. -/
def Loads (fs : FileSystem) (path : String) (s : Settings) : Prop :=
  fs.has path = true ∧ ofFile fs path = .ok s

/-- None of the paths has settings, and of those where something is it is told why. -/
structure PassedOver (fs : FileSystem) (paths : List String) (skipped : List (String × Failure)) :
    Prop where
  not_loads : ∀ path ∈ paths, ∀ s, ¬ Loads fs path s
  map_fst : skipped.map Prod.fst = paths.filter fs.has
  failure : ∀ p ∈ skipped, ofFile fs p.1 = .error p.2

/-- The settings of the first of the paths that has any, or the ones that hold when none has. -/
inductive FirstLoaded (fs : FileSystem) (paths : List String) :
    Settings → List (String × Failure) → Prop where
  | found {before after : List String} {path : String} {s : Settings}
    {skipped : List (String × Failure)} (hpaths : paths = before ++ path :: after)
    (hbefore : PassedOver fs before skipped) (hpath : Loads fs path s) :
    FirstLoaded fs paths s skipped
  | none {skipped : List (String × Failure)} (hpaths : PassedOver fs paths skipped) :
    FirstLoaded fs paths {} skipped

variable {fs fs' : FileSystem} {h h' : Homes} {path : String} {paths before after : List String}
  {s : Settings} {skipped : List (String × Failure)}

theorem ofFile_of_find_eq (hfind : fs'.find path = fs.find path) :
    ofFile fs' path = ofFile fs path := by
  unfold ofFile FileSystem.readText FileSystem.read
  rw [hfind]

theorem has_of_find_eq (hfind : fs'.find path = fs.find path) : fs'.has path = fs.has path := by
  rw [FileSystem.has, FileSystem.has, hfind]

theorem Loads.of_find_eq (hpath : Loads fs path s) (hfind : fs'.find path = fs.find path) :
    Loads fs' path s :=
  ⟨(has_of_find_eq hfind).trans hpath.1, (ofFile_of_find_eq hfind).trans hpath.2⟩

/-! ### The usual paths -/

theorem firstOf_cons_of_loads (hpath : Loads fs path s) :
    firstOf fs (path :: paths) = (s, []) := by
  rw [firstOf, if_pos hpath.1, hpath.2]

theorem firstOf_cons_of_error {e : Failure} (hhas : fs.has path = true)
    (hfile : ofFile fs path = .error e) :
    firstOf fs (path :: paths) = ((firstOf fs paths).1, (path, e) :: (firstOf fs paths).2) := by
  rw [firstOf, if_pos hhas, hfile]

theorem firstOf_cons_of_not_has (hhas : fs.has path = false) :
    firstOf fs (path :: paths) = firstOf fs paths := by
  rw [firstOf, if_neg (by simp [hhas])]

theorem passedOver_nil (fs : FileSystem) : PassedOver fs [] [] :=
  ⟨List.forall_mem_nil _, rfl, List.forall_mem_nil _⟩

namespace PassedOver

theorem cons_of_error {e : Failure} (hpaths : PassedOver fs paths skipped)
    (hhas : fs.has path = true) (hfile : ofFile fs path = .error e) :
    PassedOver fs (path :: paths) ((path, e) :: skipped) := by
  refine ⟨List.forall_mem_cons.mpr ⟨fun s hpath => ?_, hpaths.not_loads⟩, ?_,
    List.forall_mem_cons.mpr ⟨hfile, hpaths.failure⟩⟩
  · rw [hpath.2] at hfile
    cases hfile
  · rw [List.map_cons, hpaths.map_fst, List.filter_cons_of_pos hhas]

theorem cons_of_not_has (hpaths : PassedOver fs paths skipped) (hhas : fs.has path = false) :
    PassedOver fs (path :: paths) skipped := by
  refine ⟨List.forall_mem_cons.mpr ⟨fun s hpath => ?_, hpaths.not_loads⟩, ?_, hpaths.failure⟩
  · rw [hpath.1] at hhas
    cases hhas
  · rw [List.filter_cons_of_neg (by simp [hhas]), hpaths.map_fst]

end PassedOver

/-- One more path in front, from which no settings come. -/
theorem FirstLoaded.cons {skipped' : List (String × Failure)}
    (hpaths : FirstLoaded fs paths s skipped)
    (hpath : ∀ before, PassedOver fs before skipped → PassedOver fs (path :: before) skipped') :
    FirstLoaded fs (path :: paths) s skipped' := by
  cases hpaths with
  | found hpaths hbefore hfound =>
    exact .found (by rw [hpaths, List.cons_append]) (hpath _ hbefore) hfound
  | none hpaths => exact .none (hpath paths hpaths)

theorem firstLoaded_firstOf (fs : FileSystem) (paths : List String) :
    FirstLoaded fs paths (firstOf fs paths).1 (firstOf fs paths).2 := by
  induction paths with
  | nil => exact .none (passedOver_nil fs)
  | cons path paths ih =>
    cases hhas : fs.has path with
    | false =>
      rw [firstOf_cons_of_not_has hhas]
      exact ih.cons fun before hbefore => hbefore.cons_of_not_has hhas
    | true =>
      cases hfile : ofFile fs path with
      | ok s =>
        rw [firstOf_cons_of_loads ⟨hhas, hfile⟩]
        have hsplit : path :: paths = [] ++ path :: paths := rfl
        exact .found hsplit (passedOver_nil fs) ⟨hhas, hfile⟩
      | error e =>
        rw [firstOf_cons_of_error hhas hfile]
        exact ih.cons fun before hbefore => hbefore.cons_of_error hhas hfile

/-- Files that are passed over make no difference to the settings that come from behind them. -/
theorem PassedOver.firstOf_append (hbefore : PassedOver fs before skipped) (paths : List String) :
    firstOf fs (before ++ paths) = ((firstOf fs paths).1, skipped ++ (firstOf fs paths).2) := by
  induction before generalizing skipped with
  | nil =>
    obtain rfl : skipped = [] := List.map_eq_nil_iff.mp hbefore.map_fst
    rfl
  | cons path before ih =>
    obtain ⟨hnot, hmap, hfailure⟩ := hbefore
    have hrest := (List.forall_mem_cons.mp hnot).2
    rw [List.cons_append]
    cases hhas : fs.has path with
    | false =>
      rw [List.filter_cons_of_neg (by simp [hhas])] at hmap
      rw [firstOf_cons_of_not_has hhas, ih ⟨hrest, hmap, hfailure⟩]
    | true =>
      rw [List.filter_cons_of_pos hhas] at hmap
      obtain ⟨⟨q, e⟩, skipped, rfl, rfl, htail⟩ := List.map_eq_cons_iff.mp hmap
      obtain ⟨hfile, hfailure⟩ := List.forall_mem_cons.mp hfailure
      rw [firstOf_cons_of_error hhas hfile, ih ⟨hrest, htail, hfailure⟩]
      rfl

theorem FirstLoaded.firstOf_eq (hpaths : FirstLoaded fs paths s skipped) :
    firstOf fs paths = (s, skipped) := by
  cases hpaths with
  | found hpaths hbefore hpath =>
    rw [hpaths, hbefore.firstOf_append, firstOf_cons_of_loads hpath, List.append_nil]
  | none hpaths =>
    have hall := hpaths.firstOf_append []
    rwa [List.append_nil, firstOf, List.append_nil] at hall

theorem exists_passedOver (hpaths : ∀ path ∈ paths, ∀ s, ¬ Loads fs path s) :
    ∃ skipped, PassedOver fs paths skipped := by
  have hloaded := firstLoaded_firstOf fs paths
  generalize (firstOf fs paths).1 = s, (firstOf fs paths).2 = skipped at hloaded
  cases hloaded with
  | found hsplit _ hpath =>
    exact absurd hpath (hpaths _ (hsplit ▸ List.mem_append_right _ List.mem_cons_self) _)
  | none hpaths => exact ⟨_, hpaths⟩

/-! ### What is loaded -/

theorem load_none_eq_iff :
    load fs h none = .ok (s, skipped) ↔ FirstLoaded fs (usualPaths h) s skipped := by
  rw [load, Except.ok.injEq]
  constructor
  · intro hfirst
    have hloaded := firstLoaded_firstOf fs (usualPaths h)
    rwa [hfirst] at hloaded
  · exact FirstLoaded.firstOf_eq

/-- What comes of a file that is given: its settings, or why there are none. -/
inductive Given (fs : FileSystem) (path : String) :
    Except Failure (Settings × List (String × Failure)) → Prop where
  | loaded {s : Settings} (hpath : Loads fs path s) : Given fs path (.ok (s, []))
  | missing (hhas : fs.has path = false) : Given fs path (.error (.missing path))
  | spoiled {e : Failure} (hhas : fs.has path = true) (hfile : ofFile fs path = .error e) :
    Given fs path (.error (.settings (path ++ ": " ++ e.message)))

theorem given_load (fs : FileSystem) (h : Homes) (path : String) :
    Given fs path (load fs h (some path)) := by
  rw [load]
  cases hhas : fs.has path with
  | false => exact .missing hhas
  | true =>
    rw [Bool.not_true, if_neg Bool.false_ne_true]
    cases hfile : ofFile fs path with
    | ok s => exact .loaded ⟨hhas, hfile⟩
    | error e => exact .spoiled hhas hfile

/-- Without a file that is given loading never fails and gives the settings of the first usual path
that has any: whatever is found behind it, and whatever is found before it that is no file of
settings. With a file it gives the settings of that one or fails, whatever else is found. -/
theorem load_firstLoaded (fs : FileSystem) (h : Homes) :
    (∃ s skipped, load fs h none = .ok (s, skipped)) ∧
    (∀ s skipped, load fs h none = .ok (s, skipped) ↔
      FirstLoaded fs (usualPaths h) s skipped) ∧
    (∀ before path after s, usualPaths h = before ++ path :: after → Loads fs path s →
      ∀ fs', (∀ q ∈ before, ∀ s', ¬ Loads fs' q s') → fs'.find path = fs.find path →
        ∃ skipped, load fs' h none = .ok (s, skipped)) ∧
    ∀ path, Given fs path (load fs h (some path)) ∧
      ∀ fs' h', fs'.find path = fs.find path → load fs' h' (some path) = load fs h (some path) := by
  refine ⟨⟨_, _, rfl⟩, fun s skipped => load_none_eq_iff, ?_,
    fun path => ⟨given_load fs h path, ?_⟩⟩
  · intro before path after s hpaths hpath fs' hbefore hfind
    obtain ⟨skipped, hpassed⟩ := exists_passedOver hbefore
    exact ⟨skipped, load_none_eq_iff.mpr (.found hpaths hpassed (hpath.of_find_eq hfind))⟩
  · intro fs' h' hfind
    rw [load, load, has_of_find_eq hfind, ofFile_of_find_eq hfind]

/-- Two usual files with settings, behind one that cannot be read. -/
def crowded : FileSystem :=
  ⟨[], [([".modeldoc.yaml"], .file "output: here\n".toUTF8),
    ([".modeldoc.yml"], .file "default_format: csv\n".toUTF8),
    ([".modeldoc.json"], .file "\x7b\"default_format\": \"json\"\x7d".toUTF8)]⟩

/-- One of them is left, and something else is where the first was. -/
def cleared : FileSystem :=
  ⟨[], [([".modeldoc.yaml"], .directory),
    ([".modeldoc.yml"], .file "default_format: csv\n".toUTF8)]⟩

theorem load_crowded :
    Loads crowded ".modeldoc.yml" { format := some .csv } ∧
    (∀ fs ∈ [crowded, cleared], ∀ s, ¬ Loads fs ".modeldoc.yaml" s) ∧
    cleared.find ".modeldoc.yml" = crowded.find ".modeldoc.yml" ∧
    (∃ skipped, load crowded ⟨none, none⟩ none = .ok ({ format := some .csv }, skipped)) ∧
    ∃ skipped, load cleared ⟨none, none⟩ none = .ok ({ format := some .csv }, skipped) := by
  have hloads : Loads crowded ".modeldoc.yml" { format := some .csv } :=
    ⟨by decide +kernel, by decide +kernel⟩
  have hnot : ∀ fs ∈ [crowded, cleared], ∀ s, ¬ Loads fs ".modeldoc.yaml" s := by
    have hfaults : ∀ fs ∈ [crowded, cleared], (ofFile fs ".modeldoc.yaml").isOk = false := by
      decide +kernel
    rintro fs hfs s ⟨-, hfile⟩
    have hfault := hfaults fs hfs
    rw [hfile] at hfault
    cases hfault
  have hfind : cleared.find ".modeldoc.yml" = crowded.find ".modeldoc.yml" := rfl
  have hfirst := (load_firstLoaded crowded ⟨none, none⟩).2.2.1 [".modeldoc.yaml"] ".modeldoc.yml"
    [".modeldoc.json", ".modeldoc.toml"] _ rfl hloads
  refine ⟨hloads, hnot, hfind, hfirst crowded ?_ rfl, hfirst cleared ?_ hfind⟩
  · exact List.forall_mem_singleton.mpr (hnot crowded List.mem_cons_self)
  · exact List.forall_mem_singleton.mpr
      (hnot cleared (List.mem_cons_of_mem _ List.mem_cons_self))

end TypeDocs.Settings
