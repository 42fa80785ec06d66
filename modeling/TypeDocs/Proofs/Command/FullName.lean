import Mathlib.Data.List.Find
import TypeDocs.Proofs.Command.Selection

/-!
# Selecting by full names

Names and full names are asked for alike. So a type is selected by its full name unless one before
it has that as its name, and all types are selected by their full names just when no name is the
full name of a type behind.
-/

namespace TypeDocs.Command

/-- A type before another has the full name of that as its name. -/
def Hidden (available : List TypeDescription) (t : TypeDescription) : Prop :=
  ∃ before after, available = before ++ t :: after ∧ ∃ u ∈ before, u.name = t.fullName

variable {available before after selected : List TypeDescription} {requested : List String}
  {t u : TypeDescription}

theorem selectTypes_eq_ok_iff (kind : String) :
    selectTypes kind available requested = .ok selected ↔ Selects available requested selected := by
  obtain ⟨ts, hok, hts⟩ | ⟨name, herror, hname⟩ := selectTypes_cases kind available requested
  · rw [hok]
    constructor
    · intro h
      cases h
      exact hts
    · intro h
      rw [hts.unique h]
  · rw [herror]
    refine ⟨nofun, fun h => ?_⟩
    exact absurd hname.find?_eq_none (h.find?_ne_none hname.mem)

theorem selects_singleton_iff {name : String} :
    Selects available [name] [t] ↔ available.find? (isNamed name) = some t := by
  rw [Selects, if_neg (List.cons_ne_nil _ _), List.forall₂_cons]
  exact and_iff_left .nil

theorem selects_map_fullName_iff :
    Selects available (available.map (·.fullName)) available ↔
      ∀ t ∈ available, available.find? (isNamed t.fullName) = some t := by
  rw [Selects, List.forall₂_map_left_iff, List.forall₂_same]
  split
  · next hnone =>
    rw [List.map_eq_nil_iff.mp hnone]
    exact ⟨fun _ => List.forall_mem_nil _, fun _ => rfl⟩
  · rfl

theorem isNamed_fullName (t : TypeDescription) : isNamed t.fullName t = true := by
  simp [isNamed]

/-- Of the types before another none has its full name, so each is only taken for it by its own
name. -/
theorem find?_fullName (h : (available.map (·.fullName)).Nodup)
    (hsplit : available = before ++ t :: after) :
    available.find? (isNamed t.fullName) =
      (before.find? fun u => u.name == t.fullName).or (some t) := by
  have hbefore : before.find? (isNamed t.fullName) =
      before.find? fun u => u.name == t.fullName := by
    refine List.find?_congr fun u hu => ?_
    have hne : u.fullName ≠ t.fullName := by
      rw [hsplit, List.map_append, List.map_cons, List.nodup_append] at h
      exact h.2.2 _ (List.mem_map_of_mem hu) _ List.mem_cons_self
    simp [isNamed, hne]
  rw [hsplit, List.find?_append, hbefore, List.find?_cons_of_pos (isNamed_fullName t)]

theorem find?_of_not_hidden (h : (available.map (·.fullName)).Nodup) (ht : t ∈ available)
    (hshown : ¬ Hidden available t) : available.find? (isNamed t.fullName) = some t := by
  obtain ⟨before, after, hsplit⟩ := List.append_of_mem ht
  have hnone : (before.find? fun u => u.name == t.fullName) = none := by
    refine List.find?_eq_none.mpr fun u hu hname => hshown ?_
    exact ⟨before, after, hsplit, u, hu, beq_iff_eq.mp hname⟩
  rw [find?_fullName h hsplit, hnone, Option.none_or]

/-- For a type that is hidden the first one with its full name as the name is taken. -/
theorem exists_find?_of_hidden (h : (available.map (·.fullName)).Nodup)
    (hhidden : Hidden available t) :
    ∃ u, available.find? (fun u => u.name == t.fullName) = some u ∧ u ≠ t ∧
      available.find? (isNamed t.fullName) = some u := by
  obtain ⟨before, after, hsplit, v, hv, hname⟩ := hhidden
  obtain ⟨u, hu⟩ : ∃ u, (before.find? fun u => u.name == t.fullName) = some u := by
    rw [← Option.isSome_iff_exists, List.find?_isSome]
    exact ⟨v, hv, beq_iff_eq.mpr hname⟩
  refine ⟨u, ?_, ?_, ?_⟩
  · rw [hsplit, List.find?_append, hu, Option.some_or]
  · rintro rfl
    rw [hsplit, List.map_append, List.map_cons, List.nodup_append] at h
    exact h.2.2 _ (List.mem_map_of_mem (List.mem_of_find?_eq_some hu)) _ List.mem_cons_self rfl
  · rw [find?_fullName h hsplit, hu, Option.some_or]

theorem find?_fullName_iff (h : (available.map (·.fullName)).Nodup) (ht : t ∈ available) :
    available.find? (isNamed t.fullName) = some t ↔ ¬ Hidden available t := by
  refine ⟨fun hfound hhidden => ?_, find?_of_not_hidden h ht⟩
  obtain ⟨u, -, hne, hu⟩ := exists_find?_of_hidden h hhidden
  rw [hu] at hfound
  exact hne (Option.some.inj hfound)

/-- Where all full names are different, a type is selected by its full name unless it is hidden, and
then the first type with that as its name is selected in its place. By all full names in order all
types are selected just when none is hidden. -/
theorem selectTypes_fullName (h : (available.map (·.fullName)).Nodup) (kind : String) :
    (∀ t ∈ available,
      (selectTypes kind available [t.fullName] = .ok [t] ↔ ¬ Hidden available t) ∧
      (Hidden available t → ∃ u, available.find? (fun u => u.name == t.fullName) = some u ∧
        u ≠ t ∧ selectTypes kind available [t.fullName] = .ok [u])) ∧
    (selectTypes kind available (available.map (·.fullName)) = .ok available ↔
      ∀ t ∈ available, ¬ Hidden available t) := by
  refine ⟨fun t ht => ⟨?_, fun hhidden => ?_⟩, ?_⟩
  · rw [selectTypes_eq_ok_iff, selects_singleton_iff, find?_fullName_iff h ht]
  · obtain ⟨u, hu, hne, hfound⟩ := exists_find?_of_hidden h hhidden
    exact ⟨u, hu, hne, (selectTypes_eq_ok_iff kind).mpr (selects_singleton_iff.mpr hfound)⟩
  · rw [selectTypes_eq_ok_iff, selects_map_fullName_iff]
    exact forall₂_congr fun t ht => find?_fullName_iff h ht

def qualified : TypeDescription := { name := "X", fullName := "N.X" }

/-- A type without a full name of its own. -/
def plain : TypeDescription := { name := "X" }

theorem plain_hidden :
    ([qualified, plain].map (·.fullName)).Nodup ∧
      ¬ Hidden [qualified, plain] qualified ∧ Hidden [qualified, plain] plain ∧
      (∃ u, u ≠ plain ∧ selectTypes "model" [qualified, plain] ["X"] = .ok [u]) ∧
      selectTypes "model" [plain, qualified] ["X", "N.X"] = .ok [plain, qualified] := by
  have hnames : ([qualified, plain].map (·.fullName)).Nodup := by decide
  have hnames' : ([plain, qualified].map (·.fullName)).Nodup := by decide
  have hhidden : Hidden [qualified, plain] plain :=
    ⟨[qualified], [], rfl, qualified, List.mem_singleton_self _, rfl⟩
  obtain ⟨hone, -⟩ := selectTypes_fullName hnames "model"
  obtain ⟨hone', hall⟩ := selectTypes_fullName hnames' "model"
  obtain ⟨u, -, hne, hu⟩ :=
    (hone plain (List.mem_cons_of_mem _ (List.mem_singleton_self _))).2 hhidden
  refine ⟨hnames, (hone qualified List.mem_cons_self).1.mp rfl, hhidden, ⟨u, hne, hu⟩, ?_⟩
  refine hall.mpr fun t ht => (hone' t ht).1.mp ?_
  rcases List.mem_cons.mp ht with rfl | ht
  · rfl
  · rw [List.mem_singleton.mp ht]
    rfl

/-- The second type cannot be selected by its full name, though no other has it. -/
theorem plain_not_selected :
    ([qualified, plain].map (·.fullName)).Nodup ∧ plain ∈ [qualified, plain] ∧
      selectTypes "model" [qualified, plain] [plain.fullName] ≠ .ok [plain] ∧
      selectTypes "model" [qualified, plain] ([qualified, plain].map (·.fullName)) ≠
        .ok [qualified, plain] := by
  have hne : qualified ≠ plain := fun h => absurd (congrArg (·.fullName) h) (by decide)
  refine ⟨by decide, List.mem_cons_of_mem _ (List.mem_singleton_self _), fun h => ?_, fun h => ?_⟩
  · have hselected : Except.ok (ε := Failure) [qualified] = .ok [plain] := h
    exact hne (List.cons.inj (Except.ok.inj hselected)).1
  · have hselected : Except.ok (ε := Failure) [qualified, qualified] = .ok [qualified, plain] := h
    exact hne (List.cons.inj (List.cons.inj (Except.ok.inj hselected)).2).1

end TypeDocs.Command
