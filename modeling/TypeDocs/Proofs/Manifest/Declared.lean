import TypeDocs.Manifest.Load
import TypeDocs.Proofs.Json.Finite
import TypeDocs.Proofs.Yaml.Finite

/-!
# What the text of a manifest declares

A property declares a default just when there is something in the place of one, and null when null
stands there. No default is a number that has no text.
-/

namespace TypeDocs.Manifest

/-- What stands in the place of a default: under the first key of its name in a table, or behind
the name, the type and the attributes in a list. -/
def writtenDefault (o : Outline) : Option Outline :=
  match o.unmarked with
  | .table entries _ => (entries.find? fun e => e.1.asText.toOption == some "default").map Prod.snd
  | .list items _ => items[3]?
  | _ => none

section Owned

variable {α γ : Type} {x : Except Fault γ} {a b : α} {u : γ → α}

/-- What a field is filled with is all that changes. -/
theorem kept_of_fill {β : Type} {get : α → β} (h : (do return u (← x)) = Except.ok b)
    (hu : ∀ c, get (u c) = get a) : get b = get a := by
  obtain ⟨c, -, h⟩ := exists_of_bind_eq_ok h
  exact Except.ok.inj h ▸ hu c

theorem owns_default :
    propertyRecord.Owns 3 (fun o => o.asJson.map some) PropertyEntry.default where
  lt := by decide
  filled f hf o a b h := by
    cases hf
    obtain ⟨j, hj, h⟩ := exists_of_bind_eq_ok h
    cases h
    exact congrArg (Except.map some) hj
  kept := by
    have hothers : propertyRecord.fields.eraseIdx 3 = [_, _, _, _, _] := rfl
    simp only [hothers, List.forall_mem_cons]
    refine ⟨?_, ?_, ?_, ?_, ?_, List.forall_mem_nil _⟩
    all_goals exact fun o a b h => kept_of_fill h fun _ => rfl

variable (d : Dialect)

theorem owns_properties :
    (modelRecord d).Owns 4 (Outline.asList (propertyRecord.read d)) ModelEntry.properties where
  lt := Nat.lt_succ_self 4
  filled f hf o a b h := by
    cases hf
    obtain ⟨ps, hps, h⟩ := exists_of_bind_eq_ok h
    cases h
    exact hps
  kept := by
    have hothers : (modelRecord d).fields.eraseIdx 4 = [_, _, _, _] := rfl
    simp only [hothers, List.forall_mem_cons]
    refine ⟨?_, ?_, ?_, ?_, List.forall_mem_nil _⟩
    all_goals exact fun o a b h => kept_of_fill h fun _ => rfl

theorem owns_models :
    (record d).Owns 0 (Outline.asList ((modelRecord d).read d)) Manifest.models where
  lt := Nat.zero_lt_two
  filled f hf o a b h := by
    cases hf
    obtain ⟨es, hes, h⟩ := exists_of_bind_eq_ok h
    cases h
    exact hes
  kept := by
    have hothers : (record d).fields.eraseIdx 0 = [_] := rfl
    simp only [hothers, List.forall_mem_cons]
    exact ⟨fun o a b h => kept_of_fill h fun _ => rfl, List.forall_mem_nil _⟩

end Owned

variable {d : Dialect} {o : Outline}

section Default

variable {p : PropertyEntry}

theorem findIdx?_default (name : String) :
    (propertyRecord.fields.findIdx? (·.names.contains name) == some 3) = (name == "default") := by
  by_cases hname : name = "default"
  · subst hname
    rfl
  · rw [beq_false_of_ne hname, beq_eq_false_iff_ne, ne_eq, List.findIdx?_eq_some_iff_getElem]
    rintro ⟨_, hnames, -⟩
    have hlisted : ["default"].contains name = true := hnames
    exact hname (by simpa using hlisted)

/-- The index of a default is no key. -/
theorem namesField_default (hd : d.numberedFields = false) (key : Outline) :
    propertyRecord.namesField d 3 key = (key.asText.toOption == some "default") := by
  unfold Record.namesField Record.index? Outline.asText Outline.asTextFor
  generalize key.unmarked = o
  obtain ⟨f, hf⟩ := o.exists_refuse_eq .text
  cases o with
  | leaf l =>
    obtain ⟨f, hf⟩ := l.exists_refuse_eq .text
    dsimp only
    cases l.text with
    | some name => exact findIdx?_default name
    | none =>
      -- no whole number is read as an index
      simp only [hd, Bool.false_and, Bool.false_eq_true, if_false, hf]
      cases l.found with
      | number n => cases n <;> rfl
      | _ => rfl
  | _ =>
    simp only [hf]
    rfl

theorem part?_default (hd : d.numberedFields = false) (o : Outline) :
    propertyRecord.part? d 3 o = writtenDefault o := by
  unfold Record.part? writtenDefault
  cases o.unmarked with
  | table entries stop => simp only [namesField_default hd]
  | _ => rfl

/-- A property declares what is read from the place of its default, and nothing if nothing stands
there. -/
theorem default_of_read (hd : d.numberedFields = false) (h : propertyRecord.read d o = .ok p) :
    (writtenDefault o).mapM Outline.asJson = .ok p.default := by
  have hread := owns_default.of_read h
  rw [part?_default hd] at hread
  cases hwritten : writtenDefault o with
  | none =>
    rw [hwritten] at hread
    exact congrArg Except.ok hread.symm
  | some v =>
    rw [hwritten] at hread
    exact hread

end Default

section Finite

theorem default_finite {p : PropertyEntry} (ho : o.Finite) (h : propertyRecord.read d o = .ok p) :
    ∀ j ∈ p.default, j.Finite := by
  rcases ho.blank_or_read owns_default h with hblank | ⟨part, hpart, hread⟩
  · rw [hblank]
    exact fun j hj => by cases hj
  · obtain ⟨j, hj, hdefault⟩ := exists_of_map_eq_ok (x := part.asJson) hread
    rw [← hdefault]
    rintro _ ⟨⟩
    exact hpart.asJson hj

/-- What is in a list that a record was read to hold was read from a part of the outline. -/
theorem exists_of_mem_owned {α β : Type} {r : Record α} {i : ℕ} {read : Outline → Except Fault β}
    {get : α → List β} {a : α} {c : β} (hr : r.Owns i (Outline.asList read) get)
    (hblank : get r.blank = []) (ho : o.Finite) (h : r.read d o = .ok a) (hc : c ∈ get a) :
    ∃ item : Outline, item.Finite ∧ read item = .ok c := by
  rcases ho.blank_or_read hr h with hget | ⟨part, hpart, hread⟩
  · rw [hget, hblank] at hc
    cases hc
  · exact hpart.asList hread hc

/-- The defaults of a manifest are free of numbers that have no text. -/
def FiniteDefaults (m : Manifest) : Prop :=
  ∀ e ∈ m.models, ∀ p ∈ e.properties, ∀ j ∈ p.default, j.Finite

theorem finiteDefaults_of_decode {m : Manifest} (ho : o.Finite) (h : decode d o = .ok m) :
    FiniteDefaults m := by
  intro e he p hp
  obtain ⟨model, hmodel, hread⟩ := exists_of_mem_owned (owns_models d) rfl ho h he
  obtain ⟨property, hproperty, hread⟩ :=
    exists_of_mem_owned (owns_properties d) rfl hmodel hread hp
  exact default_finite hproperty hread

theorem finiteDefaults_ofJson {s : String} {m : Manifest} (h : ofJson s = .ok m) :
    FiniteDefaults m := by
  obtain ⟨a, hread, hafter⟩ := exists_of_bind_eq_ok h
  exact finiteDefaults_of_decode (Json.outline_finite s) (Outline.eq_of_orStop_eq_ok hafter ▸ hread)

theorem finiteDefaults_ofYaml {s : String} {m : Manifest} (h : ofYaml s = .ok m) :
    FiniteDefaults m := by
  obtain ⟨o, ho, hread⟩ := exists_of_bind_eq_ok h
  cases houtline : Yaml.outline s with
  | error e =>
    rw [houtline] at ho
    cases ho
  | ok o' =>
    rw [houtline] at ho
    cases ho
    exact finiteDefaults_of_decode (Yaml.outline_finite houtline) hread

end Finite

end TypeDocs.Manifest
