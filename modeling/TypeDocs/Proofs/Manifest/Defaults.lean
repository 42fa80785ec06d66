import TypeDocs.Descriptor.Model
import TypeDocs.Manifest.Describe
import TypeDocs.Proofs.Json.Keys
import TypeDocs.Proofs.SampleValue

/-!
# Declared defaults

The row of a visible property of a model shows the marker when the property declares no default or
the model has no sample. Otherwise it shows the default that the last property of its name
declares, which may be hidden. That is its own default if no two properties of one name declare
one.
-/

namespace TypeDocs.Manifest

/-- The properties that documentation shows. -/
def ModelEntry.visible (e : ModelEntry) : List PropertyEntry :=
  e.properties.filter fun p => p.isPublic && !p.isStatic

theorem properties_describeModel (e : ModelEntry) (docs : Documentation) :
    (e.describe.describeModel docs).properties =
      e.visible.map fun p => p.describe.describe e.describe docs := by
  have hvisible : e.describe.visibleProperties = e.visible.map PropertyEntry.describe := by
    rw [TypeDescription.visibleProperties, ModelEntry.describe, List.filter_map]
    rfl
  rw [TypeDescription.describeModel, hvisible, List.map_map]
  rfl

section LastDefault

variable {ps qs : List PropertyEntry} {p : PropertyEntry} {name : String}

/-- The last default that is declared under a name. -/
def lastDefault? (ps : List PropertyEntry) (name : String) : Option Json :=
  ((ps.filter fun p => p.name == name).filterMap PropertyEntry.default).getLast?

theorem lastDefault?_append :
    lastDefault? (ps ++ qs) name = (lastDefault? qs name).or (lastDefault? ps name) := by
  rw [lastDefault?, List.filter_append, List.filterMap_append, List.getLast?_append]
  rfl

theorem lastDefault?_singleton :
    lastDefault? [p] name = if p.name == name then p.default else none := by
  rw [lastDefault?, List.filter_cons, List.filter_nil]
  split
  · cases h : p.default <;> simp [h]
  · rfl

theorem lastDefault?_cons :
    lastDefault? (p :: ps) name =
      (lastDefault? ps name).or (if p.name == name then p.default else none) := by
  rw [← List.singleton_append, lastDefault?_append, lastDefault?_singleton]

theorem lastDefault?_eq_none_iff :
    lastDefault? ps name = none ↔ ∀ p ∈ ps, p.name = name → p.default = none := by
  rw [lastDefault?, List.getLast?_eq_none_iff, List.filterMap_eq_nil_iff]
  simp

/-- An entry of another name, and one without a default, may as well not be there. -/
theorem lastDefault?_middle {before after : List PropertyEntry}
    (h : p.name ≠ name ∨ p.default = none) :
    lastDefault? (before ++ p :: after) name = lastDefault? (before ++ after) name := by
  have hnone : lastDefault? [p] name = none := by
    rw [lastDefault?_eq_none_iff]
    rintro q hq hname
    rw [List.mem_singleton] at hq
    subst hq
    exact h.resolve_left (not_not_intro hname)
  rw [← List.singleton_append, lastDefault?_append, lastDefault?_append, hnone, Option.or_none,
    lastDefault?_append]

theorem isSome_lastDefault? (hp : p ∈ ps) (hdefault : p.default.isSome) :
    (lastDefault? ps p.name).isSome := by
  rw [Option.isSome_iff_ne_none]
  intro h
  rw [lastDefault?_eq_none_iff.mp h p hp rfl] at hdefault
  exact absurd hdefault (by decide)

theorem lastDefault?_of_nodup (h : ((ps.filter (·.default.isSome)).map PropertyEntry.name).Nodup)
    (hp : p ∈ ps) (hdefault : p.default.isSome) : lastDefault? ps p.name = p.default := by
  obtain ⟨before, after, rfl⟩ := List.append_of_mem hp
  have hafter : lastDefault? after p.name = none := by
    rw [lastDefault?_eq_none_iff]
    intro q hq hname
    rw [List.filter_append, List.map_append, List.filter_cons, if_pos hdefault, List.map_cons] at h
    have hnot := (List.nodup_cons.mp (List.nodup_append.mp h).2.1).1
    cases hdeclared : q.default with
    | none => rfl
    | some j =>
      refine absurd (List.mem_map.mpr ⟨q, List.mem_filter.mpr ⟨hq, ?_⟩, hname⟩) hnot
      rw [hdeclared, Option.isSome_some]
  obtain ⟨j, hj⟩ := Option.isSome_iff_exists.mp hdefault
  rw [lastDefault?_append, lastDefault?_cons, hafter, Option.none_or, if_pos (beq_self_eq_true _),
    hj, Option.some_or]

/-- What a getter finds on the sample of a model. -/
theorem lookup_declared (ps : List PropertyEntry) (name : String) :
    (distinct (declared ps)).lookup name = (lastDefault? ps name).map SampleValue.ofJson := by
  rw [lookup_distinct]
  induction ps with
  | nil => rfl
  | cons p ps ih =>
    have hhead : declared (p :: ps) = declared [p] ++ declared ps :=
      List.filterMap_append (l := [p])
    have hone : (declared [p]).reverse.lookup name =
        (if p.name == name then p.default else none).map SampleValue.ofJson := by
      cases hdefault : p.default with
      | none => simp [declared, hdefault]
      | some j =>
        simp only [declared, List.filterMap_cons, List.filterMap_nil, hdefault, Option.map_some,
          List.reverse_singleton, List.lookup_cons, List.lookup_nil]
        rw [BEq.comm (a := name)]
        cases p.name == name <;> rfl
    rw [hhead, List.reverse_append, List.lookup_append, ih, hone, lastDefault?_cons,
      Option.map_or]

end LastDefault

/-- A declared default, or the marker for a missing one. -/
def shown : Option Json → String
  | some j => (SampleValue.ofJson j).render
  | none => Text.missing

theorem shown_ne_missing {d : Option Json} (h : d.isSome) : shown d ≠ Text.missing := by
  obtain ⟨j, rfl⟩ := Option.isSome_iff_exists.mp h
  exact SampleValue.render_ofJson_ne_missing j

theorem endsSolid_shown (d : Option Json) : Text.EndsSolid (shown d).toList := by
  cases d with
  | some j => exact SampleValue.endsSolid_render_ofJson j
  | none => exact ⟨'-', by decide⟩

namespace ModelEntry

/-- What a property itself declares. -/
def ownDefault (e : ModelEntry) (p : PropertyEntry) : String :=
  if e.constructible then shown p.default else Text.missing

/-- What is declared under the name of a property that declares something. -/
def sharedDefault (e : ModelEntry) (p : PropertyEntry) : String :=
  if e.constructible && p.default.isSome then shown (lastDefault? e.properties p.name)
  else Text.missing

theorem defaultValue_describe (e : ModelEntry) (p : PropertyEntry) :
    e.describe.defaultValue p.describe = e.sharedDefault p := by
  rw [sharedDefault, TypeDescription.defaultValue]
  simp only [describe, PropertyEntry.describe]
  cases e.constructible with
  | false => rfl
  | true =>
    cases p.default with
    | none => rfl
    | some j =>
      simp only [if_true, Option.map_some, Getter.field, beq_self_eq_true, lookup_declared,
        Option.isSome_some, Bool.and_self]
      cases lastDefault? e.properties p.name <;> rfl

theorem sharedDefault_eq_ownDefault_iff (e : ModelEntry) (p : PropertyEntry) :
    e.sharedDefault p = e.ownDefault p ↔ (e.constructible → p.default.isSome →
      shown (lastDefault? e.properties p.name) = shown p.default) := by
  rw [sharedDefault, ownDefault]
  cases e.constructible <;> cases p.default <;> simp [shown]

/-- No row ends with white space. -/
theorem endsSolid_defaultValue (e : ModelEntry) (p : PropertyEntry) :
    Text.EndsSolid (e.describe.defaultValue p.describe).toList := by
  rw [defaultValue_describe, sharedDefault]
  split
  · exact endsSolid_shown _
  · exact endsSolid_shown none

end ModelEntry

/-- A declared default is shown as something on every model that has a sample. -/
theorem defaultValue_ne_missing {e : ModelEntry} {p : PropertyEntry}
    (he : e.constructible) (hp : p ∈ e.properties) (hdefault : p.default.isSome) :
    e.describe.defaultValue p.describe ≠ Text.missing := by
  rw [e.defaultValue_describe, ModelEntry.sharedDefault, he, hdefault]
  exact shown_ne_missing (isSome_lastDefault? hp hdefault)

theorem defaultValue_of_undeclared (e : ModelEntry) {p : PropertyEntry} (h : p.default = none) :
    e.describe.defaultValue p.describe = Text.missing := by
  rw [e.defaultValue_describe, ModelEntry.sharedDefault, h]
  simp

section Rows

theorem map_defaultValue_describeModel (e : ModelEntry) (docs : Documentation) :
    (e.describe.describeModel docs).properties.map PropertyDescriptor.defaultValue =
      e.visible.map e.sharedDefault := by
  rw [properties_describeModel, List.map_map]
  exact List.map_congr_left fun p _ => e.defaultValue_describe p

/-- The rows of a model are its visible properties in order, each with the last default that is
declared under its name. They show the properties' own defaults just when the last default of the
name of each that declares one shows the same as its own, so always when no two properties of one
name declare one. No property of another name, and none without a default, has a part in it. -/
theorem defaults_of_rows (e : ModelEntry) (docs : Documentation) :
    (e.describe.describeModel docs).properties =
      e.visible.map (fun p => p.describe.describe e.describe docs) ∧
    (e.describe.describeModel docs).properties.map PropertyDescriptor.defaultValue =
      e.visible.map e.sharedDefault ∧
    ((e.describe.describeModel docs).properties.map PropertyDescriptor.defaultValue =
        e.visible.map e.ownDefault ↔
      (e.constructible → ∀ p ∈ e.visible, p.default.isSome →
        shown (lastDefault? e.properties p.name) = shown p.default)) ∧
    (((e.properties.filter (·.default.isSome)).map PropertyEntry.name).Nodup →
      (e.describe.describeModel docs).properties.map PropertyDescriptor.defaultValue =
        e.visible.map e.ownDefault) ∧
    ∀ before q after, e.properties = before ++ q :: after → ∀ p : PropertyEntry,
      q.name ≠ p.name ∨ q.default = none →
        e.sharedDefault p =
          ModelEntry.sharedDefault { e with properties := before ++ after } p := by
  have howned : (e.describe.describeModel docs).properties.map PropertyDescriptor.defaultValue =
      e.visible.map e.ownDefault ↔
        (e.constructible → ∀ p ∈ e.visible, p.default.isSome →
          shown (lastDefault? e.properties p.name) = shown p.default) := by
    rw [map_defaultValue_describeModel, List.map_inj_left]
    constructor
    · intro h he p hp
      exact (e.sharedDefault_eq_ownDefault_iff p).mp (h p hp) he
    · intro h p hp
      exact (e.sharedDefault_eq_ownDefault_iff p).mpr fun he => h he p hp
  refine ⟨properties_describeModel e docs, map_defaultValue_describeModel e docs, howned, ?_, ?_⟩
  · intro hnodup
    refine howned.mpr fun _ p hp hdefault => ?_
    rw [lastDefault?_of_nodup hnodup (List.mem_filter.mp hp).1 hdefault]
  · intro before q after hsplit p hq
    rw [ModelEntry.sharedDefault, ModelEntry.sharedDefault, hsplit, lastDefault?_middle hq]

/-- A model with a visible property and a hidden one of the same name. -/
def twoOfOneName : ModelEntry where
  name := "A"
  fullName := none
  constructible := true
  attributes := []
  properties := [⟨"p", "T", [], some (.text "a"), true, false⟩,
    ⟨"p", "T", [], some (.text "b"), true, true⟩]

theorem twoOfOneName_not_own :
    (twoOfOneName.describe.describeModel .empty).properties.map PropertyDescriptor.defaultValue ≠
      twoOfOneName.visible.map twoOfOneName.ownDefault := by
  rw [map_defaultValue_describeModel]
  decide

end Rows

end TypeDocs.Manifest
