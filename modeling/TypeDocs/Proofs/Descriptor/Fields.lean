import TypeDocs.Proofs.Descriptor.Verb

/-!
# Fields of descriptors

Every field of a descriptor shows something, with one exception. The attributes of a property are
joined as they are written, and a single one with a blank kind and no known value shows as nothing.
-/

namespace TypeDocs

open Text

namespace SampleValue

theorem isBlankText_render (v : SampleValue) : isBlankText v.render = false := by
  cases v with
  | null => decide
  | text s =>
    have hquote : isBlankText "\"" = false := by decide
    rw [render, isBlankText_append, hquote, Bool.and_false]
  | flag b => cases b <;> decide
  | other s =>
    rw [render]
    split
    · decide
    · next hs => simpa using hs

end SampleValue

namespace Attribute

theorem isBlankText_render_iff (a : Attribute) :
    isBlankText a.render = true ↔
      isBlankText a.shortKind = true ∧ ∀ arg ∈ a.arguments, arg.value = none := by
  have hvalues : a.arguments.filterMap (·.value) = [] ↔
      ∀ arg ∈ a.arguments, arg.value = none := List.filterMap_eq_nil_iff
  rw [render, ← hvalues]
  cases a.arguments.filterMap (·.value) with
  | nil => simp
  | cons v vs =>
    have hshown (s t : String) : isBlankText (a.shortKind ++ "(" ++ s ++ t) = false := by
      rw [isBlankText_append, isBlankText_append_append (by decide), Bool.false_and]
    simp [hshown]

end Attribute

namespace Attributes

variable (as : Attributes)

theorem isBlankText_value? {kind name s : String} (h : as.value? kind name = some s) :
    isBlankText s = false := by
  unfold value? at h
  obtain ⟨a, -, hvalue⟩ := Option.bind_eq_some_iff.mp h
  exact isBlankText_of_nonBlank hvalue

theorem isBlankText_describe (external : Option String) :
    isBlankText (as.describe external) = false := by
  unfold describe
  dsimp only
  split
  · exact isBlankText_orMissing _
  · exact isBlankText_missing

theorem isBlankText_summary_iff :
    isBlankText as.summary = true ↔ ∃ a, as = [a] ∧ isBlankText a.shortKind = true ∧
      ∀ arg ∈ a.arguments, arg.value = none := by
  match as with
  | [] =>
    rw [summary, isBlankText_missing]
    simp
  | [a] =>
    have hone : summary [a] = a.render := rfl
    rw [hone, a.isBlankText_render_iff]
    simp
  | a :: b :: rest =>
    have hmany : isBlankText (summary (a :: b :: rest)) = false :=
      isBlankText_intercalate (by decide) a.render b.render (rest.map Attribute.render)
    rw [hmany]
    simp

end Attributes

theorem Property.isBlankText_displayName (p : Property) : isBlankText p.displayName = false := by
  rw [displayName]
  cases hvalue : p.attributes.value? Attribute.displayNameKind "displayName" with
  | some s => exact p.attributes.isBlankText_value? hvalue
  | none => exact isBlankText_orMissing _

theorem TypeDescription.isBlankText_defaultValue (t : TypeDescription) (p : Property) :
    isBlankText (t.defaultValue p) = false := by
  unfold defaultValue
  split
  · split
    · exact SampleValue.isBlankText_render _
    · exact isBlankText_missing
  · exact isBlankText_missing

namespace Method

variable (m : Method)

theorem isBlankText_verb : isBlankText m.verb = false := by
  by_cases h : m.HasVerb
  · rw [isBlankText_eq_false_iff]
    exact ⟨'H', (verb_of_hasVerb h).subset (by decide), by decide⟩
  · rw [verb_of_not_hasVerb h]
    decide

theorem isBlankText_route (controller routePrefix : String) :
    isBlankText (m.route controller routePrefix) = false := by
  have hslash (s : String) : isBlankText (Route.collapse ("/" ++ s)) = false := by
    rw [isBlankText_eq_false_iff, Route.collapse, String.toList_ofList, String.toList_append]
    exact ⟨'/', List.mem_cons_self, by decide⟩
  rw [route, Route.path, String.append_assoc, String.append_assoc]
  exact hslash _

end Method

/-- No field of a descriptor is blank but the attributes of a property, and those just when there
is a single one, of a blank kind and without a known value. -/
theorem fields_of_descriptors (t : TypeDescription) (docs : Documentation) :
    (∀ p : Property,
      isBlankText (p.describe t docs).name = false ∧
      isBlankText (p.describe t docs).type = false ∧
      isBlankText (p.describe t docs).description = false ∧
      isBlankText (p.describe t docs).defaultValue = false ∧
      (isBlankText (p.describe t docs).attributes = true ↔
        ∃ a, p.attributes = [a] ∧ isBlankText a.shortKind = true ∧
          ∀ arg ∈ a.arguments, arg.value = none)) ∧
    ∀ m : Method,
      isBlankText (m.describe t docs).verb = false ∧
      isBlankText (m.describe t docs).route = false ∧
      isBlankText (m.describe t docs).description = false ∧
      ∀ d ∈ (m.describe t docs).parameters,
        isBlankText d.name = false ∧ isBlankText d.type = false := by
  refine ⟨fun p => ⟨?_, ?_, ?_, ?_, ?_⟩, fun m => ⟨?_, ?_, ?_, ?_⟩⟩
  · exact p.isBlankText_displayName
  · exact isBlankText_orMissing _
  · exact p.attributes.isBlankText_describe _
  · exact t.isBlankText_defaultValue p
  · exact p.attributes.isBlankText_summary_iff
  · exact m.isBlankText_verb
  · exact m.isBlankText_route _ _
  · exact m.attributes.isBlankText_describe _
  · intro d hd
    obtain ⟨p, -, rfl⟩ := List.mem_map.mp hd
    exact ⟨isBlankText_orMissing _, isBlankText_orMissing _⟩

/-- A property with an attribute of which nothing is known. -/
def ofEmptyKind : Property where
  name := "p"
  type := "T"
  attributes := [.bare ""]

theorem isBlankText_attributes_ofEmptyKind :
    isBlankText
      (ofEmptyKind.describe { name := "A", properties := [ofEmptyKind] } .empty).attributes =
      true := by
  decide

end TypeDocs
