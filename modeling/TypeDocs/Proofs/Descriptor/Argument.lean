import TypeDocs.Proofs.Descriptor.Blank
import TypeDocs.Proofs.Descriptor.Fields

/-!
# Arguments that stand in

A lookup asks an attribute for the argument of a name, and for the first argument where none has
that name. But the first argument is taken too where the one of the name is there and its value is
not known: then it stands in for another. A lookup finds what is declared just when nothing stands
in.
-/

namespace TypeDocs

open Text

namespace Attribute

/-- The value of the argument of a name, or of the first argument where none has the name. -/
def declared? (a : Attribute) (name : String) : Option String :=
  match a.argument? name with
  | some arg => arg.value
  | none => a.firstValue?

/-- The value of the argument of a name is not known, and the first argument, so another one,
says `s`. -/
def StandsIn (a : Attribute) (name s : String) : Prop :=
  (∃ arg, a.argument? name = some arg ∧ arg.value = none) ∧ nonBlank a.firstValue? = some s

variable {a : Attribute} {name s : String}

theorem declared?_of_argument? {arg : Argument} (h : a.argument? name = some arg) :
    a.declared? name = arg.value := by
  rw [declared?, h]

theorem declared?_of_argument?_none (h : a.argument? name = none) :
    a.declared? name = a.firstValue? := by
  rw [declared?, h]

theorem nonBlank_of_standsIn (h : a.StandsIn name s) :
    nonBlank ((a.value? name).or a.firstValue?) = some s ∧ a.declared? name = none := by
  obtain ⟨⟨arg, harg, hunknown⟩, hfirst⟩ := h
  have hvalue : a.value? name = none := by rw [value?, harg, Option.bind_some, hunknown]
  rw [hvalue, Option.none_or, declared?_of_argument? harg]
  exact ⟨hfirst, hunknown⟩

theorem nonBlank_of_not_standsIn (h : ∀ s, ¬ a.StandsIn name s) :
    nonBlank ((a.value? name).or a.firstValue?) = nonBlank (a.declared? name) := by
  cases harg : a.argument? name with
  | none => rw [value?, harg, Option.bind_none, Option.none_or, declared?_of_argument?_none harg]
  | some arg =>
    rw [value?, harg, Option.bind_some, declared?_of_argument? harg]
    cases hvalue : arg.value with
    | some v => rw [Option.some_or]
    | none =>
      rw [Option.none_or]
      exact Option.eq_none_iff_forall_ne_some.mpr fun s hs => h s ⟨⟨arg, harg, hvalue⟩, hs⟩

end Attribute

namespace Attributes

/-- What the first attribute of a kind declares under a name, unless that is blank. -/
def declared? (as : Attributes) (kind name : String) : Option String :=
  (as.ofKind? kind).bind fun a => nonBlank (a.declared? name)

/-- In the first attribute of a kind another argument stands in for the one of a name. -/
def StandsIn (as : Attributes) (kind name s : String) : Prop :=
  ∃ a, as.ofKind? kind = some a ∧ a.StandsIn name s

/-- What names of properties, descriptions and routes are resolved to by what is found. -/
structure ResolvesTo (as : Attributes) (found : Lookup → Option String) : Prop where
  displayName : ∀ p : Property, ({ p with attributes := as } : Property).displayName =
    (found .displayName).getD (orMissing p.name)
  describe : ∀ external, as.describe external =
    ((found .documentation).or ((found .description).or external)).elim missing orMissing
  routePrefix : ∀ t : TypeDescription,
    ({ t with attributes := as } : TypeDescription).routePrefix = (found .route).elim "" strip

/-- Where a text that is looked up is shown. -/
def Shows (as : Attributes) (s : String) : Lookup → Prop
  | .displayName => ∀ p : Property, ({ p with attributes := as } : Property).displayName = s
  | .documentation => ∀ external, as.describe external = s
  | .description => as.find .documentation = none → ∀ external, as.describe external = s
  | .route => ∀ t : TypeDescription,
    ({ t with attributes := as } : TypeDescription).routePrefix = strip s

variable {as : Attributes} {kind name s : String}

theorem value?_of_standsIn (h : as.StandsIn kind name s) :
    as.value? kind name = some s ∧ as.declared? kind name = none := by
  obtain ⟨a, ha, hstands⟩ := h
  obtain ⟨hvalue, hdeclared⟩ := Attribute.nonBlank_of_standsIn hstands
  rw [value?, declared?, ha, Option.bind_some, hdeclared]
  exact ⟨hvalue, rfl⟩

theorem value?_of_not_standsIn (h : ∀ s, ¬ as.StandsIn kind name s) :
    as.value? kind name = as.declared? kind name := by
  rw [value?, declared?]
  cases ha : as.ofKind? kind with
  | none => rfl
  | some a => exact Attribute.nonBlank_of_not_standsIn fun s hs => h s ⟨a, ha, hs⟩

theorem resolvesTo_find (as : Attributes) : as.ResolvesTo as.find := by
  refine ⟨fun p => rfl, fun external => ?_, fun t => ?_⟩
  · change _ = ((as.value? Attribute.documentationKind "summary").or
      ((as.value? Attribute.descriptionKind "description").or external)).elim missing orMissing
    rw [describe, ← Option.or_assoc]
    split <;> simp [*]
  · change _ = (as.value? Attribute.routeKind "template").elim "" strip
    rw [TypeDescription.routePrefix]
    split <;> simp [*]

theorem shows_of_find {l : Lookup} (h : as.find l = some s) : as.Shows s l := by
  have hresolves := as.resolvesTo_find
  have hshown : orMissing s = s := by
    rw [orMissing, as.isBlankText_value? h]
    rfl
  cases l with
  | displayName =>
    intro p
    rw [hresolves.displayName, h]
    rfl
  | documentation =>
    intro external
    rw [hresolves.describe, h]
    exact hshown
  | description =>
    intro hnone external
    rw [hresolves.describe, hnone, h]
    exact hshown
  | route =>
    intro t
    rw [hresolves.routePrefix, h]
    rfl

end Attributes

/-- A lookup finds what is declared just when no argument stands in, else what the one that stands
in says. Where none stands in, names, descriptions and routes are resolved to what is declared, and
wherever one stands in, its text is shown. -/
theorem lookups_find_declared (as : Attributes) :
    (∀ kind name, as.value? kind name = as.declared? kind name ↔
      ∀ s, ¬ as.StandsIn kind name s) ∧
    (∀ kind name s, as.StandsIn kind name s →
      as.value? kind name = some s ∧ as.declared? kind name = none) ∧
    ((∀ (l : Lookup) (s : String), ¬ as.StandsIn l.kind l.argument s) →
      as.ResolvesTo fun l => as.declared? l.kind l.argument) ∧
    ∀ (l : Lookup) (s : String), as.StandsIn l.kind l.argument s → as.Shows s l := by
  refine ⟨fun kind name => ⟨fun h s hs => ?_, Attributes.value?_of_not_standsIn⟩,
    fun kind name s => Attributes.value?_of_standsIn, fun h => ?_, fun l s hs => ?_⟩
  · obtain ⟨hvalue, hdeclared⟩ := Attributes.value?_of_standsIn hs
    rw [hvalue, hdeclared] at h
    cases h
  · have hfind : as.find = fun l => as.declared? l.kind l.argument := by
      funext l
      exact Attributes.value?_of_not_standsIn (h l)
    rw [← hfind]
    exact as.resolvesTo_find
  · exact Attributes.shows_of_find (Attributes.value?_of_standsIn hs).1

/-- A name that is declared and not known, behind another argument. -/
def unknownName : Attributes :=
  [⟨"DisplayName", [⟨"resource", some "x"⟩, ⟨"displayName", none⟩]⟩]

theorem unknownName_shows :
    unknownName.StandsIn Lookup.displayName.kind Lookup.displayName.argument "x" ∧
      unknownName.Shows "x" .displayName ∧
      unknownName.find .route = unknownName.declared? Lookup.route.kind Lookup.route.argument := by
  have hstands : unknownName.StandsIn Lookup.displayName.kind Lookup.displayName.argument "x" :=
    ⟨_, rfl, ⟨_, rfl, rfl⟩, rfl⟩
  have hroute (s : String) : ¬ unknownName.StandsIn Lookup.route.kind Lookup.route.argument s := by
    rintro ⟨a, ha, -⟩
    cases ha
  obtain ⟨hiff, -, -, hshows⟩ := lookups_find_declared unknownName
  exact ⟨hstands, hshows .displayName "x" hstands, (hiff _ _).mpr hroute⟩

/-- The name of the property is declared and not known, and another argument is shown for it. -/
theorem displayName_of_unknownName :
    unknownName.declared? Attribute.displayNameKind "displayName" = none ∧
      unknownName.value? Attribute.displayNameKind "displayName" = some "x" ∧
      (Property.mk "p" "T" unknownName true false none).displayName = "x" := by
  decide

end TypeDocs
