import Mathlib.Data.List.Forall2
import TypeDocs.Descriptor.Controller
import TypeDocs.Descriptor.Model

/-!
# What documentation reaches

The documentation of members is asked for a description and for nothing else, and is heard only
where no attribute gives one. So the descriptors of a type are the same with any two documentations
but for such descriptions, and wholly the same when both answer alike for the members of the type.
-/

namespace TypeDocs

namespace Attributes

variable (as : Attributes)

/-- Whether no attribute gives a description. -/
def Undescribed : Prop :=
  as.value? Attribute.documentationKind "summary" = none ∧
    as.value? Attribute.descriptionKind "description" = none

/-- A description from elsewhere as it is shown. -/
def shown (external : Option String) : String := external.elim Text.missing Text.orMissing

variable {as}

theorem describe_of_undescribed (h : as.Undescribed) (external : Option String) :
    as.describe external = shown external := by
  rw [describe, h.1, h.2]
  cases external <;> rfl

/-- Where an attribute gives a description, no other is heard. -/
theorem describe_of_described (h : ¬ as.Undescribed) (external other : Option String) :
    as.describe external = as.describe other := by
  have hown : (as.value? Attribute.documentationKind "summary").or
      (as.value? Attribute.descriptionKind "description") ≠ none := by
    intro hnone
    exact h (Option.or_eq_none_iff.mp hnone)
  obtain ⟨own, hown⟩ := Option.ne_none_iff_exists'.mp hown
  rw [describe, describe, hown]
  rfl

theorem describe_eq_iff {external other : Option String} :
    as.describe external = as.describe other ↔
      (as.Undescribed → shown external = shown other) := by
  constructor
  · intro heq h
    rwa [describe_of_undescribed h, describe_of_undescribed h] at heq
  · intro hshown
    by_cases h : as.Undescribed
    · rw [describe_of_undescribed h, describe_of_undescribed h, hshown h]
    · exact describe_of_described h external other

theorem undescribed_of_ne {external other : Option String}
    (h : as.describe external ≠ as.describe other) : as.Undescribed := by
  by_contra hdescribed
  exact h (describe_of_described hdescribed external other)

end Attributes

/-- Two descriptors of a property differ in the description at most, and in that only where no
attribute of the property gives one. -/
structure Property.Agree (p : Property) (x y : PropertyDescriptor) : Prop where
  fields : { x with description := y.description } = y
  description : x.description ≠ y.description → p.attributes.Undescribed

/-- Two descriptors of a method differ in the description at most, and in that only where no
attribute of the method gives one. -/
structure Method.Agree (m : Method) (x y : MethodDescriptor) : Prop where
  fields : { x with description := y.description } = y
  description : x.description ≠ y.description → m.attributes.Undescribed

section SideBySide

variable {α β : Type}

/-- Two lists have one member each for every member of a third, in order, and these are related. -/
def SideBySide (R : α → β → β → Prop) (ps : List α) (xs ys : List β) : Prop :=
  xs.length = ys.length ∧ List.Forall₂ (fun p xy => R p xy.1 xy.2) ps (xs.zip ys)

theorem sideBySide_map {R : α → β → β → Prop} {ps : List α} {f g : α → β}
    (h : ∀ p ∈ ps, R p (f p) (g p)) : SideBySide R ps (ps.map f) (ps.map g) := by
  refine ⟨by rw [List.length_map, List.length_map], ?_⟩
  rw [List.zip_map', List.forall₂_map_right_iff]
  exact List.forall₂_same.mpr h

end SideBySide

section Describe

variable (t : TypeDescription) (d e : Documentation)

theorem Property.agree_describe (p : Property) : p.Agree (p.describe t d) (p.describe t e) :=
  ⟨rfl, Attributes.undescribed_of_ne⟩

theorem Method.agree_describe (m : Method) : m.Agree (m.describe t d) (m.describe t e) :=
  ⟨rfl, Attributes.undescribed_of_ne⟩

variable {t d e}

theorem Property.describe_eq_iff {p : Property} :
    p.describe t d = p.describe t e ↔ (p.attributes.Undescribed →
      Attributes.shown (d.propertySummary t.fullName p.name) =
        Attributes.shown (e.propertySummary t.fullName p.name)) := by
  rw [← Attributes.describe_eq_iff]
  constructor
  · exact congrArg PropertyDescriptor.description
  · intro h
    rw [Property.describe, h]
    rfl

theorem Method.describe_eq_iff {m : Method} :
    m.describe t d = m.describe t e ↔ (m.attributes.Undescribed →
      Attributes.shown (d.methodSummary t.fullName m.name) =
        Attributes.shown (e.methodSummary t.fullName m.name)) := by
  rw [← Attributes.describe_eq_iff]
  constructor
  · exact congrArg MethodDescriptor.description
  · intro h
    rw [Method.describe, h]
    rfl

/-- Two documentations describe a model alike just when what they answer shows alike for each
visible property that no attribute describes. -/
theorem describeModel_eq_iff :
    t.describeModel d = t.describeModel e ↔
      ∀ p ∈ t.visibleProperties, p.attributes.Undescribed →
        Attributes.shown (d.propertySummary t.fullName p.name) =
          Attributes.shown (e.propertySummary t.fullName p.name) := by
  have hproperties : t.describeModel d = t.describeModel e ↔
      t.visibleProperties.map (Property.describe t d) =
        t.visibleProperties.map (Property.describe t e) :=
    ⟨congrArg ModelDescriptor.properties, congrArg (ModelDescriptor.mk t.name)⟩
  rw [hproperties, List.map_inj_left]
  exact forall₂_congr fun p _ => Property.describe_eq_iff

theorem describeController_eq_iff :
    t.describeController d = t.describeController e ↔
      ∀ m ∈ t.declaredMethods, m.attributes.Undescribed →
        Attributes.shown (d.methodSummary t.fullName m.name) =
          Attributes.shown (e.methodSummary t.fullName m.name) := by
  have hmethods : t.describeController d = t.describeController e ↔
      t.declaredMethods.map (Method.describe t d) = t.declaredMethods.map (Method.describe t e) :=
    ⟨congrArg ControllerDescriptor.methods,
      congrArg (ControllerDescriptor.mk t.name t.routePrefix)⟩
  rw [hmethods, List.map_inj_left]
  exact forall₂_congr fun m _ => Method.describe_eq_iff

end Describe

/-- With any two documentations a type is described alike, in order and in all fields, but for the
descriptions of properties and methods that no attribute describes. Where both answer alike for the
full name of the type and the names that its visible properties (its methods) are declared with, it
is described alike in these too. -/
theorem documentation_fills_gaps (t : TypeDescription) (d e : Documentation) :
    ((t.describeModel d).name = (t.describeModel e).name ∧
      SideBySide Property.Agree t.visibleProperties (t.describeModel d).properties
        (t.describeModel e).properties ∧
      ((∀ p ∈ t.visibleProperties,
          d.propertySummary t.fullName p.name = e.propertySummary t.fullName p.name) →
        t.describeModel d = t.describeModel e)) ∧
    (t.describeController d).name = (t.describeController e).name ∧
      (t.describeController d).routePrefix = (t.describeController e).routePrefix ∧
      SideBySide Method.Agree t.declaredMethods (t.describeController d).methods
        (t.describeController e).methods ∧
      ((∀ m ∈ t.declaredMethods,
          d.methodSummary t.fullName m.name = e.methodSummary t.fullName m.name) →
        t.describeController d = t.describeController e) := by
  refine ⟨⟨rfl, ?_, fun h => ?_⟩, rfl, rfl, ?_, fun h => ?_⟩
  · exact sideBySide_map fun p _ => p.agree_describe t d e
  · exact describeModel_eq_iff.mpr fun p hp _ => congrArg Attributes.shown (h p hp)
  · exact sideBySide_map fun m _ => m.agree_describe t d e
  · exact describeController_eq_iff.mpr fun m hm _ => congrArg Attributes.shown (h m hm)

/-- A type with a property of two names and a method. -/
def renamed : TypeDescription where
  name := "A"
  properties := [{ name := "raw", type := "T", attributes := [.displayName "shown"] }]
  methods := [{ name := "go" }]

def sparse : Documentation := ⟨[("P:A.raw", "x"), ("M:A.go(T)", "y")]⟩

/-- Says more than `sparse`, but not of the members of `renamed`. -/
def ample : Documentation :=
  ⟨[("P:A.shown", "z"), ("M:A.go(U)", "z"), ("M:A.gone", "z"), ("M:A.go(T)", "y"),
    ("P:A.raw", "x")]⟩

theorem renamed_described_alike :
    (∀ p ∈ renamed.visibleProperties, sparse.propertySummary renamed.fullName p.name =
      ample.propertySummary renamed.fullName p.name) ∧
    renamed.describeModel sparse = renamed.describeModel ample ∧
    (∀ m ∈ renamed.declaredMethods, sparse.methodSummary renamed.fullName m.name =
      ample.methodSummary renamed.fullName m.name) ∧
    renamed.describeController sparse = renamed.describeController ample := by
  have hproperties : ∀ p ∈ renamed.visibleProperties,
      sparse.propertySummary renamed.fullName p.name =
        ample.propertySummary renamed.fullName p.name := by decide
  have hmethods : ∀ m ∈ renamed.declaredMethods,
      sparse.methodSummary renamed.fullName m.name =
        ample.methodSummary renamed.fullName m.name := by decide
  obtain ⟨⟨-, -, hmodel⟩, -, -, -, hcontroller⟩ := documentation_fills_gaps renamed sparse ample
  exact ⟨hproperties, hmodel hproperties, hmethods, hcontroller hmethods⟩

end TypeDocs
