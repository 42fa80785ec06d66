import Mathlib.Data.List.Forall2
import TypeDocs.Descriptor.Controller
import TypeDocs.Descriptor.Model

/-!
# The suffix of kinds

The kind of an attribute may be written with its suffix or without. Two types that differ in that
alone, at any of their attributes, are described alike: whether an attribute is of a kind, how it
shows, and whether it stands for a verb do not hang on the suffix.
-/

namespace TypeDocs

/-- The second attribute is the first, or the first with the suffix behind its kind, which is not
empty and does not end in the suffix. -/
inductive Attribute.Suffixed (a : Attribute) : Attribute → Prop where
  | same : Suffixed a a
  | suffixed (hkind : a.kind ≠ "") (hends : ¬ suffix.toList <:+ a.kind.toList) :
    Suffixed a { a with kind := a.kind ++ suffix }

def Attributes.Suffixed (as bs : Attributes) : Prop := List.Forall₂ Attribute.Suffixed as bs

structure Property.Suffixed (p q : Property) : Prop where
  attributes : p.attributes.Suffixed q.attributes
  rest : { p with attributes := q.attributes } = q

structure Method.Suffixed (m n : Method) : Prop where
  attributes : m.attributes.Suffixed n.attributes
  rest : { m with attributes := n.attributes } = n

/-- Two types that differ at most in the suffixes of their attributes and those of their properties
and methods. -/
structure TypeDescription.Suffixed (t u : TypeDescription) : Prop where
  attributes : t.attributes.Suffixed u.attributes
  properties : List.Forall₂ Property.Suffixed t.properties u.properties
  methods : List.Forall₂ Method.Suffixed t.methods u.methods
  rest : { t with
    attributes := u.attributes, properties := u.properties, methods := u.methods } = u

/-- Where two lists agree place by place on what is looked for, it is found in the same place. -/
theorem rel_find? {α β : Type} {R : α → β → Prop} {p : α → Bool} {q : β → Bool}
    (hpq : ∀ a b, R a b → p a = q b) {as : List α} {bs : List β} (h : List.Forall₂ R as bs) :
    Option.Rel R (as.find? p) (bs.find? q) := by
  induction h with
  | nil => exact .none
  | @cons a b as bs hab hrest ih =>
    rw [List.find?_cons, List.find?_cons, ← hpq a b hab]
    cases p a with
    | true => exact .some hab
    | false => exact ih

namespace Attribute

theorem shorten_append_suffix {kind : String} (h : kind ≠ "") :
    shorten (kind ++ suffix) = kind := by
  rw [shorten, Text.dropSuffix?_append]
  exact if_neg (by simpa using h)

theorem shorten_of_not_suffix {kind : String} (h : ¬ suffix.toList <:+ kind.toList) :
    shorten kind = kind := by
  have hnone : Text.dropSuffix? suffix kind = none := by
    rw [Text.dropSuffix?, if_neg]
    rwa [List.isSuffixOf_iff_suffix]
  rw [shorten, hnone]

/-- A kind that begins as those of verbs do has that beginning before its suffix. -/
theorem startsWith_append_suffix {kind : String} (h : kind ≠ "") :
    Text.startsWith verbStart (kind ++ suffix) = Text.startsWith verbStart kind := by
  have hstart : verbStart.toList = ['H', 't', 't', 'p'] := by decide
  have hsuffix : suffix.toList = 'A' :: "ttribute".toList := by decide
  rw [Text.startsWith, Text.startsWith, String.toList_append, hstart, hsuffix]
  have hne : kind.toList ≠ [] := by simpa using h
  -- What could reach into the suffix begins with another letter than the suffix does.
  match kind.toList, hne with
  | [a], _ | [a, b], _ | [a, b, c], _ | a :: b :: c :: d :: rest, _ => simp [List.isPrefixOf]

namespace Suffixed

variable {a b : Attribute}

theorem arguments (h : a.Suffixed b) : b.arguments = a.arguments := by
  cases h <;> rfl

theorem shortKind (h : a.Suffixed b) : b.shortKind = a.shortKind := by
  cases h with
  | same => rfl
  | suffixed hkind hends =>
    exact (shorten_append_suffix hkind).trans (shorten_of_not_suffix hends).symm

theorem startsWith (h : a.Suffixed b) :
    Text.startsWith verbStart b.kind = Text.startsWith verbStart a.kind := by
  cases h with
  | same => rfl
  | suffixed hkind hends => exact startsWith_append_suffix hkind

theorem hasKind (h : a.Suffixed b) (kind : String) : b.hasKind kind = a.hasKind kind := by
  rw [Attribute.hasKind, Attribute.hasKind, h.shortKind]

theorem render (h : a.Suffixed b) : b.render = a.render := by
  rw [Attribute.render, Attribute.render, h.shortKind, h.arguments]

theorem value? (h : a.Suffixed b) (name : String) : b.value? name = a.value? name := by
  rw [Attribute.value?, Attribute.value?, argument?, argument?, h.arguments]

theorem firstValue? (h : a.Suffixed b) : b.firstValue? = a.firstValue? := by
  rw [Attribute.firstValue?, Attribute.firstValue?, h.arguments]

end Suffixed

end Attribute

namespace Attributes.Suffixed

variable {as bs : Attributes}

theorem value? (h : as.Suffixed bs) (kind name : String) :
    bs.value? kind name = as.value? kind name := by
  have hfound : Option.Rel Attribute.Suffixed (as.ofKind? kind) (bs.ofKind? kind) :=
    rel_find? (fun a b hab => (hab.hasKind kind).symm) h
  rw [Attributes.value?, Attributes.value?]
  generalize as.ofKind? kind = x, bs.ofKind? kind = y at hfound
  cases hfound with
  | none => rfl
  | some hab =>
    change Text.nonBlank _ = Text.nonBlank _
    rw [hab.value? name, hab.firstValue?]

theorem describe (h : as.Suffixed bs) (external : Option String) :
    bs.describe external = as.describe external := by
  rw [Attributes.describe, Attributes.describe, h.value?, h.value?]

theorem summary (h : as.Suffixed bs) : bs.summary = as.summary := by
  have hrendered : bs.map Attribute.render = as.map Attribute.render := by
    induction h with
    | nil => rfl
    | cons hab _ ih => rw [List.map_cons, List.map_cons, hab.render, ih]
  cases h with
  | nil => rfl
  | cons hab hrest => exact congrArg ", ".intercalate hrendered

end Attributes.Suffixed

section Describe

variable {t u : TypeDescription}

theorem Property.Suffixed.displayName {p q : Property} (h : p.Suffixed q) :
    q.displayName = p.displayName := by
  have hname : q.name = p.name := by rw [← h.rest]
  rw [Property.displayName, Property.displayName, h.attributes.value?, hname]

namespace Method.Suffixed

variable {m n : Method} (h : m.Suffixed n)

include h

theorem httpAttribute? : Option.Rel Attribute.Suffixed m.httpAttribute? n.httpAttribute? :=
  rel_find? (fun _ _ hab => hab.startsWith.symm) h.attributes

theorem verb : n.verb = m.verb := by
  have hfound := h.httpAttribute?
  rw [Method.verb, Method.verb]
  generalize m.httpAttribute? = x, n.httpAttribute? = y at hfound
  cases hfound with
  | none => rfl
  | some hab => exact congrArg Text.upperText hab.shortKind

theorem route (controller routePrefix : String) :
    n.route controller routePrefix = m.route controller routePrefix := by
  have hname : n.name = m.name := by rw [← h.rest]
  have hfound := h.httpAttribute?
  rw [Method.route, Method.route, hname]
  generalize m.httpAttribute? = x, n.httpAttribute? = y at hfound
  cases hfound with
  | none => rfl
  | some hab => rfl

end Method.Suffixed

namespace TypeDescription.Suffixed

variable (h : t.Suffixed u)

include h

theorem name : u.name = t.name := by rw [← h.rest]

theorem fullName : u.fullName = t.fullName := by rw [← h.rest]

theorem routePrefix : u.routePrefix = t.routePrefix := by
  rw [TypeDescription.routePrefix, TypeDescription.routePrefix, h.attributes.value?]

theorem visibleProperties :
    List.Forall₂ Property.Suffixed t.visibleProperties u.visibleProperties := by
  refine List.rel_filter (fun p q hpq => ?_) h.properties
  rw [← hpq.rest]

theorem declaredMethods : List.Forall₂ Method.Suffixed t.declaredMethods u.declaredMethods := by
  refine List.rel_filter (fun m n hmn => ?_) h.methods
  rw [← hmn.rest]

theorem describe_property (docs : Documentation) {p q : Property} (hpq : p.Suffixed q) :
    q.describe u docs = p.describe t docs := by
  have hvalue : u.defaultValue q = t.defaultValue p := by
    rw [TypeDescription.defaultValue, TypeDescription.defaultValue, ← h.rest, ← hpq.rest]
  have hname : q.name = p.name := by rw [← hpq.rest]
  have htype : q.type = p.type := by rw [← hpq.rest]
  rw [Property.describe, Property.describe, hpq.displayName, hpq.attributes.describe,
    hpq.attributes.summary, hvalue, h.fullName, hname, htype]

theorem describe_method (docs : Documentation) {m n : Method} (hmn : m.Suffixed n) :
    n.describe u docs = m.describe t docs := by
  have hname : n.name = m.name := by rw [← hmn.rest]
  have hparameters : n.parameters = m.parameters := by rw [← hmn.rest]
  rw [Method.describe, Method.describe, hmn.verb, hmn.route, hmn.attributes.describe, h.name,
    h.fullName, h.routePrefix, hname, hparameters]

end TypeDescription.Suffixed

end Describe

/-- Putting the suffix behind any of the kinds that do not have it changes nothing in how a type is
described, as a model or as a controller, whatever its documentation. -/
theorem described_alike_of_suffixed {t u : TypeDescription} (h : t.Suffixed u)
    (docs : Documentation) : t.describeModel docs = u.describeModel docs ∧
      t.describeController docs = u.describeController docs := by
  have hproperties : u.visibleProperties.map (Property.describe u docs) =
      t.visibleProperties.map (Property.describe t docs) := by
    refine List.forall₂_eq_eq_eq ▸ List.rel_map (fun q p hqp => ?_) h.visibleProperties.flip
    exact h.describe_property docs hqp
  have hmethods : u.declaredMethods.map (Method.describe u docs) =
      t.declaredMethods.map (Method.describe t docs) := by
    refine List.forall₂_eq_eq_eq ▸ List.rel_map (fun n m hnm => ?_) h.declaredMethods.flip
    exact h.describe_method docs hnm
  constructor
  · rw [TypeDescription.describeModel, TypeDescription.describeModel, hproperties, h.name]
  · rw [TypeDescription.describeController, TypeDescription.describeController, hmethods, h.name,
      h.routePrefix]

/-- A controller with a property, and no suffix behind a kind. -/
def shortKinds : TypeDescription where
  name := "A"
  attributes := [.single "Route" "template" "a"]
  properties := [{
    name := "p", type := "T", attributes := [.single "DisplayName" "text" "q", .bare "Key"] }]
  methods := [{ name := "m", attributes := [.bare "Htt", .bare "HttpGet", .bare "HttpGet"] }]

/-- The same with the suffix behind every kind but the last. -/
def longKinds : TypeDescription where
  name := "A"
  attributes := [.route "a"]
  properties := [{
    name := "p", type := "T",
    attributes := [.single "DisplayNameAttribute" "text" "q", .bare "KeyAttribute"] }]
  methods := [{
    name := "m",
    attributes := [.bare "HttAttribute", .bare "HttpGetAttribute", .bare "HttpGet"] }]

theorem longKinds_described_alike :
    shortKinds.Suffixed longKinds ∧
      shortKinds.describeModel .empty = longKinds.describeModel .empty ∧
      shortKinds.describeController .empty = longKinds.describeController .empty := by
  have hsuffixed (kind : String) (arguments : List Argument) (hkind : kind ≠ "")
      (hends : ¬ Attribute.suffix.toList <:+ kind.toList) :
      (Attribute.mk kind arguments).Suffixed ⟨kind ++ Attribute.suffix, arguments⟩ :=
    .suffixed hkind hends
  have hproperty : List.Forall₂ Property.Suffixed shortKinds.properties longKinds.properties := by
    refine .cons ⟨.cons ?_ (.cons ?_ .nil), rfl⟩ .nil
    · exact hsuffixed "DisplayName" _ (by decide) (by decide)
    · exact hsuffixed "Key" _ (by decide) (by decide)
  have hmethod : List.Forall₂ Method.Suffixed shortKinds.methods longKinds.methods := by
    refine .cons ⟨.cons ?_ (.cons ?_ (.cons .same .nil)), rfl⟩ .nil
    · exact hsuffixed "Htt" _ (by decide) (by decide)
    · exact hsuffixed "HttpGet" _ (by decide) (by decide)
  have h : shortKinds.Suffixed longKinds := by
    refine ⟨.cons ?_ .nil, hproperty, hmethod, rfl⟩
    exact hsuffixed "Route" _ (by decide) (by decide)
  exact ⟨h, described_alike_of_suffixed h .empty⟩

end TypeDocs
