import TypeDocs.Descriptor.Model
import TypeDocs.Manifest.Describe
import TypeDocs.Route

/-!
# Blank attributes

Names, descriptions and routes are looked up in the first attribute of a kind, before it is known
whether that says anything. So an attribute that is blank stands for nothing, and may be left out,
unless it comes first and another of its kind says something behind it: then it hides all of its
kind.
-/

namespace TypeDocs

/-- What is looked up in attributes. -/
inductive Lookup where
  | displayName
  | documentation
  | description
  | route
  deriving DecidableEq, Repr

namespace Lookup

def kind : Lookup → String
  | .displayName => Attribute.displayNameKind
  | .documentation => Attribute.documentationKind
  | .description => Attribute.descriptionKind
  | .route => Attribute.routeKind

/-- The name of the argument that is looked up. -/
def argument : Lookup → String
  | .displayName => "displayName"
  | .documentation => "summary"
  | .description => "description"
  | .route => "template"

theorem shorten_kind_ne {l m : Lookup} (h : m ≠ l) :
    Attribute.shorten m.kind ≠ Attribute.shorten l.kind := by
  revert h
  cases l <;> cases m <;> decide

end Lookup

/-- Whether an attribute of a kind that is looked up says nothing there: its value is not known,
empty or white space. -/
def Attribute.Blank (a : Attribute) (l : Lookup) : Prop :=
  a.hasKind l.kind = true ∧ Text.nonBlank ((a.value? l.argument).or a.firstValue?) = none

theorem Attribute.hasKind_of_ne {a : Attribute} {l m : Lookup} (ha : a.hasKind l.kind = true)
    (h : m ≠ l) : a.hasKind m.kind = false := by
  have hshort : a.shortKind = Attribute.shorten l.kind := by simpa [hasKind] using ha
  rw [hasKind, hshort]
  simpa using (Lookup.shorten_kind_ne h).symm

namespace Attributes

/-- What a lookup finds. -/
def find (as : Attributes) (l : Lookup) : Option String := as.value? l.kind l.argument

/-- Whether an attribute between others would hide what a lookup finds behind it. -/
def Hides (before after : Attributes) (l : Lookup) : Prop :=
  before.ofKind? l.kind = none ∧ after.find l ≠ none

/-- The attributes that are not of the kind that is looked up. -/
def without (as : Attributes) (l : Lookup) : Attributes := as.filter fun a => !a.hasKind l.kind

/-- Two lists of attributes that resolve to the same name of a property, the same description
whatever the documentation says, and the same route. -/
structure ResolveAlike (as bs : Attributes) : Prop where
  displayName : ∀ p : Property,
    ({ p with attributes := as } : Property).displayName =
      ({ p with attributes := bs } : Property).displayName
  describe : ∀ external, as.describe external = bs.describe external
  routePrefix : ∀ t : TypeDescription,
    ({ t with attributes := as } : TypeDescription).routePrefix =
      ({ t with attributes := bs } : TypeDescription).routePrefix

variable {as bs before after : Attributes} {a : Attribute} {l m : Lookup}

theorem resolve_of_find (h : ∀ l, as.find l = bs.find l) : as.ResolveAlike bs := by
  refine ⟨fun p => ?_, fun external => ?_, fun t => ?_⟩
  · exact congrArg (Option.getD · (Text.orMissing p.name)) (h .displayName)
  · have hdocumentation := h .documentation
    have hdescription := h .description
    unfold find Lookup.kind Lookup.argument at hdocumentation hdescription
    rw [describe, describe, hdocumentation, hdescription]
  · have hroute := h .route
    unfold find Lookup.kind Lookup.argument at hroute
    rw [TypeDescription.routePrefix, TypeDescription.routePrefix, hroute]

theorem find_of_ofKind? (h : as.ofKind? l.kind = bs.ofKind? l.kind) : as.find l = bs.find l := by
  rw [find, find, value?, value?, h]

theorem find_of_ofKind?_none (h : as.ofKind? l.kind = none) : as.find l = none := by
  rw [find, value?, h]
  rfl

theorem ofKind?_append (kind : String) :
    (as ++ bs).ofKind? kind = (as.ofKind? kind).or (bs.ofKind? kind) :=
  List.find?_append

/-- An attribute of another kind makes no difference. -/
theorem find_insert_of_ne (ha : a.hasKind l.kind = true) (h : m ≠ l) :
    (before ++ a :: after).find m = (before ++ after).find m := by
  apply find_of_ofKind?
  have hskip : Attributes.ofKind? (a :: after) m.kind = Attributes.ofKind? after m.kind :=
    List.find?_cons_of_neg (by rw [Attribute.hasKind_of_ne ha h]; exact Bool.false_ne_true)
  rw [ofKind?_append, ofKind?_append, hskip]

/-- An attribute behind another of its kind makes no difference. -/
theorem find_insert_of_isSome (h : before.ofKind? l.kind ≠ none) :
    (before ++ a :: after).find l = (before ++ after).find l := by
  apply find_of_ofKind?
  obtain ⟨b, hb⟩ := Option.ne_none_iff_exists'.mp h
  rw [ofKind?_append, ofKind?_append, hb]
  rfl

/-- Nothing is found of the kind of a blank attribute that is the first of its kind. -/
theorem find_insert_first (ha : a.Blank l) (h : before.ofKind? l.kind = none) :
    (before ++ a :: after).find l = none := by
  have hfirst : Attributes.ofKind? (before ++ a :: after) l.kind = some a := by
    rw [ofKind?_append, h, Option.none_or]
    exact List.find?_cons_of_pos (p := fun b : Attribute => b.hasKind l.kind) ha.1
  rw [find, value?, hfirst]
  exact ha.2

theorem find_insert (ha : a.Blank l) (h : ¬ Hides before after l) (m : Lookup) :
    (before ++ a :: after).find m = (before ++ after).find m := by
  by_cases hm : m = l
  · subst hm
    by_cases hfirst : before.ofKind? m.kind = none
    · have hafter : after.find m = none := by
        apply Classical.byContradiction
        intro hne
        exact h ⟨hfirst, hne⟩
      have hskip : (before ++ after).find m = after.find m := by
        apply find_of_ofKind?
        rw [ofKind?_append, hfirst]
        rfl
      rw [find_insert_first ha hfirst, hskip, hafter]
    · exact find_insert_of_isSome hfirst
  · exact find_insert_of_ne ha.1 hm

theorem find_without (as : Attributes) (l : Lookup) : (as.without l).find l = none := by
  apply find_of_ofKind?_none
  refine List.find?_eq_none.mpr fun a ha => ?_
  have hkind := (List.mem_filter.mp ha).2
  simpa using hkind

theorem find_without_of_ne (as : Attributes) (h : m ≠ l) : (as.without l).find m = as.find m := by
  apply find_of_ofKind?
  rw [ofKind?, ofKind?, without, List.find?_filter]
  congr 1
  funext a
  cases ha : a.hasKind l.kind with
  | false => simp
  | true => simp [Attribute.hasKind_of_ne ha h]

/-- A blank attribute that is the first of its kind leaves nothing of its kind. -/
theorem find_insert_hiding (ha : a.Blank l) (h : before.ofKind? l.kind = none) (m : Lookup) :
    (before ++ a :: after).find m = ((before ++ after).without l).find m := by
  by_cases hm : m = l
  · subst hm
    rw [find_insert_first ha h, find_without]
  · rw [find_insert_of_ne ha.1 hm, find_without_of_ne _ hm]

end Attributes

theorem Attribute.blank_route {s : String} (hs : Text.isBlankText s = true) :
    (Attribute.route s).Blank .route := by
  have hsame : Text.sameLetters "template" "template" = true := by decide
  have hvalue : (Attribute.route s).value? Lookup.route.argument = some s := by
    rw [value?, argument?, route, single]
    simp [Lookup.argument, hsame]
  refine ⟨?_, ?_⟩
  · rw [hasKind, shortKind]
    exact beq_self_eq_true _
  · rw [hvalue]
    simp [Text.nonBlank, hs]

/-- An attribute that is blank may be left out, unless it hides another of its kind. Where it is the
first of its kind all of that kind may be left out, so a blank shorthand for a route leaves a
controller without one. -/
theorem resolve_of_blank {a : Attribute} {l : Lookup} (ha : a.Blank l)
    (before after : Attributes) :
    (¬ Attributes.Hides before after l →
      Attributes.ResolveAlike (before ++ a :: after) (before ++ after)) ∧
    (before.ofKind? l.kind = none →
      Attributes.ResolveAlike (before ++ a :: after) (Attributes.without (before ++ after) l)) ∧
    ∀ (c : Manifest.ControllerEntry) (s : String), c.route = some s →
      Text.isBlankText s = true → c.describe.routePrefix = "" := by
  refine ⟨fun h => Attributes.resolve_of_find (Attributes.find_insert ha h),
    fun h => Attributes.resolve_of_find (Attributes.find_insert_hiding ha h), ?_⟩
  intro c s hroute hs
  have hnone : Attributes.find c.describe.attributes .route = none := by
    rw [Manifest.ControllerEntry.describe, hroute]
    have hfirst : Attributes.ofKind? [] Lookup.route.kind = none := rfl
    exact Attributes.find_insert_first (Attribute.blank_route hs) hfirst
  rw [TypeDescription.routePrefix]
  unfold Attributes.find Lookup.kind Lookup.argument at hnone
  rw [hnone]

/-- A controller with a blank shorthand for its route, and an attribute that gives one. -/
def blankShorthand : Manifest.ControllerEntry :=
  ⟨"A", none, some " ", [.full (.route "a")], []⟩

theorem blankShorthand_resolve :
    (Attribute.displayName " ").Blank .displayName ∧
      ¬ Attributes.Hides [.displayName "q"] [] .displayName ∧
      Attributes.ResolveAlike [.displayName "q", .displayName " "] [.displayName "q"] ∧
      Attributes.ResolveAlike [.displayName " ", .displayName "q"] [] ∧
      blankShorthand.describe.routePrefix = "" := by
  have hblank : (Attribute.displayName " ").Blank .displayName := by
    unfold Attribute.Blank
    decide
  have hides : ¬ Attributes.Hides [.displayName "q"] [] .displayName := fun h => h.2 rfl
  obtain ⟨hkept, -, -⟩ := resolve_of_blank hblank [.displayName "q"] []
  obtain ⟨-, hfirst, hroute⟩ := resolve_of_blank hblank [] [.displayName "q"]
  exact ⟨hblank, hides, hkept hides, hfirst rfl, hroute blankShorthand " " rfl (by decide)⟩

/-- A blank attribute in front of another of its kind cannot be left out. -/
theorem blank_hides :
    (Attribute.displayName " ").Blank .displayName ∧
      (Property.mk "p" "T" [.displayName " ", .displayName "q"] true false none).displayName = "p" ∧
      (Property.mk "p" "T" [.displayName "q"] true false none).displayName = "q" ∧
      (Attribute.route " ").Blank .route ∧ blankShorthand.describe.routePrefix = "" ∧
      ({ blankShorthand with route := none } : Manifest.ControllerEntry).describe.routePrefix =
        "a" := by
  unfold Attribute.Blank
  decide +kernel

end TypeDocs
