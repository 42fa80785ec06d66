import TypeDocs.Proofs.Descriptor.Verb
import TypeDocs.Proofs.Text.Runs

/-!
# Routes

A route is a path: a slash before each of its segments, and one at the end where nothing or a slash
comes last. Its segments are those of the prefix, or else of the controller's name, and then those
of the method's name when it has a verb. No other text is a path of these segments that ends alike.
-/

namespace TypeDocs

open Text

namespace Route

/-! ### Collapsed slashes -/

theorem collapseFrom_cons_of_ne {c : Char} (hc : c ≠ '/') (slash : Bool) (cs : List Char) :
    collapseFrom slash (c :: cs) = c :: collapseFrom false cs := by
  rw [collapseFrom, if_neg (by simpa using hc)]

/-- What does not hang on how many slashes follow each other stays when they are made one. -/
theorem collapseFrom_invariant {α : Type} (f : List Char → α)
    (hf : ∀ before after, f (before ++ '/' :: '/' :: after) = f (before ++ '/' :: after))
    (cs : List Char) :
    (∀ before, f (before ++ collapseFrom false cs) = f (before ++ cs)) ∧
      ∀ before, f (before ++ '/' :: collapseFrom true cs) = f (before ++ '/' :: cs) := by
  -- Both states of the pass at once: behind a slash it is in the second, else in the first.
  induction cs with
  | nil => exact ⟨fun _ => rfl, fun _ => rfl⟩
  | cons c cs ih =>
    obtain ⟨ihFalse, ihTrue⟩ := ih
    by_cases hc : c = '/'
    · subst hc
      exact ⟨ihTrue, fun before => (ihTrue before).trans (hf before cs).symm⟩
    · refine ⟨fun before => ?_, fun before => ?_⟩
      · rw [collapseFrom_cons_of_ne hc, List.append_cons, ihFalse, ← List.append_cons]
      · rw [collapseFrom_cons_of_ne hc, List.append_cons before, List.append_cons _ c, ihFalse,
          ← List.append_cons, ← List.append_cons]

/-- Slashes are kept apart, and from one that stands before the text. -/
theorem apart_collapseFrom (slash : Bool) (cs : List Char) :
    Apart '/' (collapseFrom slash cs) ∧
      (slash = true → (collapseFrom slash cs).head? ≠ some '/') := by
  induction cs generalizing slash with
  | nil => exact ⟨apart_nil '/', nofun⟩
  | cons c cs ih =>
    by_cases hc : c = '/'
    · subst hc
      cases slash with
      | true => exact ih true
      | false =>
        obtain ⟨hrest, hhead⟩ := ih true
        exact ⟨apart_cons_iff.mpr ⟨fun _ => hhead rfl, hrest⟩, nofun⟩
    · rw [collapseFrom_cons_of_ne hc]
      refine ⟨apart_cons_iff.mpr ⟨fun h => absurd h hc, (ih false).1⟩, fun _ hhead => ?_⟩
      exact hc (Option.some.inj hhead)

theorem runs_collapseFrom (cs : List Char) :
    runs '/' (collapseFrom false cs) = runs '/' cs := by
  refine (collapseFrom_invariant (runs '/') (fun before after => ?_) cs).1 []
  rw [runs_append_cons, runs_append_cons, runs_cons_self]

theorem getLast?_collapseFrom (cs : List Char) :
    (collapseFrom false cs).getLast? = cs.getLast? := by
  refine (collapseFrom_invariant List.getLast? (fun before after => ?_) cs).1 []
  rw [List.getLast?_append, List.getLast?_append, List.getLast?_cons_cons]

/-! ### Paths -/

/-- The runs of a text between slashes, in order. -/
def segments (s : String) : List (List Char) := runs '/' s.toList

theorem segments_empty : segments "" = [] := rfl

/-- A path of some segments, which ends in a slash or does not. -/
structure IsPath (s : String) (parts : List (List Char)) (ends : Prop) : Prop where
  begins : s.toList.head? = some '/'
  apart : ¬ ['/', '/'] <:+: s.toList
  segments_eq : segments s = parts
  ends_iff : s.toList.getLast? = some '/' ↔ ends

namespace IsPath

variable {s t : String} {parts : List (List Char)} {ends : Prop}

theorem toList_eq (h : IsPath s parts ends) :
    s.toList = parts.flatMap ('/' :: ·) ++ if s.toList.getLast? = some '/' then ['/'] else [] := by
  obtain ⟨cs, hcs⟩ := List.head?_eq_some_iff.mp h.begins
  have happart : Apart '/' ('/' :: cs) := hcs ▸ h.apart
  have hparts : runs '/' cs = parts := by
    rw [← h.segments_eq, segments, hcs, runs_cons_self]
  have hruns := eq_flatMap_runs happart
  rw [hparts, ← hcs] at hruns
  exact hruns

theorem unique (hs : IsPath s parts ends) (ht : IsPath t parts ends) : s = t := by
  have hends : s.toList.getLast? = some '/' ↔ t.toList.getLast? = some '/' :=
    hs.ends_iff.trans ht.ends_iff.symm
  have hlist := hs.toList_eq
  rw [if_congr hends rfl rfl] at hlist
  exact String.toList_inj.mp (hlist.trans ht.toList_eq.symm)

end IsPath

theorem getLast?_slash_cons_iff {cs : List Char} :
    ('/' :: cs).getLast? = some '/' ↔ cs = [] ∨ cs.getLast? = some '/' := by
  cases cs with
  | nil => simp
  | cons c cs => simp [List.getLast?_cons_cons]

/-- Two parts with a slash before each make a path of the segments of both, which ends as the second
does. -/
theorem isPath_collapse (first last : String) :
    IsPath (collapse ("/" ++ first ++ "/" ++ last)) (segments first ++ segments last)
      (last = "" ∨ last.toList.getLast? = some '/') := by
  have hslashes :
      ("/" ++ first ++ "/" ++ last).toList = '/' :: first.toList ++ '/' :: last.toList := by
    simp
  refine ⟨?_, ?_, ?_, ?_⟩
  · rw [collapse, String.toList_ofList, hslashes]
    rfl
  · rw [collapse, String.toList_ofList]
    exact (apart_collapseFrom false _).1
  · rw [segments, collapse, String.toList_ofList, runs_collapseFrom, hslashes, runs_append_cons,
      runs_cons_self, segments, segments]
  · rw [collapse, String.toList_ofList, getLast?_collapseFrom, hslashes,
      List.getLast?_append_of_ne_nil _ (List.cons_ne_nil _ _), getLast?_slash_cons_iff,
      String.toList_eq_nil_iff]

/-- The part of a route before the method: the prefix, or where that is empty the name of the
controller, without one ending `Controller` if it has it. -/
inductive Begins (controller routePrefix : String) : String → Prop where
  | given (hgiven : routePrefix ≠ "") : Begins controller routePrefix routePrefix
  | stem {stem : String} (hempty : routePrefix = "") (hstem : controller = stem ++ "Controller") :
    Begins controller routePrefix stem
  | name (hempty : routePrefix = "") (hname : ¬ "Controller".toList <:+ controller.toList) :
    Begins controller routePrefix controller

theorem begins_base (controller : String) : Begins controller "" (base controller) := by
  cases hstem : dropSuffix? "Controller" controller with
  | some stem =>
    rw [base, hstem]
    exact .stem rfl (eq_append_of_dropSuffix? hstem)
  | none =>
    rw [base, hstem]
    refine .name rfl fun hsuffix => ?_
    rw [dropSuffix?, if_pos (List.isSuffixOf_iff_suffix.mpr hsuffix)] at hstem
    cases hstem

theorem begins_first (controller routePrefix : String) :
    Begins controller routePrefix
      (if routePrefix.isEmpty then base controller else routePrefix) := by
  by_cases h : routePrefix = ""
  · subst h
    exact begins_base controller
  · rw [if_neg (by simpa using h)]
    exact .given h

end Route

/-- The route of a method is the path of the segments of the prefix, or else of the controller's
name, and those of the method's name if it has a verb. It ends in a slash just when nothing or a
slash comes last. -/
theorem route_eq_iff (m : Method) (controller routePrefix : String) :
    ∃ first, Route.Begins controller routePrefix first ∧ ∀ s,
      m.route controller routePrefix = s ↔
        Route.IsPath s
          (Route.segments first ++ if m.HasVerb then Route.segments m.name else [])
          (¬ m.HasVerb ∨ m.name = "" ∨ m.name.toList.getLast? = some '/') := by
  refine ⟨_, Route.begins_first controller routePrefix, fun s => ?_⟩
  generalize hfirst : (if routePrefix.isEmpty then Route.base controller else routePrefix) = first
  have hpath : Route.IsPath (m.route controller routePrefix)
      (Route.segments first ++ if m.HasVerb then Route.segments m.name else [])
      (¬ m.HasVerb ∨ m.name = "" ∨ m.name.toList.getLast? = some '/') := by
    rw [Method.route, Route.path, hfirst]
    by_cases hverb : m.HasVerb
    · have hsome : m.httpAttribute?.isSome = true :=
        Option.isSome_iff_ne_none.mpr fun h => Method.httpAttribute?_eq_none_iff.mp h hverb
      rw [if_pos hsome, if_pos hverb]
      simpa [hverb] using Route.isPath_collapse first m.name
    · have hnone : m.httpAttribute? = none := Method.httpAttribute?_eq_none_iff.mpr hverb
      rw [hnone, if_neg hverb]
      simpa [hverb, Route.segments_empty] using Route.isPath_collapse first ""
  exact ⟨fun h => h ▸ hpath, hpath.unique⟩

end TypeDocs
