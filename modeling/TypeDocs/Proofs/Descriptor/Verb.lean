import TypeDocs.Manifest.Describe
import TypeDocs.Proofs.Descriptor.Suffix
import TypeDocs.Proofs.Text.LetterCase

/-!
# Verbs

A method has a verb when the kind of an attribute begins as those of verbs do, and it is shown as
that kind in capitals, without the suffix. A shorthand in a manifest becomes such an attribute in
front of all others. On the way its letters are raised and lowered, and in the end all are raised,
so their case makes no difference.
-/

namespace TypeDocs

open Text

namespace Attribute

variable (a : Attribute)

/-- What tells that an attribute stands for a verb stays when the suffix is left out. -/
theorem startsWith_shortKind :
    startsWith verbStart a.shortKind = startsWith verbStart a.kind := by
  rw [shortKind, shorten]
  split
  · next short hshort =>
    split
    · rfl
    · next hne =>
      rw [eq_append_of_dropSuffix? hshort]
      exact (startsWith_append_suffix (by simpa using hne)).symm
  · rfl

theorem shortKind_http (verb : String) :
    (http verb).shortKind = verbStart ++ .ofList (verbName verb.toList) :=
  shorten_append_suffix fun h => by
    have hlist := congrArg String.toList h
    simp [verbStart] at hlist

/-- What a shorthand makes of its letters is undone by raising them all. -/
theorem upper_verbName {cs : List Char} (h : ∀ c ∈ cs, c.toNat < 128) :
    upper (verbName cs) = cs.map Char.toUpper := by
  cases cs with
  | nil => rfl
  | cons c cs =>
    obtain ⟨hc, hcs⟩ := List.forall_mem_cons.mp h
    rw [verbName, upper_append, (case_of_ascii hc).2.2.1, upper_flatMap_lowerChar hcs]
    rfl

theorem verbName_map_toLower (cs : List Char) : verbName (cs.map Char.toLower) = verbName cs := by
  cases cs with
  | nil => rfl
  | cons c cs =>
    rw [List.map_cons, verbName, verbName, upperChar_toLower, List.flatMap_map]
    simp only [lowerChar_toLower]

theorem http_lowered (verb : String) : http (lowered verb) = http verb := by
  rw [http, http, lowered, String.toList_ofList, verbName_map_toLower]

end Attribute

namespace Method

variable (m : Method)

/-- Whether an attribute of the method stands for a verb. -/
def HasVerb : Prop := ∃ a ∈ m.attributes, "Http".toList <+: a.kind.toList

instance : Decidable m.HasVerb :=
  inferInstanceAs (Decidable (∃ a ∈ m.attributes, "Http".toList <+: a.kind.toList))

variable {m}

theorem httpAttribute?_eq_none_iff : m.httpAttribute? = none ↔ ¬ m.HasVerb := by
  have hkind (a : Attribute) :
      startsWith Attribute.verbStart a.kind = true ↔ "Http".toList <+: a.kind.toList :=
    List.isPrefixOf_iff_prefix
  simp only [httpAttribute?, List.find?_eq_none, hkind, HasVerb, not_exists, not_and]

theorem verb_of_not_hasVerb (h : ¬ m.HasVerb) : m.verb = "UNKNOWN" := by
  rw [verb, httpAttribute?_eq_none_iff.mpr h]
  rfl

theorem verb_of_hasVerb (h : m.HasVerb) : "HTTP".toList <+: m.verb.toList := by
  cases hfound : m.httpAttribute? with
  | none => exact absurd h (httpAttribute?_eq_none_iff.mp hfound)
  | some a =>
    have hkind : startsWith Attribute.verbStart a.kind = true :=
      List.find?_some (p := fun b : Attribute => startsWith Attribute.verbStart b.kind) hfound
    rw [← a.startsWith_shortKind] at hkind
    obtain ⟨rest, hrest⟩ := List.isPrefixOf_iff_prefix.mp hkind
    have hstart : upper Attribute.verbStart.toList = "HTTP".toList := by decide
    refine ⟨upper rest, ?_⟩
    rw [← hstart, ← upper_append, hrest, verb, hfound]
    exact String.toList_ofList.symm

theorem verb_eq_unknown_iff : m.verb = "UNKNOWN" ↔ ¬ m.HasVerb := by
  refine ⟨fun h hverb => ?_, verb_of_not_hasVerb⟩
  have hstart := verb_of_hasVerb hverb
  rw [h] at hstart
  revert hstart
  decide

end Method

namespace Manifest

/-- The method with its shorthand for a verb lowered. -/
def MethodEntry.lowerVerb (e : MethodEntry) : MethodEntry := { e with http := e.http.map lowered }

def ControllerEntry.lowerVerbs (c : ControllerEntry) : ControllerEntry :=
  { c with methods := c.methods.map MethodEntry.lowerVerb }

/-- The manifest with all shorthands for verbs lowered. -/
def lowerVerbs (m : Manifest) : Manifest :=
  { m with controllers := m.controllers.map ControllerEntry.lowerVerbs }

theorem MethodEntry.describe_lowerVerb (e : MethodEntry) : e.lowerVerb.describe = e.describe := by
  have hsame : Attribute.http ∘ lowered = Attribute.http := funext Attribute.http_lowered
  rw [describe, describe, lowerVerb, Option.map_map, hsame]

theorem ControllerEntry.describe_lowerVerbs (c : ControllerEntry) :
    c.lowerVerbs.describe = c.describe := by
  have hsame : MethodEntry.describe ∘ MethodEntry.lowerVerb = MethodEntry.describe :=
    funext MethodEntry.describe_lowerVerb
  rw [describe, describe, lowerVerbs, List.map_map, hsame]

theorem controllerTypes_lowerVerbs (m : Manifest) :
    m.lowerVerbs.controllerTypes = m.controllerTypes := by
  have hsame : ControllerEntry.describe ∘ ControllerEntry.lowerVerbs = ControllerEntry.describe :=
    funext ControllerEntry.describe_lowerVerbs
  rw [controllerTypes, controllerTypes, lowerVerbs, List.map_map, hsame]

/-- The shorthand comes before all other attributes. -/
theorem MethodEntry.verb_of_http {e : MethodEntry} {v : String} (hv : e.http = some v)
    (hascii : ∀ c ∈ v.toList, c.toNat < 128) :
    e.describe.verb = "HTTP" ++ .ofList (v.toList.map Char.toUpper) := by
  have hkind : startsWith Attribute.verbStart (Attribute.http v).kind = true := by
    rw [startsWith, List.isPrefixOf_iff_prefix, Attribute.http, Attribute.bare]
    simp only [String.toList_append, List.append_assoc]
    exact List.prefix_append _ _
  have hfirst : e.describe.httpAttribute? = some (Attribute.http v) := by
    rw [Method.httpAttribute?, describe, hv]
    exact List.find?_cons_of_pos hkind
  have hstart : upper Attribute.verbStart.toList = "HTTP".toList := by decide
  rw [Method.verb, hfirst]
  dsimp only
  rw [Attribute.shortKind_http, upperText, String.toList_append, String.toList_ofList, upper_append,
    hstart, Attribute.upper_verbName hascii, String.ofList_append, String.ofList_toList]

end Manifest

/-- A verb is shown by `HTTP` and what follows, and `UNKNOWN` stands just where no attribute stands
for a verb. A shorthand comes before all other attributes and is shown in capitals, so the case of
its letters makes no difference in how controllers are described. -/
theorem verbs_of_methods :
    (∀ m : Method, (m.verb = "UNKNOWN" ∨ "HTTP".toList <+: m.verb.toList) ∧
      (m.verb = "UNKNOWN" ↔ ¬ m.HasVerb)) ∧
    (∀ (e : Manifest.MethodEntry) (v : String), e.http = some v →
      (∀ c ∈ v.toList, c.toNat < 128) →
      e.describe.verb = "HTTP" ++ .ofList (v.toList.map Char.toUpper)) ∧
    ∀ (m m' : Manifest) (docs : Documentation), m.lowerVerbs = m'.lowerVerbs →
      m.controllerTypes.map (·.describeController docs) =
        m'.controllerTypes.map (·.describeController docs) := by
  refine ⟨fun m => ⟨?_, Method.verb_eq_unknown_iff⟩, fun e v => Manifest.MethodEntry.verb_of_http,
    fun m m' docs h => ?_⟩
  · by_cases h : m.HasVerb
    · exact Or.inr (Method.verb_of_hasVerb h)
    · exact Or.inl (Method.verb_of_not_hasVerb h)
  · rw [← m.controllerTypes_lowerVerbs, h, m'.controllerTypes_lowerVerbs]

/-- A method with a shorthand for a verb and another verb behind. -/
def shorthand (verb : String) : Manifest.MethodEntry :=
  ⟨"m", some verb, [.bare "HttpGetAttribute"], [], true, false, false⟩

def ofShorthand (verb : String) : Manifest := ⟨[], [⟨"A", none, none, [], [shorthand verb]⟩]⟩

theorem shorthand_verbs :
    (shorthand "httpAttribute").describe.verb = "HTTPHTTPATTRIBUTE" ∧
      (ofShorthand "gEt").lowerVerbs = (ofShorthand "GET").lowerVerbs ∧
      (ofShorthand "gEt").controllerTypes.map (·.describeController .empty) =
        (ofShorthand "GET").controllerTypes.map (·.describeController .empty) := by
  have hletters : lowered "gEt" = lowered "GET" := by decide
  have hsame : (ofShorthand "gEt").lowerVerbs = (ofShorthand "GET").lowerVerbs := by
    have hentry : (shorthand "gEt").lowerVerb = (shorthand "GET").lowerVerb := by
      rw [Manifest.MethodEntry.lowerVerb, Manifest.MethodEntry.lowerVerb, shorthand, shorthand,
        Option.map_some, Option.map_some, hletters]
    simp only [ofShorthand, Manifest.lowerVerbs, Manifest.ControllerEntry.lowerVerbs, List.map_cons,
      List.map_nil, hentry]
  have hascii : ∀ c ∈ "httpAttribute".toList, c.toNat < 128 := by simp
  obtain ⟨-, hverb, halike⟩ := verbs_of_methods
  refine ⟨?_, hsame, halike _ _ .empty hsame⟩
  refine (hverb (shorthand "httpAttribute") "httpAttribute" rfl hascii).trans ?_
  decide

end TypeDocs
