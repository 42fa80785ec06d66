import TypeDocs.Proofs.Text.Runs
import TypeDocs.TypePath

/-!
# Shortened type paths

A text falls into paths, some of them empty, with one character between two of them that is in no
path. Shortening keeps those characters and puts the name of each path in its place. There is no
double colon in a name, so there is none in what is left, and to shorten that changes nothing.
-/

namespace TypeDocs.TypePath

open Text (Apart apart_cons_iff apart_nil)

variable {path name cs ds : List Char}

/-- The name of a path is what follows its last double colon, all of it if there is none. -/
inductive IsName : List Char → List Char → Prop where
  | whole {path : List Char} (h : Apart ':' path) : IsName path path
  | behind (before : List Char) {name : List Char} (h : Apart ':' (':' :: name)) :
    IsName (before ++ ':' :: ':' :: name) name

/-- The second text is the first with names in place of all paths. -/
inductive Shortened : List Char → List Char → Prop where
  | last {path name : List Char} (hpath : ∀ c ∈ path, inPath c = true) (hname : IsName path name) :
    Shortened path name
  | cons {path name cs ds : List Char} {c : Char} (hpath : ∀ c ∈ path, inPath c = true)
    (hname : IsName path name) (hc : inPath c = false) (hrest : Shortened cs ds) :
    Shortened (path ++ c :: cs) (name ++ c :: ds)

/-! ### Names -/

theorem apart_reverse_iff : Apart ':' cs.reverse ↔ Apart ':' cs := by
  have hdouble : [':', ':'].reverse <:+: cs.reverse ↔ [':', ':'] <:+: cs := List.reverse_infix
  exact not_congr hdouble

/-- A path that is given last character first has no double colon, or its name precedes one. -/
theorem beforeColons_cases (path : List Char) :
    (Apart ':' path ∧ beforeColons path = path) ∨
    ∃ before, path = beforeColons path ++ ':' :: ':' :: before ∧
      Apart ':' (beforeColons path ++ [':']) := by
  fun_induction beforeColons path with
  | case1 before =>
    exact .inr ⟨before, rfl, apart_cons_iff.mpr ⟨fun _ => nofun, apart_nil ':'⟩⟩
  | case2 c cs hne ih =>
    rcases ih with ⟨hcs, heq⟩ | ⟨before, heq, hcs⟩
    · refine .inl ⟨apart_cons_iff.mpr ⟨fun hc hhead => ?_, hcs⟩, by rw [heq]⟩
      obtain ⟨tail, htail⟩ := List.head?_eq_some_iff.mp hhead
      exact hne tail hc htail
    · refine .inr ⟨before, congrArg (c :: ·) heq, apart_cons_iff.mpr ⟨fun hc hhead => ?_, hcs⟩⟩
      -- The name begins with a colon or is empty, and so `cs` begins with one.
      have hhead' : cs.head? = some ':' := by
        rw [heq]
        cases hname : beforeColons cs with
        | nil => rfl
        | cons d name => rwa [hname] at hhead
      obtain ⟨tail, htail⟩ := List.head?_eq_some_iff.mp hhead'
      exact hne tail hc htail
  | case3 => exact .inl ⟨apart_nil ':', rfl⟩

theorem isName_nameOfReverse (path : List Char) : IsName path.reverse (nameOfReverse path) := by
  rw [nameOfReverse]
  rcases beforeColons_cases path with ⟨hpath, heq⟩ | ⟨before, heq, hname⟩
  · rw [heq]
    exact .whole (apart_reverse_iff.mpr hpath)
  · have hreverse : path.reverse =
        before.reverse ++ ':' :: ':' :: (beforeColons path).reverse := by
      rw [congrArg List.reverse heq]
      simp
    rw [hreverse]
    refine .behind _ ?_
    rw [← apart_reverse_iff]
    simpa using hname

namespace IsName

theorem isSuffix (h : IsName path name) : name <:+ path := by
  cases h with
  | whole => exact List.suffix_refl path
  | behind before => exact ⟨before ++ [':', ':'], by simp⟩

theorem apart (h : IsName path name) : Apart ':' name := by
  cases h with
  | whole h => exact h
  | behind before h => exact (apart_cons_iff.mp h).2

theorem unique {other : List Char} (h : IsName path name) (hother : IsName path other) :
    name = other := by
  have hlast {as bs : List Char} (hsuffix : ':' :: ':' :: as <:+ ':' :: ':' :: bs)
      (hbs : Apart ':' (':' :: bs)) : as = bs := by
    rcases List.suffix_cons_iff.mp hsuffix with heq | hsuffix
    · simpa using heq
    · exact absurd ((List.prefix_append [':', ':'] as).isInfix.trans hsuffix.isInfix) hbs
  generalize hpath : path = path' at hother
  cases h with
  | whole h =>
    cases hother with
    | whole => exact hpath
    | behind before =>
      rw [hpath] at h
      exact absurd ⟨before, other, by simp⟩ h
  | behind before h =>
    cases hother with
    | whole h' =>
      rw [← hpath] at h'
      exact absurd ⟨before, name, by simp⟩ h'
    | behind before' h' =>
      have hsuffix : ':' :: ':' :: name <:+ before' ++ ':' :: ':' :: other := ⟨before, hpath⟩
      rcases List.suffix_or_suffix_of_suffix hsuffix (List.suffix_append before' _) with hs | hs
      · exact hlast hs h'
      · exact (hlast hs h).symm

end IsName

/-! ### Texts -/

theorem shortened_shortenFrom (hpath : ∀ c ∈ path, inPath c = true) (cs : List Char) :
    Shortened (path.reverse ++ cs) (shortenFrom path cs) := by
  have hreverse {path : List Char} (hpath : ∀ c ∈ path, inPath c = true) :
      ∀ c ∈ path.reverse, inPath c = true := fun c hc => hpath c (List.mem_reverse.mp hc)
  induction cs generalizing path with
  | nil =>
    rw [List.append_nil]
    exact .last (hreverse hpath) (isName_nameOfReverse path)
  | cons c cs ih =>
    rw [shortenFrom]
    by_cases hc : inPath c = true
    · rw [if_pos hc]
      have hgrown := ih (List.forall_mem_cons.mpr ⟨hc, hpath⟩)
      rwa [List.reverse_cons, List.append_assoc] at hgrown
    · rw [if_neg hc]
      exact .cons (hreverse hpath) (isName_nameOfReverse path) (by simpa using hc)
        (ih (List.forall_mem_nil _))

theorem shortenFrom_append_cons {c : Char} (hc : inPath c = false) (path cs ds : List Char) :
    shortenFrom path (cs ++ c :: ds) = shortenFrom path cs ++ c :: shortenFrom [] ds := by
  induction cs generalizing path with
  | nil => simp [shortenFrom, hc]
  | cons b cs ih =>
    rw [List.cons_append, shortenFrom, shortenFrom]
    by_cases hb : inPath b = true
    · rw [if_pos hb, if_pos hb, ih]
    · rw [if_neg hb, if_neg hb, ih, List.append_assoc, List.cons_append]

namespace Shortened

/-- Where a path ends is told by the first character that is in no path. -/
theorem unique {es : List Char} (h : Shortened cs ds) (hother : Shortened cs es) : ds = es := by
  have hends {c : Char} {cs : List Char} (hc : inPath c = false) :
      ∀ x ∈ (c :: cs).head?, (!inPath x) = true := by simp [hc]
  have hnil : ∀ x ∈ ([] : List Char).head?, (!inPath x) = true := by simp
  have hin {path : List Char} (hpath : ∀ c ∈ path, inPath c = true) :
      ∀ c ∈ path, (!inPath c) = false := by simpa using hpath
  induction h generalizing es with
  | @last path name hpath hname =>
    generalize hcs : path = cs at hother
    cases hother with
    | last _ hname' => exact hname.unique (hcs ▸ hname')
    | cons hpath' _ hc' _ =>
      have hsplit := Text.eq_and_eq_of_append_eq (hin hpath) (hin hpath') hnil (hends hc')
        ((List.append_nil path).trans hcs)
      exact absurd hsplit.2 (List.cons_ne_nil _ _).symm
  | @cons path name cs ds c hpath hname hc hrest ih =>
    generalize hcs : path ++ c :: cs = whole at hother
    cases hother with
    | last hpath' _ =>
      have hsplit := Text.eq_and_eq_of_append_eq (hin hpath) (hin hpath') (hends hc) hnil
        (hcs.trans (List.append_nil whole).symm)
      exact absurd hsplit.2 (List.cons_ne_nil _ _)
    | cons hpath' hname' hc' hrest' =>
      obtain ⟨rfl, hsplit⟩ :=
        Text.eq_and_eq_of_append_eq (hin hpath) (hin hpath') (hends hc) (hends hc') hcs
      obtain ⟨rfl, rfl⟩ := List.cons.inj hsplit
      rw [hname.unique hname', ih hrest']

/-- What stands between two names is no colon. -/
theorem apart (h : Shortened cs ds) : Apart ':' ds := by
  induction h with
  | last _ hname => exact hname.apart
  | @cons path name cs ds c hpath hname hc hrest ih =>
    have hcolon : c ≠ ':' := by
      rintro rfl
      simp [inPath] at hc
    exact hname.apart.append_cons hcolon ih

theorem self (h : Shortened cs ds) : Shortened ds ds := by
  induction h with
  | last hpath hname =>
    exact .last (fun c hc => hpath c (hname.isSuffix.subset hc)) (.whole hname.apart)
  | cons hpath hname hc _ ih =>
    exact .cons (fun c hc => hpath c (hname.isSuffix.subset hc)) (.whole hname.apart) hc ih

end Shortened

theorem shorten_eq_iff {s t : String} : shorten s = t ↔ Shortened s.toList t.toList := by
  have hshort : Shortened s.toList (shorten s).toList := by
    rw [shorten, String.toList_ofList]
    exact shortened_shortenFrom (List.forall_mem_nil _) s.toList
  constructor
  · rintro rfl
    exact hshort
  · exact fun h => String.toList_inj.mp (hshort.unique h)

/-- Shortening puts its name in place of every path and nothing else, so each side of a character
that is in no path by itself. It leaves no double colon, and what it leaves it does not change. -/
theorem shorten_paths (s : String) :
    (∀ t, shorten s = t ↔ Shortened s.toList t.toList) ∧
    (∀ before c after, inPath c = false → s = before ++ .singleton c ++ after →
      shorten s = shorten before ++ .singleton c ++ shorten after) ∧
    ¬ "::".toList <:+: (shorten s).toList ∧
    shorten (shorten s) = shorten s := by
  have hshort : Shortened s.toList (shorten s).toList := shorten_eq_iff.mp rfl
  refine ⟨fun t => shorten_eq_iff, fun before c after hc hs => ?_, hshort.apart,
    shorten_eq_iff.mpr hshort.self⟩
  apply String.toList_inj.mp
  simp only [hs, shorten, String.toList_append, String.toList_singleton, String.toList_ofList,
    List.append_assoc, List.singleton_append]
  exact shortenFrom_append_cons hc [] before.toList after.toList

theorem shorten_mapOfThings :
    inPath '<' = false ∧
    shorten "std::Map<my::Thing>" = shorten "std::Map" ++ .singleton '<' ++ shorten "my::Thing>" ∧
    shorten "std::Map<my::Thing>" = "Map<Thing>" := by
  have hc : inPath '<' = false := by decide
  have hsides := (shorten_paths "std::Map<my::Thing>").2.1 "std::Map" '<' "my::Thing>" hc rfl
  exact ⟨hc, hsides, hsides.trans (by decide)⟩

end TypeDocs.TypePath
