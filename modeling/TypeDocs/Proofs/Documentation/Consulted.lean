import TypeDocs.Proofs.Documentation.Order
import TypeDocs.Proofs.Text.Runs

/-!
# Whose documentation is whose

A member is documented under its kind, the full name of its type, a dot and its own name, and an
overload of a method has its parameters in parentheses behind. The dots in the name of a type and
names that begin alike do not mislead: where the name of a member has no dot in it, and neither name
a parenthesis, what is documented of one member is answered for no other.
-/

namespace TypeDocs.Documentation

open Text

/-- Whether the summary under a name is asked for when a method is described: the name is that of
the method, or the same with parameters behind. -/
def consults (type method name : String) : Bool :=
  name == methodKey type method || startsWith (methodKey type method ++ "(") name

/-! ### Names -/

/-- The name of a type and that of a member of it with a dot between. -/
def qualified (type member : String) : List Char := type.toList ++ '.' :: member.toList

theorem toList_propertyKey (type property : String) :
    (propertyKey type property).toList = 'P' :: ':' :: qualified type property := by
  simp [propertyKey, qualified]

theorem toList_methodKey (type method : String) :
    (methodKey type method).toList = 'M' :: ':' :: qualified type method := by
  simp [methodKey, qualified]

theorem propertyKey_ne_methodKey (type property type' method : String) :
    propertyKey type property ≠ methodKey type' method := by
  intro h
  have hlist := congrArg String.toList h
  rw [toList_propertyKey, toList_methodKey] at hlist
  cases hlist

/-- A name that is asked for is that of the method, with nothing or a parenthesis behind. -/
theorem exists_of_consults {type method name : String} (h : consults type method name = true) :
    ∃ rest : List Char, name.toList = 'M' :: ':' :: (qualified type method ++ rest) ∧
      ∀ c ∈ rest.head?, (c == '(') = true := by
  rcases Bool.or_eq_true_iff.mp h with h | h
  · refine ⟨[], ?_, nofun⟩
    rw [beq_iff_eq.mp h, toList_methodKey, List.append_nil]
  · obtain ⟨rest, hrest⟩ := List.isPrefixOf_iff_prefix.mp h
    refine ⟨'(' :: rest, ?_, by simp⟩
    rw [← hrest, String.toList_append, toList_methodKey]
    simp

theorem ne_propertyKey_of_consults {type method name : String}
    (h : consults type method name = true) (type' property : String) :
    name ≠ propertyKey type' property := by
  rintro rfl
  obtain ⟨rest, hname, -⟩ := exists_of_consults h
  rw [toList_propertyKey] at hname
  cases hname

/-- The full name of a type and the name of a member of it. Only that of the type may have dots in
it, and neither an opening parenthesis. -/
@[ext]
structure MemberName where
  type : String
  member : String
  parenthesis_notMem_type : '(' ∉ type.toList
  dot_notMem_member : '.' ∉ member.toList
  parenthesis_notMem_member : '(' ∉ member.toList

namespace MemberName

variable {n m : MemberName}

/-- The last dot tells where the name of the member begins. -/
theorem eq_of_qualified (h : qualified n.type n.member = qualified m.type m.member) : n = m := by
  have hdot (k : MemberName) : ∀ c ∈ k.member.toList.reverse, (c == '.') = false := by
    intro c hc
    rw [beq_eq_false_iff_ne]
    rintro rfl
    exact k.dot_notMem_member (List.mem_reverse.mp hc)
  have hreverse := congrArg List.reverse h
  simp only [qualified, List.reverse_append, List.reverse_cons, List.append_assoc,
    List.singleton_append] at hreverse
  obtain ⟨hmember, htype⟩ := eq_and_eq_of_append_eq (p := (· == '.')) (hdot n) (hdot m)
    (by simp) (by simp) hreverse
  ext1
  · exact String.toList_inj.mp (List.reverse_inj.mp (List.cons.inj htype).2)
  · exact String.toList_inj.mp (List.reverse_inj.mp hmember)

theorem parenthesis_notMem_qualified (n : MemberName) :
    ∀ c ∈ qualified n.type n.member, (c == '(') = false := by
  intro c hc
  rw [beq_eq_false_iff_ne]
  rintro rfl
  simp [qualified, n.parenthesis_notMem_type, n.parenthesis_notMem_member] at hc

theorem propertyKey_injective :
    Function.Injective fun n : MemberName => propertyKey n.type n.member := by
  intro n m h
  have hlist := congrArg String.toList h
  rw [toList_propertyKey, toList_propertyKey] at hlist
  exact eq_of_qualified (List.cons.inj (List.cons.inj hlist).2).2

theorem methodKey_injective :
    Function.Injective fun n : MemberName => methodKey n.type n.member := by
  intro n m h
  have hlist := congrArg String.toList h
  rw [toList_methodKey, toList_methodKey] at hlist
  exact eq_of_qualified (List.cons.inj (List.cons.inj hlist).2).2

/-- The first parenthesis tells where the parameters begin. -/
theorem eq_of_consults {name : String} (hn : consults n.type n.member name = true)
    (hm : consults m.type m.member name = true) : n = m := by
  obtain ⟨rest, hname, hrest⟩ := exists_of_consults hn
  obtain ⟨rest', hname', hrest'⟩ := exists_of_consults hm
  rw [hname, List.cons.injEq, List.cons.injEq] at hname'
  exact eq_of_qualified (eq_and_eq_of_append_eq n.parenthesis_notMem_qualified
    m.parenthesis_notMem_qualified hrest hrest' hname'.2.2).1

end MemberName

/-! ### Answers -/

section Answers

variable {d e : Documentation} {type method s : String}

theorem mem_of_summary {name : String} (h : d.summary name = some s) : (name, s) ∈ d.members := by
  obtain ⟨before, after, hmembers, -⟩ :=
    List.lookup_eq_some_iff.mp (Option.filter_eq_some_iff.mp h).1
  rw [hmembers]
  exact List.mem_append_right _ List.mem_cons_self

theorem mem_of_foldl_lesser {ms : List (String × String)} {b : String × String}
    (h : ms.foldl lesser none = some b) : b ∈ ms := by
  cases ms with
  | nil => cases h
  | cons c ms =>
    obtain ⟨b', hb', hmem, -⟩ := foldl_lesser ms c
    cases hb'.symm.trans h
    exact hmem

/-- What is answered for a method is the text of a member that is asked for. -/
theorem exists_of_methodSummary (h : d.methodSummary type method = some s) :
    ∃ name, (name, s) ∈ d.members ∧ consults type method name = true := by
  rcases Option.or_eq_some_iff.mp h with hown | ⟨-, hoverload⟩
  · exact ⟨_, mem_of_summary hown, by rw [consults, beq_self_eq_true, Bool.true_or]⟩
  · obtain ⟨⟨name, t⟩, hleast, rfl⟩ := Option.map_eq_some_iff.mp hoverload
    obtain ⟨hmem, hname⟩ := List.mem_filter.mp (mem_of_foldl_lesser hleast)
    refine ⟨name, hmem, ?_⟩
    rw [consults, (Bool.and_eq_true_iff.mp hname).1, Bool.or_true]

/-- The members that are asked for when a method is described. -/
def consulted (d : Documentation) (type method : String) : List (String × String) :=
  d.members.filter fun entry => consults type method entry.1

/-- The members that are not. -/
def unconsulted (d : Documentation) (type method : String) : List (String × String) :=
  d.members.filter fun entry => !consults type method entry.1

theorem summary_of_consulted {name : String} (hname : consults type method name = true)
    (h : d.consulted type method = e.consulted type method) : d.summary name = e.summary name := by
  have hfound (f : Documentation) : (f.consulted type method).lookup name = f.members.lookup name :=
    lookup_filter hname f.members
  rw [summary, summary, ← hfound d, h, hfound]

theorem summary_of_unconsulted {name : String} (hname : consults type method name = false)
    (h : d.unconsulted type method = e.unconsulted type method) :
    d.summary name = e.summary name := by
  have hfound (f : Documentation) :
      (f.unconsulted type method).lookup name = f.members.lookup name :=
    lookup_filter (p := fun first => !consults type method first) (by rw [hname]; rfl) f.members
  rw [summary, summary, ← hfound d, h, hfound]

theorem filter_consulted {p : String × String → Bool}
    (hp : ∀ entry, p entry = true → consults type method entry.1 = true) (d : Documentation) :
    (d.consulted type method).filter p = d.members.filter p := by
  rw [consulted, List.filter_filter]
  refine List.filter_congr fun entry _ => ?_
  cases hentry : p entry with
  | false => rfl
  | true => rw [hp entry hentry, Bool.and_self]

/-- What is answered for a method hangs on the members that are asked for alone. -/
theorem methodSummary_of_consulted (h : d.consulted type method = e.consulted type method) :
    d.methodSummary type method = e.methodSummary type method := by
  have hown : d.summary (methodKey type method) = e.summary (methodKey type method) :=
    summary_of_consulted (by rw [consults, beq_self_eq_true, Bool.true_or]) h
  have hoverload (entry : String × String)
      (hentry : (startsWith (methodKey type method ++ "(") entry.1 && !entry.2.isEmpty) = true) :
      consults type method entry.1 = true := by
    rw [consults, (Bool.and_eq_true_iff.mp hentry).1, Bool.or_true]
  rw [methodSummary, methodSummary, hown, ← filter_consulted hoverload d,
    ← filter_consulted hoverload e, h]

/-- Whatever is documented of a method, all others are answered alike. -/
theorem methodSummary_of_unconsulted {n m : MemberName} (hne : m ≠ n)
    (h : d.unconsulted n.type n.member = e.unconsulted n.type n.member) :
    d.methodSummary m.type m.member = e.methodSummary m.type m.member := by
  -- What is asked for of the one is not asked for of the other, so leaving it out drops nothing.
  have hothers (f : Documentation) :
      (f.unconsulted n.type n.member).filter (fun entry => consults m.type m.member entry.1) =
        f.consulted m.type m.member := by
    rw [unconsulted, consulted, List.filter_filter]
    refine List.filter_congr fun entry _ => ?_
    cases hasked : consults m.type m.member entry.1 with
    | false => rfl
    | true =>
      cases hother : consults n.type n.member entry.1 with
      | false => rfl
      | true => exact absurd (MemberName.eq_of_consults hasked hother) hne
  apply methodSummary_of_consulted
  rw [← hothers d, ← hothers e, h]

theorem propertySummary_of_unconsulted (h : d.unconsulted type method = e.unconsulted type method)
    (type' property : String) :
    d.propertySummary type' property = e.propertySummary type' property := by
  refine summary_of_unconsulted (Bool.eq_false_iff.mpr fun hasked => ?_) h
  exact ne_propertyKey_of_consults hasked type' property rfl

end Answers

/-- The names under which properties and methods are documented are all different. What is answered
for a method is the text of a member that has the method's name, with nothing or a parenthesis
behind, and such a member is asked for no other method and no property. Nothing else has a part in
the answer, so whatever is documented of a method, all others are answered as without it. -/
theorem documented_apart :
    (Function.Injective fun n : MemberName => propertyKey n.type n.member) ∧
    (Function.Injective fun n : MemberName => methodKey n.type n.member) ∧
    (∀ n m : MemberName, propertyKey n.type n.member ≠ methodKey m.type m.member) ∧
    (∀ (d : Documentation) (n : MemberName) (s : String),
      d.methodSummary n.type n.member = some s →
      ∃ name, (name, s) ∈ d.members ∧ consults n.type n.member name = true ∧
        (∀ m : MemberName, consults m.type m.member name = true → m = n) ∧
        ∀ type property, name ≠ propertyKey type property) ∧
    ∀ (d e : Documentation) (n : MemberName),
      (d.consulted n.type n.member = e.consulted n.type n.member →
        d.methodSummary n.type n.member = e.methodSummary n.type n.member) ∧
      (d.unconsulted n.type n.member = e.unconsulted n.type n.member →
        (∀ m : MemberName, m ≠ n →
          d.methodSummary m.type m.member = e.methodSummary m.type m.member) ∧
        ∀ type property, d.propertySummary type property = e.propertySummary type property) := by
  refine ⟨MemberName.propertyKey_injective, MemberName.methodKey_injective,
    fun n m => propertyKey_ne_methodKey _ _ _ _, fun d n s h => ?_,
    fun d e n => ⟨methodSummary_of_consulted, fun h => ⟨fun m hm => ?_, ?_⟩⟩⟩
  · obtain ⟨name, hmem, hasked⟩ := exists_of_methodSummary h
    exact ⟨name, hmem, hasked, fun m hm => MemberName.eq_of_consults hm hasked,
      ne_propertyKey_of_consults hasked⟩
  · exact methodSummary_of_unconsulted hm h
  · exact propertySummary_of_unconsulted h

/-- A method, and one of a type that is named as if it were in the method. -/
def outer : MemberName := ⟨"A", "f", by decide, by decide, by decide⟩

def inner : MemberName := ⟨"A.f", "g", by decide, by decide, by decide⟩

def bothDocs : Documentation := ⟨[("M:A.f.g", "y"), ("M:A.fg", "w"), ("M:A.f(B.g)", "x")]⟩

/-- The same with another overload for the first method. -/
def otherDocs : Documentation := ⟨[("M:A.f.g", "y"), ("M:A.fg", "w"), ("M:A.f(A)", "z")]⟩

theorem outer_inner_apart :
    (∃ name, (name, "x") ∈ bothDocs.members ∧ consults "A" "f" name = true ∧
      consults "A.f" "g" name = false) ∧
    bothDocs.unconsulted "A" "f" = otherDocs.unconsulted "A" "f" ∧ inner ≠ outer ∧
    bothDocs.methodSummary "A.f" "g" = otherDocs.methodSummary "A.f" "g" := by
  obtain ⟨-, -, -, hanswer, hagree⟩ := documented_apart
  have hx : bothDocs.methodSummary "A" "f" = some "x" := by decide +kernel
  have hne : inner ≠ outer := fun h => absurd (congrArg MemberName.member h) (by decide)
  have hsame : bothDocs.unconsulted "A" "f" = otherDocs.unconsulted "A" "f" := by decide +kernel
  obtain ⟨name, hmem, hasked, honly, -⟩ := hanswer bothDocs outer "x" hx
  refine ⟨⟨name, hmem, hasked, ?_⟩, hsame, hne, ?_⟩
  · exact Bool.eq_false_iff.mpr fun hother => hne (honly inner hother)
  · exact ((hagree bothDocs otherDocs outer).2 hsame).1 inner hne

end TypeDocs.Documentation
