import Mathlib.Data.List.Nodup
import TypeDocs.Proofs.Documentation.Unfinished
import TypeDocs.Proofs.Text.ByteOrder

/-!
# The order of members

Members with names of their own may stand in any order: what is asked of the documentation hangs
only on which members there are. Of the overloads of a method that say something the one whose name
has the least bytes answers for the method, unless the method has a summary of its own.
-/

namespace TypeDocs.Documentation

open Xml

/-! ### Members as they are written -/

/-- A member as it is written, and what its summaries show. -/
structure MemberElement where
  name : String
  body : Content
  shown : List (List (List Char))
  inFormat : Body body shown

/-- The summaries of a member under its name. -/
def MemberElement.entries (e : MemberElement) : List (String × List (List Char)) :=
  e.shown.map (e.name, ·)

/-- The content of a whole text, and the members in it in their order. -/
inductive MadeOf : Content → List MemberElement → Prop where
  | last {t : CharData} : MadeOf (.last t) []
  | leaf {t : CharData} {l : Xml.Leaf} {rest : Content} {after : List MemberElement}
    (hrest : MadeOf rest after) : MadeOf (.leaf t l rest) after
  | member {t : CharData} {tag : Tag} {rest : Content} {space : Space} {after : List MemberElement}
    (e : MemberElement) (hmember : tag.name.chars = memberTag)
    (hname : tag.given "name" = .ok (some e.name)) (hrest : MadeOf rest after) :
    MadeOf (.element t tag e.body space rest) (e :: after)
  | element {t : CharData} {tag : Tag} {inner rest : Content} {space : Space}
    {within after : List MemberElement}
    (hmember : tag.name.chars = memberTag → tag.given "name" = .ok none)
    (hinner : MadeOf inner within) (hrest : MadeOf rest after) :
    MadeOf (.element t tag inner space rest) (within ++ after)

theorem MadeOf.members {c : Content} {es : List MemberElement} (h : MadeOf c es) :
    Members c (es.flatMap MemberElement.entries) := by
  induction h with
  | last => exact .last
  | leaf hrest ih => exact .leaf ih
  | member e hmember hname hrest ih => exact .member hmember hname e.inFormat ih
  | element hmember hinner hrest ihInner ihRest =>
    rw [List.flatMap_append]
    exact .element hmember ihInner ihRest

theorem MemberElement.lookup_entries_of_ne {e : MemberElement} {name : String}
    (h : name ≠ e.name) : e.entries.lookup name = none := by
  rw [List.lookup_eq_none_iff]
  intro p hp
  obtain ⟨shown, -, rfl⟩ := List.mem_map.mp hp
  exact bne_iff_ne.mpr h

/-- Under each name the same is found in members that are put in another order. -/
theorem lookup_entries_of_perm {es es' : List MemberElement} (h : es.Perm es')
    (hnames : (es.map (·.name)).Nodup) (name : String) :
    (es'.flatMap MemberElement.entries).lookup name =
      (es.flatMap MemberElement.entries).lookup name := by
  induction h with
  | nil => rfl
  | cons e h ih =>
    rw [List.flatMap_cons, List.flatMap_cons, List.lookup_append, List.lookup_append,
      ih (List.nodup_cons.mp hnames).2]
  | swap a b es =>
    have hne : b.name ≠ a.name := by
      intro heq
      exact (List.nodup_cons.mp hnames).1 (List.mem_cons.mpr (Or.inl heq))
    rw [List.flatMap_cons, List.flatMap_cons, List.flatMap_cons, List.flatMap_cons,
      List.lookup_append, List.lookup_append, List.lookup_append, List.lookup_append]
    by_cases ha : name = a.name
    · rw [MemberElement.lookup_entries_of_ne (ha ▸ hne.symm : name ≠ b.name)]
      rfl
    · rw [MemberElement.lookup_entries_of_ne ha]
      rfl
  | trans h h' ih ih' => rw [ih' (((h.map _).nodup_iff).mp hnames), ih hnames]

/-! ### Which overload answers -/

theorem nodup_of_steps {r r' : Reading} {ms : List Markup} (h : r.steps ms = .ok r')
    (hnodup : (r.members.map (·.1)).Nodup) : (r'.members.map (·.1)).Nodup := by
  induction ms generalizing r with
  | nil =>
    cases h
    exact hnodup
  | cons m ms ih =>
    obtain ⟨next, hstep, hrest⟩ := exists_of_bind_eq_ok h
    exact ih hrest ((kept_of_step hstep).nodup hnodup)

theorem nodup_of_parse {xml : String} {d : Documentation} (h : parse xml = .ok d) :
    (d.members.map (·.1)).Nodup := by
  obtain ⟨r, hsteps, hmembers⟩ := steps_of_parse (Prod.mk.eta (p := pieces xml.toList)).symm h
  rw [hmembers]
  exact nodup_of_steps hsteps List.nodup_nil

/-- Of some members one with the least name is taken. -/
theorem foldl_lesser (ms : List (String × String)) (a : String × String) :
    ∃ b, ms.foldl lesser (some a) = some b ∧ b ∈ a :: ms ∧ ∀ m ∈ a :: ms, ¬ m.1 < b.1 := by
  induction ms generalizing a with
  | nil =>
    refine ⟨a, rfl, List.mem_cons_self, fun m hm => ?_⟩
    rw [List.mem_singleton.mp hm]
    exact lt_irrefl _
  | cons c ms ih =>
    rw [List.foldl_cons, lesser]
    by_cases hc : c.1 < a.1
    · obtain ⟨b, hb, hmem, hleast⟩ := ih c
      rw [if_pos hc]
      refine ⟨b, hb, List.mem_cons_of_mem _ hmem, List.forall_mem_cons.mpr ⟨?_, hleast⟩⟩
      exact fun hab => hleast c List.mem_cons_self (hc.trans hab)
    · obtain ⟨b, hb, hmem, hleast⟩ := ih a
      obtain ⟨ha, hrest⟩ := List.forall_mem_cons.mp hleast
      rw [if_neg hc]
      refine ⟨b, hb, ?_, ?_⟩
      · rcases List.mem_cons.mp hmem with rfl | hmem
        · exact List.mem_cons_self
        · exact List.mem_cons_of_mem _ (List.mem_cons_of_mem _ hmem)
      · refine List.forall_mem_cons.mpr ⟨ha, List.forall_mem_cons.mpr ⟨?_, hrest⟩⟩
        exact fun hcb => hc (hcb.trans_le (not_lt.mp ha))

variable {d : Documentation} {type method key name s : String}

/-- Whether a member is an overload of the method with a key, and has a summary that says
something. -/
def Overload (d : Documentation) (key name s : String) : Prop :=
  Text.startsWith (key ++ "(") name = true ∧ d.summary name = some s

/-- An overload that says something, when none of those has lesser bytes in its name. -/
structure LeastOverload (d : Documentation) (key name s : String) : Prop where
  overload : d.Overload key name s
  least : ∀ other t, d.Overload key other t → ¬ Text.bytes other < Text.bytes name

/-- What is answered for a method. -/
inductive MethodAnswer (d : Documentation) (type method s : String) : Prop where
  | own (hown : d.summary (methodKey type method) = some s)
  | overload {name : String} (hown : d.summary (methodKey type method) = none)
    (hname : d.LeastOverload (methodKey type method) name s)

theorem summary_eq_some_iff (hnodup : (d.members.map (·.1)).Nodup) :
    d.summary name = some s ↔ (name, s) ∈ d.members ∧ s.isEmpty = false := by
  rw [summary, Option.filter_eq_some_iff, Bool.not_eq_true']
  refine and_congr_left fun _ => ?_
  rw [List.lookup_eq_some_iff]
  constructor
  · rintro ⟨before, after, hmembers, -⟩
    rw [hmembers]
    exact List.mem_append_right _ List.mem_cons_self
  · intro hmem
    obtain ⟨before, after, hmembers⟩ := List.append_of_mem hmem
    refine ⟨before, after, hmembers, fun p hp => bne_iff_ne.mpr fun heq => ?_⟩
    rw [hmembers, List.map_append, List.map_cons, List.nodup_append] at hnodup
    exact hnodup.2.2 p.1 (List.mem_map_of_mem hp) name List.mem_cons_self heq.symm

theorem mem_overloads_iff (hnodup : (d.members.map (·.1)).Nodup) :
    (name, s) ∈ d.members.filter
        (fun (name, s) => Text.startsWith (key ++ "(") name && !s.isEmpty) ↔
      d.Overload key name s := by
  rw [List.mem_filter, Overload, summary_eq_some_iff hnodup, Bool.and_eq_true, Bool.not_eq_true']
  exact and_left_comm

theorem foldl_lesser_overloads (hnodup : (d.members.map (·.1)).Nodup) :
    ((d.members.filter fun (name, s) => Text.startsWith (key ++ "(") name && !s.isEmpty).foldl
      lesser none).map (·.2) = some s ↔ ∃ name, d.LeastOverload key name s := by
  have hmem {name s} := @mem_overloads_iff d key name s hnodup
  generalize d.members.filter (fun (name, s) => Text.startsWith (key ++ "(") name && !s.isEmpty) =
    overloads at hmem
  cases overloads with
  | nil =>
    refine ⟨nofun, ?_⟩
    rintro ⟨name, hname⟩
    cases hmem.mpr hname.overload
  | cons c cs =>
    obtain ⟨b, hb, hbmem, hleast⟩ := foldl_lesser cs c
    have hfold : (c :: cs).foldl lesser none = some b := hb
    have hoverload : d.Overload key b.1 b.2 := hmem.mp hbmem
    rw [hfold, Option.map_some]
    constructor
    · intro h
      cases h
      refine ⟨b.1, hoverload, fun other t hother => ?_⟩
      rw [← Text.lt_iff_bytes_lt]
      exact hleast (other, t) (hmem.mpr hother)
    · rintro ⟨name, hname⟩
      have hle : ¬ b.1 < name := by
        rw [Text.lt_iff_bytes_lt]
        exact hname.least b.1 b.2 hoverload
      have hge : ¬ name < b.1 := hleast (name, s) (hmem.mpr hname.overload)
      have heq : b.1 = name := le_antisymm (not_lt.mp hge) (not_lt.mp hle)
      have hsummary := hoverload.2
      rw [heq, hname.overload.2] at hsummary
      exact hsummary.symm

theorem methodSummary_eq_some_iff (hnodup : (d.members.map (·.1)).Nodup) :
    d.methodSummary type method = some s ↔ d.MethodAnswer type method s := by
  unfold methodSummary
  dsimp only
  cases hown : d.summary (methodKey type method) with
  | some t =>
    rw [Option.some_or]
    constructor
    · intro h
      exact .own (hown.trans h)
    · rintro (h | ⟨h, -⟩)
      · exact hown.symm.trans h
      · rw [hown] at h
        cases h
  | none =>
    rw [Option.none_or, foldl_lesser_overloads hnodup]
    constructor
    · rintro ⟨name, hname⟩
      exact .overload hown hname
    · rintro (h | ⟨-, hname⟩)
      · rw [hown] at h
        cases h
      · exact ⟨_, hname⟩

theorem LeastOverload.of_summary {d' : Documentation} (h : ∀ name, d'.summary name = d.summary name)
    (hname : d.LeastOverload key name s) : d'.LeastOverload key name s := by
  have hoverload (name t : String) : d'.Overload key name t ↔ d.Overload key name t := by
    rw [Overload, Overload, h]
  refine ⟨(hoverload name s).mpr hname.overload, fun other t hother => ?_⟩
  exact hname.least other t ((hoverload other t).mp hother)

theorem MethodAnswer.of_summary {d' : Documentation} (h : ∀ name, d'.summary name = d.summary name)
    (hanswer : d.MethodAnswer type method s) : d'.MethodAnswer type method s := by
  cases hanswer with
  | own hown => exact .own ((h _).trans hown)
  | overload hown hname => exact .overload ((h _).trans hown) (hname.of_summary h)

/-- What is answered for a method hangs on the summaries of members alone. -/
theorem methodSummary_of_summary {d' : Documentation} (hnodup : (d.members.map (·.1)).Nodup)
    (hnodup' : (d'.members.map (·.1)).Nodup) (h : ∀ name, d'.summary name = d.summary name) :
    d'.methodSummary type method = d.methodSummary type method := by
  apply Option.ext
  intro s
  rw [methodSummary_eq_some_iff hnodup', methodSummary_eq_some_iff hnodup]
  exact ⟨.of_summary fun name => (h name).symm, .of_summary h⟩

/-! ### Texts with the same members -/

/-- Texts made of the same members in any order are both read, and answer alike whatever is asked.
What any text that is read answers for a method is the summary of the method itself, else that of
the overload whose name has the least bytes. -/
theorem answers_of_perm {doc doc' : Document} {es es' : List MemberElement}
    (h : MadeOf doc.content es) (h' : MadeOf doc'.content es') (hperm : es.Perm es')
    (hnames : (es.map (·.name)).Nodup) :
    (∃ d d', parse doc.text = .ok d ∧ parse doc'.text = .ok d' ∧
      d'.members.length = d.members.length ∧
      (∀ member, d'.summary member = d.summary member) ∧
      (∀ type property, d'.propertySummary type property = d.propertySummary type property) ∧
      ∀ type method, d'.methodSummary type method = d.methodSummary type method) ∧
    ∀ xml d, parse xml = .ok d → ∀ type method s,
      d.methodSummary type method = some s ↔ d.MethodAnswer type method s := by
  refine ⟨?_, fun xml d hparse type method s => methodSummary_eq_some_iff (nodup_of_parse hparse)⟩
  have hparse := parse_of_members h.members
  have hparse' := parse_of_members h'.members
  generalize hd : (es.flatMap MemberElement.entries).foldl keep [] = ms at hparse
  generalize hd' : (es'.flatMap MemberElement.entries).foldl keep [] = ms' at hparse'
  have hlookup : ∀ name, ms'.lookup name = ms.lookup name := by
    intro name
    rw [← hd, ← hd', lookup_kept, lookup_kept, lookup_entries_of_perm hperm hnames]
  have hsummary : ∀ member, summary ⟨ms'⟩ member = summary ⟨ms⟩ member := by
    intro member
    rw [summary, summary, hlookup]
  have hnodup := nodup_of_parse hparse
  have hnodup' := nodup_of_parse hparse'
  refine ⟨⟨ms⟩, ⟨ms'⟩, hparse, hparse', ?_, hsummary, fun type property => hsummary _,
    fun type method => methodSummary_of_summary hnodup hnodup' hsummary⟩
  have hkeys : (ms'.map (·.1)).Perm (ms.map (·.1)) := by
    refine (List.perm_ext_iff_of_nodup hnodup' hnodup).mpr fun name => ?_
    rw [← isSome_lookup_iff, ← isSome_lookup_iff, hlookup]
  have hlength := hkeys.length_eq
  rwa [List.length_map, List.length_map] at hlength

/-- A member with one summary. -/
def memberOf (name : String) (t : CharData) {cs : List Char} (ht : Written t.chars cs) :
    MemberElement where
  name := name
  body := .element noText (tagOf summaryName []) (.last t) noSpace (.last noText)
  shown := [[cs]]
  inFormat := .summary rfl (.last ht) .last

def nameTag (value : List Char) (h : '"' ∉ value) : Tag :=
  tagOf memberName [attributeOf nameKey value h]

/-- Two overloads of a method. -/
def firstOverload : MemberElement :=
  memberOf "M:A.f(B)" ⟨['x'], by decide⟩ (resolved_eq_ok_iff.mp rfl : Written ['x'] ['x'])

def secondOverload : MemberElement :=
  memberOf "M:A.f(C)" ⟨['y'], by decide⟩ (resolved_eq_ok_iff.mp rfl : Written ['y'] ['y'])

def inOrder : Document where
  mark := false
  content := .element noText (nameTag "M:A.f(B)".toList (by decide)) firstOverload.body noSpace
    (.element noText (nameTag "M:A.f(C)".toList (by decide)) secondOverload.body noSpace
      (.last noText))
  begins := by decide

def reordered : Document where
  mark := false
  content := .element noText (nameTag "M:A.f(C)".toList (by decide)) secondOverload.body noSpace
    (.element noText (nameTag "M:A.f(B)".toList (by decide)) firstOverload.body noSpace
      (.last noText))
  begins := by decide

theorem reordered_answers :
    MadeOf inOrder.content [firstOverload, secondOverload] ∧
      MadeOf reordered.content [secondOverload, firstOverload] ∧
      ∃ d d', parse inOrder.text = .ok d ∧ parse reordered.text = .ok d' ∧
        d'.members.length = d.members.length ∧
        d'.methodSummary "A" "f" = d.methodSummary "A" "f" ∧
        ∀ s, d'.methodSummary "A" "f" = some s ↔ d'.MethodAnswer "A" "f" s := by
  have hfirst : MadeOf inOrder.content [firstOverload, secondOverload] :=
    .member firstOverload rfl rfl (.member secondOverload rfl rfl .last)
  have hsecond : MadeOf reordered.content [secondOverload, firstOverload] :=
    .member secondOverload rfl rfl (.member firstOverload rfl rfl .last)
  have hnames : ([firstOverload, secondOverload].map (·.name)).Nodup := by decide
  obtain ⟨⟨d, d', hparse, hparse', hlength, -, -, hmethod⟩, hanswer⟩ :=
    answers_of_perm hfirst hsecond (List.Perm.swap _ _ _) hnames
  exact ⟨hfirst, hsecond, d, d', hparse, hparse', hlength, hmethod "A" "f",
    hanswer _ d' hparse' "A" "f"⟩

end TypeDocs.Documentation
