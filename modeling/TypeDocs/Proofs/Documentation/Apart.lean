import TypeDocs.Proofs.Documentation.Standing

/-!
# Readings that differ for one member

Two readings may differ in what is kept for one member, in whether this member is read, and in
words that can only come to be kept for it. They go on to differ in no more, whatever is read.
-/

namespace TypeDocs.Documentation

open Xml

/-! ### Tags one by one -/

section Tags

variable (r : Reading) {name tag : List Char}

theorem opening_member (h : tagName tag = memberTag) :
    r.step (.opening tag) = (attribute? tag "name").map fun member => { r with member } := by
  simp only [Reading.step, h, beq_self_eq_true, if_true]
  rfl

/-- Begins a summary of the member that is read, if any. -/
def beginSummary : Reading :=
  if r.member.isSome then { r with words := some [] } else r

theorem opening_summary (h : tagName tag = summaryTag) :
    r.step (.opening tag) = .ok (beginSummary r) := by
  have hne : (summaryTag == memberTag) = false := by decide
  simp only [Reading.step, h, hne, Bool.false_eq_true, if_false, beq_self_eq_true, Bool.true_and]
  unfold beginSummary
  split <;> rfl

theorem opening_other (hmember : tagName tag ≠ memberTag) (hsummary : tagName tag ≠ summaryTag) :
    r.step (.opening tag) = .ok r := by
  simp [Reading.step, hmember, hsummary]

theorem closing_summary : r.step (.closing summaryTag) = .ok r.endSummary := rfl

theorem closing_other (hmember : name ≠ memberTag) (hsummary : name ≠ summaryTag) :
    r.step (.closing name) = .ok r := by
  simp [Reading.step, hmember, hsummary]

@[simp] theorem endSummary_member : r.endSummary.member = r.member := by
  unfold Reading.endSummary
  split <;> rfl

@[simp] theorem endSummary_words : r.endSummary.words = none := by
  unfold Reading.endSummary
  split <;> rfl

@[simp] theorem beginSummary_members : (beginSummary r).members = r.members := by
  unfold beginSummary
  split <;> rfl

@[simp] theorem beginSummary_member : (beginSummary r).member = r.member := by
  unfold beginSummary
  split <;> rfl

theorem beginSummary_of_member (h : r.member ≠ none) :
    beginSummary r = { r with words := some [] } := by
  rw [beginSummary, if_pos (Option.isSome_iff_ne_none.mpr h)]

theorem beginSummary_of_member_eq_none (h : r.member = none) : beginSummary r = r := by
  rw [beginSummary, h, Option.isSome_none, if_neg Bool.false_ne_true]

end Tags

/-! ### What is kept for others -/

/-- What is kept, but for one member. -/
def others (own : Option String) (members : List (String × String)) : List (String × String) :=
  members.filter fun entry => own != some entry.1

variable {own : Option String} {members members' : List (String × String)}

@[simp] theorem others_none (members : List (String × String)) : others none members = members := by
  simp [others]

theorem others_append (members members' : List (String × String)) :
    others own (members ++ members') = others own members ++ others own members' :=
  List.filter_append members members'

theorem others_singleton_self (name s : String) : others (some name) [(name, s)] = [] := by
  simp [others]

theorem others_of_notMem {name : String} (h : name ∉ members.map (·.1)) :
    others (some name) members = members := by
  refine List.filter_eq_self.mpr fun entry hentry => bne_iff_ne.mpr fun hname => h ?_
  rw [Option.some.inj hname]
  exact List.mem_map_of_mem hentry

theorem lookup_others {name : String} (h : own ≠ some name) (members : List (String × String)) :
    (others own members).lookup name = members.lookup name :=
  lookup_filter (p := fun first => own != some first) (bne_iff_ne.mpr h) members

/-- Where the summary of a member has been kept, what is kept later is all for others. -/
theorem eq_of_others {kept : List (String × String)} {name : String} (h : kept <+: members)
    (h' : kept <+: members') (hnodup : (members.map (·.1)).Nodup)
    (hnodup' : (members'.map (·.1)).Nodup) (hname : name ∈ kept.map (·.1))
    (hothers : others (some name) members' = others (some name) members) : members' = members := by
  have hnew {more : List (String × String)} (hmore : ((kept ++ more).map (·.1)).Nodup) :
      others (some name) more = more := by
    rw [List.map_append, List.nodup_append] at hmore
    exact others_of_notMem fun hmem => hmore.2.2 name hname name hmem rfl
  obtain ⟨more, rfl⟩ := h
  obtain ⟨more', rfl⟩ := h'
  rw [others_append, others_append, hnew hnodup, hnew hnodup'] at hothers
  rw [List.append_cancel_left hothers]

/-- A summary that ends is kept for the member that is read, if at all. -/
theorem others_endSummary {r : Reading} (h : r.member = none ∨ r.member = own) :
    others own r.endSummary.members = others own r.members := by
  obtain ⟨members, _ | name, _ | words⟩ := r
  · rfl
  · rfl
  · rfl
  · obtain hnone | rfl := h
    · cases hnone
    · by_cases hkept : (members.lookup name).isSome = true
      · simp [Reading.endSummary, hkept]
      · simp [Reading.endSummary, hkept, others_append, others_singleton_self]

theorem others_endSummary_congr {r r' : Reading}
    (hmembers : others own r'.members = others own r.members) (hmember : r'.member = r.member)
    (hwords : r'.words = r.words) :
    others own r'.endSummary.members = others own r.endSummary.members := by
  by_cases hown : r.member = none ∨ r.member = own
  · rw [others_endSummary hown, others_endSummary (hmember ▸ hown), hmembers]
  · obtain ⟨members, _ | name, words⟩ := r
    · exact absurd (Or.inl rfl) hown
    · obtain ⟨members', member', words'⟩ := r'
      cases hmember
      cases hwords
      have hne : own ≠ some name := fun h => hown (Or.inr h.symm)
      have hkept : members'.lookup name = members.lookup name := by
        rw [← lookup_others hne members', hmembers, lookup_others hne]
      cases words with
      | none => exact hmembers
      | some words =>
        cases hlookup : members.lookup name with
        | some s => simp [Reading.endSummary, hkept, hlookup, hmembers]
        | none => simp [Reading.endSummary, hkept, hlookup, others_append, hmembers]

/-! ### How far readings are apart -/

/-- Of the open tags of members and summaries the innermost is that of a member. -/
def InsideMember (opened : List (List Char)) : Prop :=
  opened.find? (fun name => name == memberTag || name == summaryTag) = some memberTag

/-- The second of two readings may differ from the first in what is kept for the member `own`, and
may have missed that this member is read. The words of their summaries may differ, or only the
first may have a summary, while that can come to be kept for `own` alone: inside another member the
end of the summary is not reached. -/
structure Apart (own : Option String) (opened : List (List Char)) (r r' : Reading) : Prop where
  members : others own r'.members = others own r.members
  member : r'.member = r.member ∨ (r'.member = none ∧ r.member = own)
  words : r'.words = r.words ∨
    (r.words ≠ none ∧ (r.member = none ∨ r.member = own ∨ InsideMember opened))

variable {opened : List (List Char)} {name tag : List Char} {r r' q : Reading}

theorem insideMember_cons_member (opened : List (List Char)) :
    InsideMember (memberTag :: opened) :=
  rfl

theorem not_insideMember_cons_summary (opened : List (List Char)) :
    ¬ InsideMember (summaryTag :: opened) := by
  intro h
  exact summaryTag_ne_memberTag (Option.some.inj h)

theorem insideMember_cons_iff (hmember : name ≠ memberTag) (hsummary : name ≠ summaryTag) :
    InsideMember (name :: opened) ↔ InsideMember opened := by
  simp [InsideMember, hmember, hsummary]

namespace Apart

theorem member_eq_none (h : Apart own opened r r') (hr : r.member = none) : r'.member = none := by
  obtain hsame | ⟨hnone, -⟩ := h.member
  · rw [hsame, hr]
  · exact hnone

theorem words_eq_none (h : Apart own opened r r') (hr : r.words = none) : r'.words = none := by
  obtain hsame | ⟨hsome, -⟩ := h.words
  · rw [hsame, hr]
  · exact absurd hr hsome

/-- The open tags matter only for words that differ. -/
theorem weaken {opened' : List (List Char)} (h : Apart own opened r r')
    (hopened : InsideMember opened → r.member = none ∨ r.member = own ∨ InsideMember opened') :
    Apart own opened' r r' := by
  refine ⟨h.members, h.member, h.words.imp_right fun ⟨hsome, hkept⟩ => ⟨hsome, ?_⟩⟩
  obtain hnone | hown | hinside := hkept
  · exact Or.inl hnone
  · exact Or.inr (Or.inl hown)
  · exact hopened hinside

theorem add (h : Apart own opened r r') (cs : List Char) :
    Apart own opened (r.add cs) (r'.add cs) := by
  refine ⟨h.members, h.member, ?_⟩
  obtain hsame | ⟨hsome, hkept⟩ := h.words
  · refine Or.inl ?_
    rw [Reading.add, Reading.add, hsame]
  · refine Or.inr ⟨?_, hkept⟩
    rw [Reading.add]
    simpa using hsome

theorem endSummary {opened' : List (List Char)} (h : Apart own opened r r')
    (hopened : ¬ InsideMember opened) : Apart own opened' r.endSummary r'.endSummary := by
  refine ⟨?_, ?_, Or.inl ?_⟩
  · obtain hmember | ⟨hnone, hown⟩ := h.member
    · obtain hwords | ⟨-, hkept⟩ := h.words
      · exact others_endSummary_congr h.members hmember hwords
      · have hmine : r.member = none ∨ r.member = own :=
          hkept.imp_right fun hkept => hkept.resolve_right hopened
        rw [others_endSummary hmine, others_endSummary (hmember ▸ hmine), h.members]
    · rw [others_endSummary (Or.inr hown), others_endSummary (Or.inl hnone), h.members]
  · rw [endSummary_member, endSummary_member]
    exact h.member
  · rw [endSummary_words, endSummary_words]

theorem beginSummary (h : Apart own opened r r') :
    Apart own (summaryTag :: opened) (beginSummary r) (beginSummary r') := by
  cases hr : r.member with
  | none =>
    rw [beginSummary_of_member_eq_none r hr,
      beginSummary_of_member_eq_none r' (h.member_eq_none hr)]
    exact h.weaken fun _ => Or.inl hr
  | some name =>
    have hbegun : r.member ≠ none := by simp [hr]
    rw [beginSummary_of_member r hbegun]
    obtain hsame | ⟨hnone, hown⟩ := h.member
    · rw [beginSummary_of_member r' (hsame ▸ hbegun)]
      exact ⟨h.members, Or.inl hsame, Or.inl rfl⟩
    · rw [beginSummary_of_member_eq_none r' hnone]
      exact ⟨h.members, h.member, Or.inr ⟨nofun, Or.inr (Or.inl hown)⟩⟩

theorem step_opening (h : Apart own opened r r') (hstep : r.step (.opening tag) = .ok q) :
    ∃ q', r'.step (.opening tag) = .ok q' ∧ Apart own (tagName tag :: opened) q q' := by
  by_cases hmember : tagName tag = memberTag
  · rw [opening_member r hmember] at hstep
    obtain ⟨member, hname, rfl⟩ := exists_of_map_eq_ok hstep
    rw [opening_member r' hmember, hmember, hname]
    refine ⟨_, rfl, h.members, Or.inl rfl, ?_⟩
    exact h.words.imp_right fun hkept =>
      ⟨hkept.1, Or.inr (Or.inr (insideMember_cons_member opened))⟩
  · by_cases hsummary : tagName tag = summaryTag
    · rw [opening_summary r hsummary] at hstep
      cases hstep
      rw [hsummary]
      exact ⟨_, opening_summary r' hsummary, h.beginSummary⟩
    · rw [opening_other r hmember hsummary] at hstep
      cases hstep
      refine ⟨r', opening_other r' hmember hsummary, h.weaken fun hinside => ?_⟩
      exact Or.inr (Or.inr ((insideMember_cons_iff hmember hsummary).mpr hinside))

theorem step_closing (h : Apart own (name :: opened) r r')
    (hstep : r.step (.closing name) = .ok q) :
    ∃ q', r'.step (.closing name) = .ok q' ∧ Apart own opened q q' := by
  by_cases hmember : name = memberTag
  · subst hmember
    cases hstep
    exact ⟨_, rfl, h.members, Or.inl rfl, Or.inl rfl⟩
  · by_cases hsummary : name = summaryTag
    · subst hsummary
      cases hstep
      exact ⟨_, rfl, h.endSummary (not_insideMember_cons_summary opened)⟩
    · rw [closing_other r hmember hsummary] at hstep
      cases hstep
      refine ⟨r', closing_other r' hmember hsummary, h.weaken fun hinside => ?_⟩
      exact Or.inr (Or.inr ((insideMember_cons_iff hmember hsummary).mp hinside))

/-- Where the first reading goes on, the second does, and they stay as near. -/
theorem step {m : Markup} (h : Apart own opened r r') (hplace : InPlace opened m)
    (hstep : r.step m = .ok q) :
    ∃ q', r'.step m = .ok q' ∧ Apart own (openAfter opened [m]) q q' := by
  cases m with
  | opening tag => exact h.step_opening hstep
  | closing name =>
    obtain ⟨rest, rfl⟩ := List.head?_eq_some_iff.mp hplace
    exact h.step_closing hstep
  | empty tag =>
    obtain ⟨cref, hcref⟩ | ⟨hnone, rfl⟩ := step_empty_cases hstep
    · rw [step_empty_of_cref hcref] at hstep
      cases hstep
      refine ⟨_, step_empty_of_cref hcref, ?_⟩
      cases cref with
      | none => exact h
      | some name => exact h.add _
    · exact ⟨r', step_empty_of_words_eq_none (h.words_eq_none hnone), h⟩
  | text raw =>
    obtain ⟨cs, hraw⟩ | ⟨hnone, rfl⟩ := step_text_cases hstep
    · rw [step_text_of_resolved hraw] at hstep
      cases hstep
      exact ⟨_, step_text_of_resolved hraw, h.add cs⟩
    · exact ⟨r', step_text_of_words_eq_none (h.words_eq_none hnone), h⟩
  | cdata content =>
    cases hstep
    exact ⟨_, rfl, h.add content⟩
  | ignored =>
    cases hstep
    exact ⟨r', rfl, h⟩

theorem steps {ms : List Markup} {stop : Option Malformed} (h : Apart own opened r r')
    (hms : (nested stop opened ms).2 = none) (hsteps : r.steps ms = .ok q) :
    ∃ q', r'.steps ms = .ok q' ∧ Apart own (openAfter opened ms) q q' := by
  induction ms generalizing opened r r' with
  | nil =>
    cases hsteps
    exact ⟨r', rfl, h⟩
  | cons m ms ih =>
    have hplace := inPlace_of_nested hms
    obtain ⟨next, hstep, hrest⟩ := exists_of_bind_eq_ok hsteps
    obtain ⟨next', hstep', hnext⟩ := h.step hplace hstep
    rw [nested_cons hplace] at hms
    rw [steps_cons hstep', openAfter_cons]
    exact ih hnext hms hrest

/-- What follows is read from both if from the first, and all that can differ is kept for `own`. -/
theorem resume {rest : List Char} {d : Documentation} (h : Apart own opened r r')
    (hd : Standing.resume ⟨r, opened⟩ rest = .ok d) :
    ∃ d', Standing.resume ⟨r', opened⟩ rest = .ok d' ∧
      others own d'.members = others own d.members := by
  obtain ⟨hall, q, hsteps, hmembers⟩ := Standing.exists_of_onward hd
  obtain ⟨q', hsteps', hq⟩ := h.steps (congrArg Prod.snd hall) hsteps
  refine ⟨⟨q'.members⟩, ?_, ?_⟩
  · rw [Standing.resume, Standing.onward]
    dsimp only at hall ⊢
    rw [hall]
    dsimp only
    rw [hsteps']
    rfl
  · rw [hmembers]
    exact hq.members

end Apart

end TypeDocs.Documentation
