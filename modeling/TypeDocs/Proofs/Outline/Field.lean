import TypeDocs.Outline.Record
import TypeDocs.Proofs.Outcome

/-!
# The fields of a record

What a record is read to hold in one of its fields is what was read from the part of the outline
that fills the field: the first entry of a table under a name of the field, or the item of a list
in its place. A field with no such part is blank.
-/

namespace TypeDocs

section Refusal

variable {α : Type} {a b : α} {wanted : Wanted}

theorem Outline.eq_of_orStop_eq_ok {stop : Option Fault} (h : orStop stop a = .ok b) : a = b := by
  cases stop with
  | none => exact Except.ok.inj h
  | some f => cases h

theorem Leaf.exists_refuse_eq (l : Leaf) (wanted : Wanted) :
    ∃ f, ∀ α : Type, (l.refuse wanted : Except Fault α) = .error f := by
  unfold refuse
  cases l.value with
  | error f => exact ⟨f, fun _ => rfl⟩
  | ok j => exact ⟨.mismatch l.found wanted, fun _ => rfl⟩

theorem Outline.exists_refuse_eq (o : Outline) (wanted : Wanted) :
    ∃ f, ∀ α : Type, (o.refuse wanted : Except Fault α) = .error f := by
  unfold refuse
  cases o.unmarked with
  | fault f => exact ⟨f, fun _ => rfl⟩
  | leaf l => exact l.exists_refuse_eq wanted
  | list items stop => exact ⟨_, fun _ => rfl⟩
  | table entries stop => exact ⟨_, fun _ => rfl⟩
  | tagged tag o => exact ⟨_, fun _ => rfl⟩

theorem Leaf.refuse_ne_ok {l : Leaf} : l.refuse wanted ≠ .ok a := by
  obtain ⟨f, hf⟩ := l.exists_refuse_eq wanted
  rw [hf]
  exact fun h => by cases h

theorem Outline.refuse_ne_ok {o : Outline} : o.refuse wanted ≠ .ok a := by
  obtain ⟨f, hf⟩ := o.exists_refuse_eq wanted
  rw [hf]
  exact fun h => by cases h

end Refusal

namespace Record

variable {α β : Type} (r : Record α) (d : Dialect)

/-- Whether a key names the field of an index. -/
def namesField (i : ℕ) (key : Outline) : Bool :=
  match r.index? d key with
  | .ok index => index == some i
  | .error _ => false

/-- What an outline holds for the field of an index. -/
def part? (i : ℕ) (o : Outline) : Option Outline :=
  match o.unmarked with
  | .table entries _ => (entries.find? fun e => r.namesField d i e.1).map Prod.snd
  | .list items _ => items[i]?
  | _ => none

/-- The field of an index, and no other, has to do with a part of the record. -/
structure Owns (i : ℕ) (read : Outline → Except Fault β) (get : α → β) : Prop where
  lt : i < r.fields.length
  filled : ∀ f, r.fields[i]? = some f → ∀ o a b, f.fill o a = .ok b → read o = .ok (get b)
  kept : ∀ f ∈ r.fields.eraseIdx i, ∀ o a b, f.fill o a = .ok b → get b = get a

variable {r d} {i : ℕ} {read : Outline → Except Fault β} {get : α → β} {o : Outline} {a b : α}
  {stop : Option Fault}

/-- A part of a record is read from what is held for its field, and is blank if there is nothing. -/
def ReadFrom (read : Outline → Except Fault β) (blank : β) (part : Option Outline) (c : β) : Prop :=
  match part with
  | none => c = blank
  | some o => read o = .ok c

theorem Owns.kept_at (hr : r.Owns i read get) {j : ℕ} {f : Field α} (hf : r.fields[j]? = some f)
    (hj : j ≠ i) (h : f.fill o a = .ok b) : get b = get a :=
  hr.kept f (List.mem_eraseIdx_iff_getElem?.mpr ⟨j, hj, hf⟩) o a b h

theorem eq_of_finish_eq_ok {seen : List ℕ} (h : r.finish seen a = .ok b) : a = b := by
  unfold finish at h
  split at h
  · cases h
  · exact Except.ok.inj h

theorem namesField_eq {key : Outline} {index : Option ℕ} (h : r.index? d key = .ok index) :
    r.namesField d i key = (index == some i) := by
  rw [namesField, h]

theorem Owns.of_ofEntries (hr : r.Owns i read get) {entries : List (Outline × Outline)}
    {seen : List ℕ} (h : r.ofEntries d stop entries seen a = .ok b) :
    ReadFrom read (get a)
      (if i ∈ seen then none else (entries.find? fun e => r.namesField d i e.1).map Prod.snd)
      (get b) := by
  induction entries generalizing seen a with
  | nil =>
    obtain ⟨-, -, hfinish⟩ := exists_of_bind_eq_ok h
    rw [List.find?_nil, Option.map_none, ite_self]
    exact congrArg get (eq_of_finish_eq_ok hfinish).symm
  | cons e entries ih =>
    obtain ⟨k, v⟩ := e
    obtain ⟨index, hindex, h⟩ := exists_of_bind_eq_ok h
    have hnames := namesField_eq (i := i) hindex
    -- an entry of another field leaves what there is to read
    have hpassed {seen' : List ℕ} {c : α} (hne : index ≠ some i)
        (h : r.ofEntries d stop entries seen' c = .ok b) (hseen : i ∈ seen' ↔ i ∈ seen)
        (hc : get c = get a) : ReadFrom read (get a)
          (if i ∈ seen then none
            else (((k, v) :: entries).find? fun e => r.namesField d i e.1).map Prod.snd)
          (get b) := by
      rw [List.find?_cons_of_neg (by simpa [hnames] using hne), ← hc]
      simpa only [hseen] using ih h
    cases index with
    | none => exact hpassed (by simp) h Iff.rfl rfl
    | some j =>
      dsimp only at h
      split at h
      · next hfield =>
        refine hpassed (fun hj => ?_) h Iff.rfl rfl
        rw [Option.some_inj.mp hj, List.getElem?_eq_getElem hr.lt] at hfield
        cases hfield
      · next f hfield =>
        split at h
        · cases h
        · next hunseen =>
          obtain ⟨c, hfill, h⟩ := exists_of_bind_eq_ok h
          by_cases hj : j = i
          · subst hj
            have hb := ih h
            rw [if_pos List.mem_cons_self] at hb
            rw [if_neg (by simpa using hunseen),
              List.find?_cons_of_pos (by simp [hnames]), Option.map_some]
            change read v = .ok (get b)
            rw [hb]
            exact hr.filled f hfield v a c hfill
          · refine hpassed (fun hi => hj (Option.some_inj.mp hi)) h ?_
              (hr.kept_at hfield hj hfill)
            simp [Ne.symm hj]

theorem Owns.of_ofItems (hr : r.Owns i read get)
    {after : List Outline → Option Fault → Option Fault} {k : ℕ} {fs : List (Field α)}
    {items : List Outline} (hfs : fs = r.fields.drop k)
    (h : r.ofItems after stop k fs items a = .ok b) :
    ReadFrom read (get a) (if i < k then none else items[i - k]?) (get b) := by
  induction fs generalizing k items a with
  | nil =>
    have hk : i < k := by
      have hlen := congrArg List.length hfs
      have hlt := hr.lt
      rw [List.length_nil, List.length_drop] at hlen
      omega
    rw [if_pos hk]
    exact congrArg get (Outline.eq_of_orStop_eq_ok h).symm
  | cons f fs ih =>
    have hfield : r.fields[k]? = some f := by
      rw [← List.head?_drop, ← hfs, List.head?_cons]
    have hrest : fs = r.fields.drop (k + 1) := by
      rw [← List.tail_drop, ← hfs, List.tail_cons]
    cases items with
    | nil =>
      obtain ⟨-, -, h⟩ := exists_of_bind_eq_ok h
      split at h
      · cases h
      · have hb := ih hrest h
        rw [List.getElem?_nil, ite_self] at hb ⊢
        exact hb
    | cons item items =>
      obtain ⟨c, hfill, h⟩ := exists_of_bind_eq_ok h
      have hb := ih hrest h
      by_cases hk : k = i
      · subst hk
        rw [if_pos (Nat.lt_succ_self k)] at hb
        rw [if_neg (Nat.lt_irrefl k), Nat.sub_self, List.getElem?_cons_zero]
        change read item = .ok (get b)
        rw [hb]
        exact hr.filled f hfield item a c hfill
      · rw [hr.kept_at hfield hk hfill] at hb
        by_cases hi : i < k
        · rw [if_pos hi]
          rwa [if_pos (by omega)] at hb
        · rw [if_neg (by omega)] at hb
          rw [if_neg hi, show i - k = (i - (k + 1)) + 1 by omega, List.getElem?_cons_succ]
          exact hb

/-- What is read for the field of an index is what is held for it. -/
theorem Owns.of_read (hr : r.Owns i read get) (h : r.read d o = .ok b) :
    ReadFrom read (get r.blank) (r.part? d i o) (get b) := by
  unfold Record.read at h
  unfold part?
  split at h
  · next entries stop ho =>
    rw [ho]
    simpa using hr.of_ofEntries h
  · next items stop ho =>
    rw [ho]
    split at h
    · simpa using hr.of_ofItems rfl h
    · exact (Outline.refuse_ne_ok h).elim
  · next l ho =>
    rw [ho]
    split at h
    · simpa using hr.of_ofEntries h
    · exact (Outline.refuse_ne_ok h).elim
  · exact (Outline.refuse_ne_ok h).elim

end Record

end TypeDocs
