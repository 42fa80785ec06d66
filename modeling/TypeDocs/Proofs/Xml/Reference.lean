import TypeDocs.Proofs.Outcome
import TypeDocs.Xml.Reference

/-!
# Texts with references

A character is written by itself or by a reference that stands for it. A text can be resolved
exactly when it writes characters in this way, and is resolved to them.
-/

namespace TypeDocs

namespace Xml

/-- `Written raw cs` says that the text `raw` writes the characters `cs`. -/
inductive Written : List Char → List Char → Prop where
  | nil : Written [] []
  | plain {c : Char} {raw cs : List Char} (hc : c ≠ '&') (h : Written raw cs) :
    Written (c :: raw) (c :: cs)
  | reference {name raw cs : List Char} {x : Char} (hsemicolon : ';' ∉ name)
    (hampersand : '&' ∉ name) (hx : resolve 0 name = .ok x) (h : Written raw cs) :
    Written ('&' :: (name ++ ';' :: raw)) (x :: cs)

/-- Only the report of a fault depends on where a reference stands. -/
theorem resolve_eq_ok {i : Nat} {name : List Char} {x : Char} (h : resolve i name = .ok x)
    (j : Nat) : resolve j name = .ok x := by
  unfold resolve at h ⊢
  split at h
  · exact h
  · split at h
    · exact h
    · cases h

/-- Behind an ampersand the name is read up to the semicolon. -/
theorem resolveFrom_name {total : Nat} {read name raw cs : List Char} {x : Char}
    (hsemicolon : ';' ∉ name) (hampersand : '&' ∉ name)
    (hx : resolve 0 (read.reverse ++ name) = .ok x)
    (hraw : ∀ before, resolveFrom total before none raw = .ok cs) (before : Nat) :
    resolveFrom total before (some read) (name ++ ';' :: raw) = .ok (x :: cs) := by
  induction name generalizing read before with
  | nil =>
    rw [List.append_nil] at hx
    have hname := resolve_eq_ok hx (before - byteLength read)
    rw [List.nil_append, resolveFrom]
    simp [hname, hraw, bind, Except.bind, pure, Except.pure]
  | cons c name ih =>
    rw [List.mem_cons, not_or] at hsemicolon hampersand
    have hread : resolve 0 ((c :: read).reverse ++ name) = .ok x := by
      rwa [List.reverse_cons, List.append_assoc, List.singleton_append]
    have hrest := ih hsemicolon.2 hampersand.2 hread (before + c.utf8Size)
    rw [List.cons_append, resolveFrom]
    simp only [beq_iff_eq]
    rw [if_neg (Ne.symm hsemicolon.1), if_neg (Ne.symm hampersand.1)]
    exact hrest

theorem Written.resolveFrom {raw cs : List Char} (h : Written raw cs) (total before : Nat) :
    resolveFrom total before none raw = .ok cs := by
  induction h generalizing before with
  | nil => rfl
  | plain hc h ih =>
    rw [Xml.resolveFrom]
    simp [hc, ih, bind, Except.bind, pure, Except.pure]
  | @reference name raw cs x hsemicolon hampersand hx h ih =>
    have hread : resolve 0 (([] : List Char).reverse ++ name) = .ok x := hx
    rw [Xml.resolveFrom]
    exact resolveFrom_name hsemicolon hampersand hread ih (before + 1)

/-- What resolving has to read behind an ampersand for it to succeed. -/
def WrittenBehind (read raw cs : List Char) : Prop :=
  ∃ name rest x after, raw = name ++ ';' :: rest ∧ cs = x :: after ∧ ';' ∉ name ∧ '&' ∉ name ∧
    resolve 0 (read.reverse ++ name) = .ok x ∧ Written rest after

theorem written_of_resolveFrom (total : Nat) (raw : List Char) :
    (∀ before cs, resolveFrom total before none raw = .ok cs → Written raw cs) ∧
      ∀ before read cs, resolveFrom total before (some read) raw = .ok cs →
        WrittenBehind read raw cs := by
  induction raw with
  | nil =>
    refine ⟨?_, ?_⟩
    · intro before cs h
      cases h
      exact Written.nil
    · intro before read cs h
      cases h
  | cons c raw ih =>
    obtain ⟨ihText, ihName⟩ := ih
    refine ⟨?_, ?_⟩
    · intro before cs h
      rw [resolveFrom] at h
      by_cases hc : c = '&'
      · subst hc
        obtain ⟨name, rest, x, after, rfl, rfl, hsemicolon, hampersand, hx, hrest⟩ :=
          ihName _ _ _ h
        exact Written.reference hsemicolon hampersand hx hrest
      · simp only [beq_iff_eq, hc, if_false] at h
        obtain ⟨after, hrest, h⟩ := exists_of_bind_eq_ok h
        cases h
        exact Written.plain hc (ihText _ _ hrest)
    · intro before read cs h
      rw [resolveFrom] at h
      simp only [beq_iff_eq] at h
      by_cases hc : c = ';'
      · rw [if_pos hc] at h
        obtain ⟨x, hx, h⟩ := exists_of_bind_eq_ok h
        obtain ⟨after, hrest, h⟩ := exists_of_bind_eq_ok h
        cases h
        refine ⟨[], raw, x, after, ?_, rfl, List.not_mem_nil, List.not_mem_nil, ?_,
          ihText _ _ hrest⟩
        · rw [hc, List.nil_append]
        · rw [List.append_nil]
          exact resolve_eq_ok hx 0
      · rw [if_neg hc] at h
        by_cases hampersand : c = '&'
        · rw [if_pos hampersand] at h
          cases h
        · rw [if_neg hampersand] at h
          obtain ⟨name, rest, x, after, rfl, rfl, hs, ha, hx, hrest⟩ := ihName _ _ _ h
          refine ⟨c :: name, rest, x, after, rfl, rfl, ?_, ?_, ?_, hrest⟩
          · simp [hs, Ne.symm hc]
          · simp [ha, Ne.symm hampersand]
          · rwa [List.reverse_cons, List.append_assoc, List.singleton_append] at hx

theorem resolved_eq_ok_iff {raw cs : List Char} : resolved raw = .ok cs ↔ Written raw cs := by
  constructor
  · exact (written_of_resolveFrom (byteLength raw) raw).1 0 cs
  · intro h
    exact h.resolveFrom (byteLength raw) 0

end Xml

end TypeDocs
