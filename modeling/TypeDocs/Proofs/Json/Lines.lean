import TypeDocs.Proofs.Json.RoundTrip
import TypeDocs.Proofs.Text.Lines

/-!
# The lines of indented JSON

A text has no line feed in its literal, and what stands inside brackets has one only before
indentation. So of the lines of a table only the last is a closing brace alone.
-/

namespace TypeDocs.Json

open Text

theorem digitChar_ne_lineFeed {n : Nat} (hn : n < 16) : Nat.digitChar n ≠ '\n' := by
  revert n
  decide

theorem lineFeed_not_mem_escaped (c : Char) : '\n' ∉ escaped c := by
  unfold escaped
  split
  · decide
  split
  · decide
  split
  · decide
  split
  · decide
  split
  · decide
  split
  · decide
  split
  · decide
  split
  · next hc =>
    have hhigh := digitChar_ne_lineFeed (n := c.toNat / 16) (by omega)
    have hlow := digitChar_ne_lineFeed (n := c.toNat % 16) (by omega)
    simp [hhigh.symm, hlow.symm]
  · next hc _ _ _ =>
    rw [List.mem_singleton]
    rintro rfl
    exact absurd hc (by decide)

theorem lineFeed_not_mem_literal (s : String) : '\n' ∉ (literal s).toList := by
  rw [toList_literal]
  intro h
  simp only [List.mem_cons, List.mem_append, List.mem_flatMap, List.not_mem_nil, or_false] at h
  rcases h with h | ⟨c, _, h⟩ | h
  · exact absurd h (by decide)
  · exact lineFeed_not_mem_escaped c h
  · exact absurd h (by decide)

/-- Every line feed is followed by a space. -/
structure Indented (cs : List Char) : Prop where
  spaced : cs.IsChain fun a b => a = '\n' → b = ' '
  ends : cs.getLast? ≠ some '\n'

theorem Indented.of_not_mem {cs : List Char} (h : '\n' ∉ cs) : Indented cs := by
  refine ⟨?_, fun hlast => h (List.mem_of_getLast? hlast)⟩
  induction cs with
  | nil => exact .nil
  | cons c cs ih =>
    rw [List.mem_cons, not_or] at h
    exact List.isChain_cons.mpr ⟨fun _ _ hc => absurd hc.symm h.1, ih h.2⟩

theorem Indented.append {cs ds : List Char} (hcs : Indented cs) (hds : Indented ds) :
    Indented (cs ++ ds) := by
  refine ⟨List.isChain_append.mpr ⟨hcs.spaced, hds.spaced, ?_⟩, ?_⟩
  · rintro a ha b _ rfl
    exact absurd ha hcs.ends
  · rw [List.getLast?_append]
    cases hlast : ds.getLast? with
    | none => simpa using hcs.ends
    | some d => simpa [hlast] using hds.ends

theorem Indented.cons {c : Char} {cs : List Char} (hc : c ≠ '\n') (hcs : Indented cs) :
    Indented (c :: cs) := by
  have hsingle : Indented [c] := .of_not_mem (by simpa using hc.symm)
  exact hsingle.append hcs

theorem indented_lineBreak (level : Nat) : Indented (lineBreak (level + 1)).toList := by
  have hspaces : Indented (List.replicate (2 * (level + 1)) ' ') := .of_not_mem (by simp)
  rw [toList_lineBreak]
  refine ⟨List.isChain_cons.mpr ⟨?_, hspaces.spaced⟩, ?_⟩
  · intro b hb _
    simpa using List.eq_of_mem_replicate (List.mem_of_mem_head? hb)
  · rw [List.getLast?_cons]
    simp [List.getLast?_replicate]

theorem indented_prettyItems {level : Nat} {items : List Json}
    (h : ∀ x ∈ items, Indented (prettyAt (level + 1) x).toList) :
    Indented (prettyItems (level + 1) items).toList := by
  induction items with
  | nil => exact .of_not_mem (by simp [prettyItems])
  | cons x xs ih =>
    have hrest := ih fun y hy => h y (List.mem_cons_of_mem x hy)
    rw [toList_prettyItems_cons]
    refine (indented_lineBreak level).append ((h x List.mem_cons_self).append ?_)
    cases xs with
    | nil => exact .of_not_mem (by simp [itemsAfter])
    | cons y ys => exact .cons (by decide) hrest

theorem indented_prettyEntries {level : Nat} {entries : List (String × Json)}
    (h : ∀ e ∈ entries, Indented (prettyAt (level + 1) e.2).toList) :
    Indented (prettyEntries (level + 1) entries).toList := by
  induction entries with
  | nil => exact .of_not_mem (by simp [prettyEntries])
  | cons e es ih =>
    obtain ⟨k, v⟩ := e
    have hrest := ih fun e he => h e (List.mem_cons_of_mem (k, v) he)
    have hkey : Indented (literal k).toList := .of_not_mem (lineFeed_not_mem_literal k)
    have hvalue : Indented (prettyAt (level + 1) v).toList := h (k, v) List.mem_cons_self
    have hafter : Indented (entriesAfter (level + 1) es) := by
      cases es with
      | nil => exact .of_not_mem (by simp [entriesAfter])
      | cons e es => exact .cons (by decide) hrest
    have htext : (prettyEntries (level + 1) ((k, v) :: es)).toList =
        (lineBreak (level + 1)).toList ++ ((literal k).toList ++
          ([':', ' '] ++ ((prettyAt (level + 1) v).toList ++ entriesAfter (level + 1) es))) := by
      rw [toList_prettyEntries_cons, toList_literal]
      simp
    rw [htext]
    exact (indented_lineBreak level).append
      (hkey.append ((Indented.of_not_mem (by decide)).append (hvalue.append hafter)))

/-- Inside brackets every line is indented. -/
theorem indented_prettyAt {n : Nat} {j : Json} (h : j.Plain n) (level : Nat) :
    Indented (prettyAt (level + 1) j).toList := by
  induction h generalizing level with
  | null => exact .of_not_mem (by simp [prettyAt])
  | flag b => cases b <;> exact .of_not_mem (by simp [prettyAt])
  | text s =>
    rw [prettyAt]
    exact .of_not_mem (lineFeed_not_mem_literal s)
  | @array _ items _ ih =>
    cases items with
    | nil => exact .of_not_mem (by simp [prettyAt])
    | cons x xs =>
      rw [toList_prettyAt_array]
      exact .cons (by decide) ((indented_prettyItems fun y hy => ih y hy (level + 1)).append
        ((indented_lineBreak level).append (.of_not_mem (by decide))))
  | @object _ entries _ _ ih =>
    cases entries with
    | nil => exact .of_not_mem (by simp [prettyAt])
    | cons e es =>
      rw [toList_prettyAt_object]
      exact .cons (by decide) ((indented_prettyEntries fun e he => ih e he (level + 1)).append
        ((indented_lineBreak level).append (.of_not_mem (by decide))))

/-- The indented text of a table ends with a line that is a closing brace, and no line before it
is one. -/
theorem lines_pretty_object {n : Nat} {e : String × Json} {es : List (String × Json)}
    (h : (object (e :: es)).Plain n) :
    ∃ before, (object (e :: es)).pretty.toList = before ++ ['\x7d'] ∧
      before.getLast? = some '\n' ∧ ∀ l ∈ lines before, isLine "\x7d" l = false := by
  cases h with
  | object hkeys hplain =>
    have hentries : Indented (prettyEntries 1 (e :: es)).toList :=
      indented_prettyEntries fun e he => indented_prettyAt (hplain e he) 0
    refine ⟨'\x7b' :: (prettyEntries 1 (e :: es)).toList ++ ['\n'], ?_,
      List.getLast?_concat, ?_⟩
    · rw [pretty, toList_prettyAt_object, toList_lineBreak]
      simp
    · intro l hl
      obtain ⟨before, after, hsplit, hlast⟩ := exists_of_mem_cutAfter hl
      have hspaced : ('\x7b' :: (prettyEntries 1 (e :: es)).toList ++ ['\n']).IsChain
          fun a b => a = '\n' → b = ' ' := by
        rw [List.isChain_append]
        have hcons := hentries.cons (c := '\x7b') (by decide)
        exact ⟨hcons.spaced, .singleton _, fun a ha b _ hab => absurd (hab ▸ ha) hcons.ends⟩
      rw [hsplit, List.isChain_append] at hspaced
      cases l with
      | nil => exact absurd rfl (ne_nil_of_mem_cutAfter hl)
      | cons c l =>
        have hc : c ≠ '\x7d' := by
          rcases List.eq_nil_or_concat before with rfl | ⟨init, d, rfl⟩
          · obtain ⟨rfl, -⟩ := List.cons.inj hsplit
            decide
          · have hd : d = '\n' := by simpa using hlast d (by simp)
            have hspace : c = ' ' := hspaced.2.2 d (by simp) c rfl hd
            rw [hspace]
            decide
        simp [isLine, hc]

end TypeDocs.Json
