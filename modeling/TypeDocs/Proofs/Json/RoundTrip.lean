import TypeDocs.Json.Reader
import TypeDocs.Proofs.Json.Literal
import TypeDocs.Proofs.Outline.Reading

/-!
# Reading JSON that was written

A value without numbers that nests within the limit, `Plain`, is read back from its indented text
with nothing lost: `readValue_prettyAt` leaves what follows the text, and `parse_pretty` says so
for a whole text. The fuel that a value takes is at most the length of its text.
-/

namespace TypeDocs.Json

/-- A value without numbers whose tables have distinct keys and whose lists and tables nest at
most `n` deep. -/
inductive Plain : Nat → Json → Prop
  | null {n : Nat} : Plain n .null
  | flag {n : Nat} (b : Bool) : Plain n (.flag b)
  | text {n : Nat} (s : String) : Plain n (.text s)
  | array {n : Nat} {items : List Json} (h : ∀ x ∈ items, Plain n x) : Plain (n + 1) (.array items)
  | object {n : Nat} {entries : List (String × Json)} (hkeys : (entries.map Prod.fst).Nodup)
      (h : ∀ e ∈ entries, Plain n e.2) : Plain (n + 1) (.object entries)

theorem Plain.distinctKeys {n : Nat} {j : Json} (h : j.Plain n) : j.DistinctKeys := by
  induction h with
  | null => exact .null
  | flag b => exact .flag b
  | text s => exact .text s
  | array _ ih => exact .array ih
  | object hkeys _ ih => exact .object hkeys ih

/-- A value of texts and flags, in lists and in tables of distinct keys that nest at most `n`
deep. -/
inductive Textual : Nat → Json → Prop
  | flag {n : Nat} (b : Bool) : Textual n (.flag b)
  | text {n : Nat} (s : String) : Textual n (.text s)
  | array {n : Nat} {items : List Json} (h : ∀ x ∈ items, Textual n x) :
      Textual (n + 1) (.array items)
  | object {n : Nat} {entries : List (String × Json)} (hkeys : (entries.map Prod.fst).Nodup)
      (h : ∀ e ∈ entries, Textual n e.2) : Textual (n + 1) (.object entries)

theorem Textual.plain {n : Nat} {j : Json} (h : j.Textual n) : j.Plain n := by
  induction h with
  | flag b => exact .flag b
  | text s => exact .text s
  | array _ ih => exact .array ih
  | object hkeys _ ih => exact .object hkeys ih

section Spaces

theorem skipSpace_cons {c : Char} (hc : isSpace c = false) (cs : List Char) :
    skipSpace (c :: cs) = c :: cs := by
  rw [skipSpace, List.dropWhile_cons_of_neg]
  simp [hc]

theorem skipSpace_space (cs : List Char) : skipSpace (' ' :: cs) = skipSpace cs := rfl

theorem toList_lineBreak (level : Nat) :
    (lineBreak level).toList = '\n' :: List.replicate (2 * level) ' ' := by
  rw [lineBreak, String.toList_ofList]

theorem length_lineBreak (level : Nat) : (lineBreak level).toList.length = 2 * level + 1 := by
  rw [toList_lineBreak, List.length_cons, List.length_replicate]

theorem skipSpace_lineBreak (level : Nat) (cs : List Char) :
    skipSpace ((lineBreak level).toList ++ cs) = skipSpace cs := by
  have hspaces (n : Nat) : skipSpace (List.replicate n ' ' ++ cs) = skipSpace cs := by
    induction n with
    | zero => rfl
    | succ n ih => rw [List.replicate_succ, List.cons_append, skipSpace_space, ih]
  rw [toList_lineBreak, List.cons_append]
  exact hspaces (2 * level)

end Spaces

section Texts

variable (level : Nat)

theorem toList_literal (s : String) :
    (literal s).toList = '"' :: (s.toList.flatMap escaped ++ ['"']) := by
  rw [literal, String.toList_ofList, List.cons_append]

theorem toList_prettyAt_array (x : Json) (xs : List Json) :
    (prettyAt level (.array (x :: xs))).toList =
      '[' :: ((prettyItems (level + 1) (x :: xs)).toList ++
        ((lineBreak level).toList ++ [']'])) := by
  simp [prettyAt, String.toList_append]

theorem toList_prettyAt_object (e : String × Json) (es : List (String × Json)) :
    (prettyAt level (.object (e :: es))).toList =
      '\x7b' :: ((prettyEntries (level + 1) (e :: es)).toList ++
        ((lineBreak level).toList ++ ['\x7d'])) := by
  simp [prettyAt, String.toList_append]

/-- What is written behind the first item of a list. -/
def itemsAfter : List Json → List Char
  | [] => []
  | x :: xs => ',' :: (prettyItems level (x :: xs)).toList

theorem toList_prettyItems_cons (x : Json) (xs : List Json) :
    (prettyItems level (x :: xs)).toList =
      (lineBreak level).toList ++ ((prettyAt level x).toList ++ itemsAfter level xs) := by
  cases xs with
  | nil => simp [prettyItems, itemsAfter, String.toList_append]
  | cons y ys => simp [prettyItems, itemsAfter, String.toList_append]

/-- What is written behind the first entry of a table. -/
def entriesAfter : List (String × Json) → List Char
  | [] => []
  | e :: es => ',' :: (prettyEntries level (e :: es)).toList

theorem toList_prettyEntries_cons (k : String) (v : Json) (es : List (String × Json)) :
    (prettyEntries level ((k, v) :: es)).toList =
      (lineBreak level).toList ++ ('"' :: (k.toList.flatMap escaped ++
        '"' :: ':' :: ' ' :: ((prettyAt level v).toList ++ entriesAfter level es))) := by
  cases es with
  | nil => simp [prettyEntries, entriesAfter, toList_literal, String.toList_append]
  | cons e es => simp [prettyEntries, entriesAfter, toList_literal, String.toList_append]

end Texts

/-- Whether a written value may begin so. -/
def beginsValue : List Char → Bool
  | c :: _ => ['n', 't', 'f', '"', '[', '\x7b'].contains c
  | [] => false

theorem exists_cons_of_beginsValue {cs : List Char} (h : beginsValue cs = true) :
    ∃ c rest, cs = c :: rest ∧ isSpace c = false ∧ c ≠ ']' ∧ c ≠ ',' := by
  cases cs with
  | nil => simp [beginsValue] at h
  | cons c rest =>
    refine ⟨c, rest, rfl, ?_⟩
    simp only [beginsValue, List.contains_eq_mem, List.mem_cons, List.not_mem_nil, or_false,
      decide_eq_true_eq] at h
    rcases h with rfl | rfl | rfl | rfl | rfl | rfl <;> decide

theorem beginsValue_prettyAt {n : Nat} {j : Json} (h : j.Plain n) (level : Nat)
    (rest : List Char) : beginsValue ((prettyAt level j).toList ++ rest) = true := by
  cases h with
  | null =>
    rw [prettyAt]
    rfl
  | flag b =>
    rw [prettyAt]
    cases b <;> rfl
  | text s =>
    rw [prettyAt, toList_literal]
    rfl
  | @array _ items _ =>
    cases items with
    | nil =>
      rw [prettyAt]
      rfl
    | cons x xs =>
      rw [toList_prettyAt_array]
      rfl
  | @object _ entries _ _ =>
    cases entries with
    | nil =>
      rw [prettyAt]
      rfl
    | cons e es =>
      rw [toList_prettyAt_object]
      rfl

section Items

variable {fuel depth : Nat} {o : Outline} {cs rest rest' : List Char} {items : List Outline}

theorem readItems_first (hcs : beginsValue cs = true)
    (hitem : readValue fuel depth cs = (o, some rest))
    (hitems : readItems fuel depth false rest = (items, none, some rest')) (level : Nat) :
    readItems (fuel + 1) depth true ((lineBreak level).toList ++ cs) =
      (o :: items, none, some rest') := by
  obtain ⟨c, tail, rfl, hspace, hclose, hcomma⟩ := exists_cons_of_beginsValue hcs
  rw [readItems, skipSpace_lineBreak, skipSpace_cons hspace]
  simp [hitem, hitems, hclose, hcomma]

theorem readItems_next (hcs : beginsValue cs = true)
    (hitem : readValue fuel depth cs = (o, some rest))
    (hitems : readItems fuel depth false rest = (items, none, some rest')) (level : Nat) :
    readItems (fuel + 1) depth false (',' :: ((lineBreak level).toList ++ cs)) =
      (o :: items, none, some rest') := by
  obtain ⟨c, tail, rfl, hspace, hclose, hcomma⟩ := exists_cons_of_beginsValue hcs
  rw [readItems, skipSpace_cons (by decide)]
  simp [skipSpace_lineBreak, skipSpace_cons hspace, hitem, hitems, hclose]

theorem readItems_end (first : Bool) (level : Nat) :
    readItems (fuel + 1) depth first ((lineBreak level).toList ++ ']' :: rest) =
      ([], none, some rest) := by
  rw [readItems, skipSpace_lineBreak, skipSpace_cons (by decide)]
  rfl

end Items

section Entries

variable {fuel depth : Nat} {o : Outline} {cs rest rest' : List Char}
  {entries : List (Outline × Outline)}

theorem readEntries_first (k : String) (hvalue : readValue fuel depth (' ' :: cs) = (o, some rest))
    (hentries : readEntries fuel depth false rest = (entries, none, some rest')) (level : Nat) :
    readEntries (fuel + 1) depth true
      ((lineBreak level).toList ++ ('"' :: (k.toList.flatMap escaped ++ '"' :: ':' :: ' ' :: cs))) =
      ((keyLeaf k, o) :: entries, none, some rest') := by
  rw [readEntries, skipSpace_lineBreak, skipSpace_cons (by decide)]
  simp [readText_flatMap_escaped, skipSpace_cons (c := ':') (by decide), hvalue, hentries]

theorem readEntries_next (k : String) (hvalue : readValue fuel depth (' ' :: cs) = (o, some rest))
    (hentries : readEntries fuel depth false rest = (entries, none, some rest')) (level : Nat) :
    readEntries (fuel + 1) depth false (',' :: ((lineBreak level).toList ++
      ('"' :: (k.toList.flatMap escaped ++ '"' :: ':' :: ' ' :: cs)))) =
      ((keyLeaf k, o) :: entries, none, some rest') := by
  rw [readEntries, skipSpace_cons (by decide)]
  simp [skipSpace_lineBreak, skipSpace_cons (c := '"') (by decide), readText_flatMap_escaped,
    skipSpace_cons (c := ':') (by decide), hvalue, hentries]

theorem readEntries_end (first : Bool) (level : Nat) :
    readEntries (fuel + 1) depth first ((lineBreak level).toList ++ '\x7d' :: rest) =
      ([], none, some rest) := by
  rw [readEntries, skipSpace_lineBreak, skipSpace_cons (by decide)]
  rfl

end Entries

theorem readValue_space (fuel depth : Nat) (cs : List Char) :
    readValue fuel depth (' ' :: cs) = readValue fuel depth cs := by
  cases fuel with
  | zero => rfl
  | succ f => rw [readValue, readValue, skipSpace_space]

/-- Reading from the written value on gives the value and leaves what follows it. -/
def ReadsBack (depth level : Nat) (j : Json) : Prop :=
  ∀ fuel rest, (prettyAt level j).toList.length ≤ fuel →
    readValue fuel depth ((prettyAt level j).toList ++ rest) = (.ofJson j, some rest)

section Lists

variable {n depth level : Nat}

theorem readItems_itemsAfter {items : List Json} (hplain : ∀ x ∈ items, x.Plain n)
    (hitems : ∀ x ∈ items, ReadsBack depth level x) (outer fuel : Nat) (rest : List Char)
    (hfuel : (itemsAfter level items).length < fuel) :
    readItems fuel depth false
      (itemsAfter level items ++ ((lineBreak outer).toList ++ ']' :: rest)) =
      (Outline.ofJsonItems items, none, some rest) := by
  induction items generalizing fuel with
  | nil =>
    obtain ⟨f, rfl⟩ : ∃ f, fuel = f + 1 := ⟨fuel - 1, by omega⟩
    exact readItems_end false outer
  | cons x xs ih =>
    obtain ⟨f, rfl⟩ : ∃ f, fuel = f + 1 := ⟨fuel - 1, by omega⟩
    rw [itemsAfter, toList_prettyItems_cons] at hfuel
    simp only [List.length_cons, List.length_append] at hfuel
    have hafter := ih (fun y hy => hplain y (List.mem_cons_of_mem x hy))
      (fun y hy => hitems y (List.mem_cons_of_mem x hy)) f (by omega)
    have hvalue := hitems x List.mem_cons_self f
      (itemsAfter level xs ++ ((lineBreak outer).toList ++ ']' :: rest)) (by omega)
    have hbegins := beginsValue_prettyAt (hplain x List.mem_cons_self) level
      (itemsAfter level xs ++ ((lineBreak outer).toList ++ ']' :: rest))
    rw [itemsAfter, toList_prettyItems_cons, List.cons_append, List.append_assoc,
      List.append_assoc, Outline.ofJsonItems]
    exact readItems_next hbegins hvalue hafter level

theorem readEntries_entriesAfter {entries : List (String × Json)}
    (hentries : ∀ e ∈ entries, ReadsBack depth level e.2) (outer fuel : Nat) (rest : List Char)
    (hfuel : (entriesAfter level entries).length < fuel) :
    readEntries fuel depth false
      (entriesAfter level entries ++ ((lineBreak outer).toList ++ '\x7d' :: rest)) =
      (Outline.ofJsonEntries entries, none, some rest) := by
  induction entries generalizing fuel with
  | nil =>
    obtain ⟨f, rfl⟩ : ∃ f, fuel = f + 1 := ⟨fuel - 1, by omega⟩
    exact readEntries_end false outer
  | cons e es ih =>
    obtain ⟨k, v⟩ := e
    obtain ⟨f, rfl⟩ : ∃ f, fuel = f + 1 := ⟨fuel - 1, by omega⟩
    rw [entriesAfter, toList_prettyEntries_cons] at hfuel
    simp only [List.length_cons, List.length_append] at hfuel
    have hafter := ih (fun e he => hentries e (List.mem_cons_of_mem (k, v) he)) f (by omega)
    have hread : ReadsBack depth level v := hentries (k, v) List.mem_cons_self
    have hvalue := hread f
      (entriesAfter level es ++ ((lineBreak outer).toList ++ '\x7d' :: rest)) (by omega)
    rw [← readValue_space] at hvalue
    rw [entriesAfter, toList_prettyEntries_cons, Outline.ofJsonEntries]
    simp only [List.cons_append, List.append_assoc]
    exact readEntries_next k hvalue hafter level

end Lists

/-- A written value is read back, and what follows it is left. -/
theorem readValue_prettyAt {n : Nat} {j : Json} (h : j.Plain n) (level : Nat) {depth : Nat}
    (hdepth : n < depth) : ReadsBack depth level j := by
  induction h generalizing level depth with
  | null =>
    intro fuel rest hfuel
    obtain ⟨f, rfl⟩ : ∃ f, fuel = f + 1 := ⟨fuel - 1, by simp [prettyAt] at hfuel; omega⟩
    rw [prettyAt]
    rfl
  | flag b =>
    intro fuel rest hfuel
    have hpos : 0 < fuel := by cases b <;> simp [prettyAt] at hfuel <;> omega
    obtain ⟨f, rfl⟩ : ∃ f, fuel = f + 1 := ⟨fuel - 1, by omega⟩
    rw [prettyAt]
    cases b <;> rfl
  | text s =>
    intro fuel rest hfuel
    rw [prettyAt, toList_literal] at hfuel ⊢
    obtain ⟨f, rfl⟩ : ∃ f, fuel = f + 1 := ⟨fuel - 1, by simp at hfuel; omega⟩
    rw [List.cons_append, List.append_assoc, readValue, skipSpace_cons (by decide)]
    simp [textReading, readText_flatMap_escaped, Outline.ofJson]
  | @array n items hplain ih =>
    intro fuel rest hfuel
    have hlimit : ¬ depth ≤ 1 := by omega
    cases items with
    | nil =>
      obtain ⟨f, rfl⟩ : ∃ f, fuel = f + 2 := ⟨fuel - 2, by simp [prettyAt] at hfuel; omega⟩
      rw [prettyAt, readValue]
      simp [skipSpace_cons (c := '[') (by decide), hlimit, readItems,
        skipSpace_cons (c := ']') (by decide), Outline.ofJson, Outline.ofJsonItems]
    | cons x xs =>
      rw [toList_prettyAt_array, toList_prettyItems_cons] at hfuel
      simp only [List.length_cons, List.length_append, length_lineBreak] at hfuel
      obtain ⟨f, rfl⟩ : ∃ f, fuel = f + 2 := ⟨fuel - 2, by omega⟩
      have hread (y : Json) (hy : y ∈ x :: xs) : ReadsBack (depth - 1) (level + 1) y :=
        ih y hy (level + 1) (by omega)
      have hafter := readItems_itemsAfter (fun y hy => hplain y (List.mem_cons_of_mem x hy))
        (fun y hy => hread y (List.mem_cons_of_mem x hy)) level f rest (by omega)
      have hvalue := hread x List.mem_cons_self f
        (itemsAfter (level + 1) xs ++ ((lineBreak level).toList ++ ']' :: rest)) (by omega)
      have hbegins := beginsValue_prettyAt (hplain x List.mem_cons_self) (level + 1)
        (itemsAfter (level + 1) xs ++ ((lineBreak level).toList ++ ']' :: rest))
      have hitems := readItems_first hbegins hvalue hafter (level + 1)
      rw [toList_prettyAt_array, toList_prettyItems_cons, readValue]
      simp only [List.cons_append, List.append_assoc, List.nil_append,
        skipSpace_cons (c := '[') (by decide), hlimit, if_false, hitems, Outline.ofJson,
        Outline.ofJsonItems]
  | @object n entries hkeys hplain ih =>
    intro fuel rest hfuel
    have hlimit : ¬ depth ≤ 1 := by omega
    cases entries with
    | nil =>
      obtain ⟨f, rfl⟩ : ∃ f, fuel = f + 2 := ⟨fuel - 2, by simp [prettyAt] at hfuel; omega⟩
      rw [prettyAt, readValue]
      simp [skipSpace_cons (c := '\x7b') (by decide), hlimit, readEntries,
        skipSpace_cons (c := '\x7d') (by decide), Outline.ofJson, Outline.ofJsonEntries]
    | cons e es =>
      obtain ⟨k, v⟩ := e
      rw [toList_prettyAt_object, toList_prettyEntries_cons] at hfuel
      simp only [List.length_cons, List.length_append] at hfuel
      obtain ⟨f, rfl⟩ : ∃ f, fuel = f + 2 := ⟨fuel - 2, by omega⟩
      have hread (e : String × Json) (he : e ∈ (k, v) :: es) :
          ReadsBack (depth - 1) (level + 1) e.2 := ih e he (level + 1) (by omega)
      have hafter := readEntries_entriesAfter
        (fun e he => hread e (List.mem_cons_of_mem (k, v) he)) level f rest (by omega)
      have hfirst : ReadsBack (depth - 1) (level + 1) v := hread (k, v) List.mem_cons_self
      have hvalue := hfirst f
        (entriesAfter (level + 1) es ++ ((lineBreak level).toList ++ '\x7d' :: rest)) (by omega)
      rw [← readValue_space] at hvalue
      have hentries := readEntries_first k hvalue hafter (level + 1)
      rw [toList_prettyAt_object, toList_prettyEntries_cons, readValue]
      simp only [List.cons_append, List.append_assoc, List.nil_append,
        skipSpace_cons (c := '\x7b') (by decide), hlimit, if_false, hentries, Outline.ofJson,
        Outline.ofJsonEntries, keyLeaf]

/-- The indented text of a value is read as the value. -/
theorem parse_pretty {n : Nat} {j : Json} (h : j.Plain n) (hn : n < depthLimit) :
    parse j.pretty = .ok j := by
  have hread : readValue (2 * j.pretty.toList.length + 2) depthLimit j.pretty.toList =
      (.ofJson j, some []) := by
    have hback := readValue_prettyAt h 0 hn (2 * j.pretty.toList.length + 2) []
      (by rw [pretty]; omega)
    rwa [List.append_nil] at hback
  have hread' : (Outline.ofJson j).asJson = .ok j := by
    rw [Outline.asJson_ofJson, j.merged_eq_self_iff.mpr h.distinctKeys]
  simp only [parse, readWith, outline, hread, hread']
  rfl

end TypeDocs.Json
