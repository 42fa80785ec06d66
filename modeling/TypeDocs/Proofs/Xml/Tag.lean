import TypeDocs.Xml.Attribute

/-!
# Tags as they are written

A tag has a name and attributes, each behind space of its own, and may end in space. Reading an
attribute of a tag gives what the first attribute with that key says, whatever the space and the
quotes are.
-/

namespace TypeDocs.Xml

/-- A name has no space, no quote and none of the characters that markup is made of. -/
def isNameChar (c : Char) : Bool :=
  !isSpace c && !(['"', '\'', '<', '>', '=', '/', '&', '!', '?'].contains c)

structure Name where
  chars : List Char
  ne_nil : chars ≠ []
  valid : chars.all isNameChar = true

structure Space where
  chars : List Char
  blank : chars.all isSpace = true

structure WrittenAttribute where
  gap : Space
  gap_ne_nil : gap.chars ≠ []
  key : Name
  before : Space
  after : Space
  quote : Char
  quote_eq : quote = '"' ∨ quote = '\''
  value : List Char
  quote_notMem : quote ∉ value

structure Tag where
  name : Name
  attributes : List WrittenAttribute
  space : Space

/-- What follows the key of an attribute. -/
def WrittenAttribute.assignment (a : WrittenAttribute) : List Char :=
  a.before.chars ++ '=' :: (a.after.chars ++ a.quote :: (a.value ++ [a.quote]))

def WrittenAttribute.chars (a : WrittenAttribute) : List Char :=
  a.gap.chars ++ (a.key.chars ++ a.assignment)

/-- What follows the name of a tag. -/
def Tag.tail (t : Tag) : List Char := t.attributes.flatMap (·.chars) ++ t.space.chars

def Tag.chars (t : Tag) : List Char := t.name.chars ++ t.tail

/-- The tag as the start tag of an element. -/
def Tag.opening (t : Tag) : List Char := '<' :: (t.chars ++ ['>'])

/-- The tag as an element without content. -/
def Tag.alone (t : Tag) : List Char := '<' :: (t.chars ++ ['/'] ++ ['>'])

def endTag (name space : List Char) : List Char := '<' :: ('/' :: (name ++ space) ++ ['>'])

/-- The end tag of an element. -/
def Name.closing (n : Name) (s : Space) : List Char := endTag n.chars s.chars

/-- The value of the first attribute with a key, references not resolved. -/
def firstValue? (key : List Char) (as : List WrittenAttribute) : Option (List Char) :=
  (as.find? (·.key.chars == key)).map (·.value)

/-- What a tag says for a key. -/
def Tag.given (t : Tag) (key : String) : Except Malformed (Option String) :=
  match firstValue? key.toList t.attributes with
  | none => .ok none
  | some raw => (resolved raw).map fun cs => some (.ofList cs)

theorem not_isSpace_of_isNameChar {c : Char} (h : isNameChar c = true) : isSpace c = false := by
  simp only [isNameChar, Bool.and_eq_true, Bool.not_eq_true'] at h
  exact h.1

theorem ne_of_isNameChar {c x : Char} (h : isNameChar c = true)
    (hx : isNameChar x = false) : c ≠ x := by
  rintro rfl
  rw [h] at hx
  exact Bool.noConfusion hx

theorem not_endsKey_of_isNameChar {c : Char} (h : isNameChar c = true) : endsKey c = false := by
  have heq : c ≠ '=' := ne_of_isNameChar h (by decide)
  have hs : isSpace c = false := not_isSpace_of_isNameChar h
  simp [endsKey, heq, hs]

theorem Name.isNameChar_of_mem (n : Name) {c : Char} (h : c ∈ n.chars) : isNameChar c = true :=
  List.all_eq_true.mp n.valid c h

theorem Space.isSpace_of_mem (s : Space) {c : Char} (h : c ∈ s.chars) : isSpace c = true :=
  List.all_eq_true.mp s.blank c h

theorem Name.exists_cons (n : Name) : ∃ c cs, n.chars = c :: cs ∧ isNameChar c = true := by
  obtain ⟨c, cs, h⟩ := List.exists_cons_of_ne_nil n.ne_nil
  refine ⟨c, cs, h, n.isNameChar_of_mem ?_⟩
  rw [h]
  exact List.mem_cons_self

theorem dropSpace_append (s : Space) (cs : List Char) :
    dropSpace (s.chars ++ cs) = dropSpace cs := by
  unfold dropSpace
  exact List.dropWhile_append_of_pos fun c hc => s.isSpace_of_mem hc

theorem dropSpace_cons {c : Char} (h : isSpace c = false) (cs : List Char) :
    dropSpace (c :: cs) = c :: cs := by
  unfold dropSpace
  rw [List.dropWhile_cons]
  simp [h]

theorem dropSpace_name (n : Name) (cs : List Char) :
    dropSpace (n.chars ++ cs) = n.chars ++ cs := by
  obtain ⟨c, ds, hn, hc⟩ := n.exists_cons
  rw [hn, List.cons_append]
  exact dropSpace_cons (not_isSpace_of_isNameChar hc) _

/-- The key of an attribute ends where its assignment begins. -/
theorem takeWhile_assignment (a : WrittenAttribute) (rest : List Char) :
    (a.assignment ++ rest).takeWhile (fun c => !endsKey c) = [] := by
  unfold WrittenAttribute.assignment
  cases hb : a.before.chars with
  | nil => rfl
  | cons c cs =>
    have hc : isSpace c = true := a.before.isSpace_of_mem (by rw [hb]; exact List.mem_cons_self)
    simp [endsKey, hc]

theorem dropWhile_assignment (a : WrittenAttribute) (rest : List Char) :
    (a.assignment ++ rest).dropWhile (fun c => !endsKey c) = a.assignment ++ rest := by
  have h := List.takeWhile_append_dropWhile (p := fun c => !endsKey c)
    (l := a.assignment ++ rest)
  rwa [takeWhile_assignment, List.nil_append] at h

theorem WrittenAttribute.not_isSpace_quote (a : WrittenAttribute) :
    isSpace a.quote = false := by
  obtain h | h := a.quote_eq <;> rw [h] <;> rfl

theorem WrittenAttribute.ne_quote (a : WrittenAttribute) :
    ∀ c ∈ a.value, (c != a.quote) = true := by
  intro c hc
  have hne : c ≠ a.quote := fun h => a.quote_notMem (h ▸ hc)
  simpa using hne

theorem quotedValue_written (total : Nat) (a : WrittenAttribute) (rest : List Char) :
    quotedValue total (a.after.chars ++ a.quote :: (a.value ++ a.quote :: rest)) =
      .ok (a.value, rest) := by
  have hq : (a.quote == '"' || a.quote == '\'') = true := by
    obtain h | h := a.quote_eq <;> rw [h] <;> rfl
  have htake : (a.value ++ a.quote :: rest).takeWhile (· != a.quote) = a.value := by
    rw [List.takeWhile_append_of_pos a.ne_quote]
    simp
  have hdrop : (a.value ++ a.quote :: rest).dropWhile (· != a.quote) = a.quote :: rest := by
    rw [List.dropWhile_append_of_pos a.ne_quote]
    simp
  unfold quotedValue
  rw [dropSpace_append, dropSpace_cons a.not_isSpace_quote]
  simp only [hq, if_true, hdrop, htake]

theorem splitKey_written (a : WrittenAttribute) (rest : List Char) :
    splitKey (a.key.chars ++ (a.assignment ++ rest)) = (a.key.chars, a.assignment ++ rest) := by
  obtain ⟨c, cs, hkey, -⟩ := a.key.exists_cons
  have hcs : ∀ d ∈ cs, (!endsKey d) = true := by
    intro d hd
    have hmem : d ∈ a.key.chars := by
      rw [hkey]
      exact List.mem_cons_of_mem c hd
    rw [not_endsKey_of_isNameChar (a.key.isNameChar_of_mem hmem)]
    rfl
  rw [hkey, List.cons_append, splitKey, List.takeWhile_append_of_pos hcs, takeWhile_assignment,
    List.append_nil, List.dropWhile_append_of_pos hcs, dropWhile_assignment]

/-- Reading an attribute gives its key and its value, and stops behind its closing quote. -/
theorem readAttribute_written (total : Nat) (a : WrittenAttribute) (rest : List Char) :
    readAttribute total (a.key.chars ++ (a.assignment ++ rest)) =
      .ok ((a.key.chars, a.value), rest) := by
  have hequals : dropSpace (a.assignment ++ rest) =
      '=' :: (a.after.chars ++ a.quote :: (a.value ++ a.quote :: rest)) := by
    unfold WrittenAttribute.assignment
    rw [List.append_assoc, dropSpace_append, List.cons_append, dropSpace_cons rfl]
    simp
  unfold readAttribute
  simp only [splitKey_written, hequals]
  rw [quotedValue_written]
  rfl

theorem findFrom_space (total fuel : Nat) (key : List Char) (s : Space) :
    findFrom total key fuel s.chars = .ok none := by
  have h : dropSpace s.chars = [] := by
    have happend := dropSpace_append s []
    rwa [List.append_nil] at happend
  cases fuel with
  | zero => rfl
  | succ fuel => rw [findFrom, h]

theorem findFrom_cons (total fuel : Nat) (key : List Char) (a : WrittenAttribute)
    (rest : List Char) :
    findFrom total key (fuel + 1) (a.chars ++ rest) =
      if a.key.chars == key then .ok (some a.value) else findFrom total key fuel rest := by
  have hdrop : dropSpace (a.chars ++ rest) = a.key.chars ++ (a.assignment ++ rest) := by
    unfold WrittenAttribute.chars
    rw [List.append_assoc, dropSpace_append, List.append_assoc, dropSpace_name]
  have hne : a.key.chars ++ (a.assignment ++ rest) ≠ [] := by
    simp [a.key.ne_nil]
  rw [findFrom, hdrop]
  split
  · contradiction
  · rw [readAttribute_written]
    rfl

/-- Looking for a key goes over the attributes one by one up to the first that has it. -/
theorem findFrom_written (total : Nat) (key : List Char) (as : List WrittenAttribute)
    (s : Space) (fuel : Nat) (h : as.length ≤ fuel) :
    findFrom total key fuel (as.flatMap (·.chars) ++ s.chars) = .ok (firstValue? key as) := by
  induction as generalizing fuel with
  | nil => exact findFrom_space total fuel key s
  | cons a as ih =>
    obtain ⟨fuel, rfl⟩ : ∃ n, fuel = n + 1 := by
      rw [List.length_cons] at h
      exact ⟨fuel - 1, by omega⟩
    rw [List.flatMap_cons, List.append_assoc, findFrom_cons]
    rw [List.length_cons] at h
    by_cases hk : (a.key.chars == key) = true
    · simp [hk, firstValue?]
    · have hrest := ih fuel (by omega)
      simp only [Bool.not_eq_true] at hk
      simp [hk, hrest, firstValue?]

theorem WrittenAttribute.chars_pos (a : WrittenAttribute) : 0 < a.chars.length := by
  have h := List.length_pos_iff.mpr a.gap_ne_nil
  unfold WrittenAttribute.chars
  rw [List.length_append]
  omega

theorem length_le_flatMap_chars (as : List WrittenAttribute) :
    as.length ≤ (as.flatMap (·.chars)).length := by
  induction as with
  | nil => exact Nat.le_refl 0
  | cons a as ih =>
    have ha := a.chars_pos
    rw [List.flatMap_cons, List.length_append, List.length_cons]
    omega

theorem Tag.tail_begins (t : Tag) : ∀ c ∈ t.tail.head?, isSpace c = true := by
  intro c hc
  unfold Tag.tail at hc
  cases has : t.attributes with
  | nil =>
    rw [has, List.flatMap_nil, List.nil_append] at hc
    exact t.space.isSpace_of_mem (List.mem_of_mem_head? hc)
  | cons a as =>
    obtain ⟨x, xs, hx⟩ := List.exists_cons_of_ne_nil a.gap_ne_nil
    have hxc : x = c := by simpa [has, WrittenAttribute.chars, hx] using hc
    rw [← hxc]
    exact a.gap.isSpace_of_mem (by rw [hx]; exact List.mem_cons_self)

theorem tagName_chars (t : Tag) : tagName t.chars = t.name.chars := by
  have hname : ∀ c ∈ t.name.chars, (!isSpace c) = true := by
    intro c hc
    rw [not_isSpace_of_isNameChar (t.name.isNameChar_of_mem hc)]
    rfl
  have htail : t.tail.takeWhile (fun c => !isSpace c) = [] := by
    have hbegins := t.tail_begins
    cases ht : t.tail with
    | nil => rfl
    | cons c cs =>
      rw [ht] at hbegins
      simp [hbegins c rfl]
  unfold tagName Tag.chars
  rw [List.takeWhile_append_of_pos hname, htail, List.append_nil]

/-- Reading a key of a tag gives what the tag says for it. -/
theorem attribute?_chars (t : Tag) (key : String) :
    attribute? t.chars key = t.given key := by
  have hrest : t.chars.drop (tagName t.chars).length = t.tail := by
    rw [tagName_chars]
    unfold Tag.chars
    exact List.drop_left
  have hfuel : t.attributes.length ≤ t.chars.length + 1 := by
    have h := length_le_flatMap_chars t.attributes
    unfold Tag.chars Tag.tail
    rw [List.length_append, List.length_append]
    omega
  have hfind : findFrom (byteLength t.chars) key.toList (t.chars.length + 1) t.tail =
      .ok (firstValue? key.toList t.attributes) :=
    findFrom_written _ _ _ _ _ hfuel
  unfold attribute? Tag.given
  simp only [hrest, hfind]
  cases firstValue? key.toList t.attributes with
  | none => rfl
  | some raw => cases resolved raw <;> rfl

end TypeDocs.Xml
