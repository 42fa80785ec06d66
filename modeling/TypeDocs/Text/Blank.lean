/-!
# White space

The characters with the Unicode property `White_Space`, and what is said with them: blank texts,
trimming, and the words of a text. A text is blank when trimming leaves nothing of it.
-/

namespace TypeDocs.Text

/-- The characters with the property `White_Space`. -/
def isBlank (c : Char) : Bool :=
  let n := c.toNat
  (0x9 ≤ n && n ≤ 0xd) || n == 0x20 || n == 0x85 || n == 0xa0 || n == 0x1680 ||
    (0x2000 ≤ n && n ≤ 0x200a) || n == 0x2028 || n == 0x2029 || n == 0x202f || n == 0x205f ||
    n == 0x3000

def trimStart (cs : List Char) : List Char := cs.dropWhile isBlank

def trimEnd (cs : List Char) : List Char := (cs.reverse.dropWhile isBlank).reverse

def trim (cs : List Char) : List Char := trimEnd (trimStart cs)

def isBlankText (s : String) : Bool := s.toList.all isBlank

/-- The text without white space at its end. -/
def dropTrailing (s : String) : String := .ofList (trimEnd s.toList)

/-- The text without white space at its ends. -/
def strip (s : String) : String := .ofList (trim s.toList)

/-- The maximal runs of characters that are not white space, in order. -/
def words (cs : List Char) : List (List Char) :=
  (cs.splitOnP isBlank).filter (fun w => !w.isEmpty)

/-- The words of the text with one space between neighbours. -/
def singleSpaced (s : String) : String :=
  .ofList ([' '].intercalate (words s.toList))

/-- The marker shown in place of a text that is missing. -/
def missing : String := "-"

/-- The text, or the marker for a missing one when it is blank. -/
def orMissing (s : String) : String := if isBlankText s then missing else s

/-- A blank value counts as no value. -/
def nonBlank (s : Option String) : Option String := s.filter (fun t => !isBlankText t)

theorem isBlankText_eq_false_iff {s : String} :
    isBlankText s = false ↔ ∃ c ∈ s.toList, isBlank c = false := by
  rw [isBlankText, List.all_eq_false]
  simp

theorem isBlankText_append (s t : String) :
    isBlankText (s ++ t) = (isBlankText s && isBlankText t) := by
  rw [isBlankText, String.toList_append, List.all_append]
  rfl

/-- A text with a mark in it is not blank, whatever stands around. -/
theorem isBlankText_append_append {mark : String} (h : isBlankText mark = false) (s t : String) :
    isBlankText (s ++ mark ++ t) = false := by
  rw [isBlankText_append, isBlankText_append, h, Bool.and_false, Bool.false_and]

theorem isBlankText_of_nonBlank {o : Option String} {s : String} (h : nonBlank o = some s) :
    isBlankText s = false := by
  have hs := (Option.filter_eq_some_iff.mp h).2
  simpa using hs

theorem isBlankText_intercalate {mark : String} (h : isBlankText mark = false)
    (s t : String) (rest : List String) :
    isBlankText (mark.intercalate (s :: t :: rest)) = false := by
  rw [String.intercalate_cons_cons]
  exact isBlankText_append_append h s _

theorem isBlankText_missing : isBlankText missing = false := by decide

theorem isBlankText_orMissing (s : String) : isBlankText (orMissing s) = false := by
  unfold orMissing
  split
  · exact isBlankText_missing
  · next h => simpa using h

end TypeDocs.Text
