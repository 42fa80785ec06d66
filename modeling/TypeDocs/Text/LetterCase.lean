import TypeDocs.Text.CaseTable

/-!
# Upper and lower case

A character may become several. A text is raised character by character; lowering differs from
that only at a capital sigma, which takes its final form at the end of a word.
-/

namespace TypeDocs.Text

/-- What a character becomes under a case map. Below 128 only the letters move. -/
def mapped (letters : Char → Char) (expansions : List (Nat × List Nat))
    (progressions : List Progression) (c : Char) : List Char :=
  if c.toNat < 128 then [letters c]
  else match expansions.lookup c.toNat with
    | some ns => ns.map Char.ofNat
    | none => [Char.ofNat (shifted progressions c.toNat)]

def upperChar : Char → List Char := mapped Char.toUpper upperExpansions upperProgressions

def lowerChar : Char → List Char := mapped Char.toLower lowerExpansions lowerProgressions

def upper (cs : List Char) : List Char := cs.flatMap upperChar

/-- Whether the first character that case does not ignore is a letter with case. -/
def startsCased (cs : List Char) : Bool :=
  match cs.dropWhile caseIgnorableRanges.has with
  | c :: _ => casedRanges.has c
  | [] => false

/-- Lowers a text of which `before` stands in front, last character first. -/
def lowerFrom (before : List Char) : List Char → List Char
  | [] => []
  | c :: cs =>
    (if c == 'Σ' then [if startsCased before && !startsCased cs then 'ς' else 'σ']
      else lowerChar c) ++ lowerFrom (c :: before) cs

def lower (cs : List Char) : List Char := lowerFrom [] cs

def upperText (s : String) : String := .ofList (upper s.toList)

def lowerText (s : String) : String := .ofList (lower s.toList)

@[simp] theorem upper_append (a b : List Char) : upper (a ++ b) = upper a ++ upper b := by
  simp [upper]

/-- Texts that differ at most in the case of the letters `A` to `Z`. -/
def sameLetters (a b : String) : Bool :=
  a.toList.map Char.toLower == b.toList.map Char.toLower

end TypeDocs.Text
