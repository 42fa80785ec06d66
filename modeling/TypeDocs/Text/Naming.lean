import TypeDocs.Text.Cluster
import TypeDocs.Text.LetterCase

/-!
# Names in Pascal and camel case

A name is cut into words at underscores, hyphens and spaces and where the kind of character
changes. Its words are then capitalised and written together; in camel case the first word is
lowered instead.
-/

namespace TypeDocs.Text

inductive Naming where
  | pascal
  | camel
  deriving DecidableEq, Repr

namespace Naming

/-- What decides whether a word ends at a cluster. -/
inductive Kind where
  | delimiter
  | upper
  | lower
  | digit
  | other
  deriving DecidableEq, Repr

def kind (cluster : List Char) : Kind :=
  if cluster == ['_'] || cluster == ['-'] || cluster == [' '] then .delimiter
  else if cluster.all Char.isDigit then .digit
  else if Text.upper cluster == Text.lower cluster then .other
  else if cluster == Text.upper cluster then .upper
  else if cluster == Text.lower cluster then .lower
  else .other

/-- Whether a word ends after a cluster of the first kind, by the kinds of the next two. -/
def endsWord : Kind → Option Kind → Option Kind → Bool
  | .lower, some .upper, _ | .lower, some .digit, _ | .upper, some .digit, _ => true
  | .digit, some .upper, _ | .digit, some .lower, _ => true
  | .upper, some .upper, some .lower => true
  | _, _, _ => false

/-- The words of a text given by its clusters; `word` is the one begun, in reverse. -/
def wordsFrom (word : List (List Char)) : List (List Char) → List (List (List Char))
  | [] => [word.reverse]
  | a :: rest =>
    if kind a == .delimiter then word.reverse :: wordsFrom [] rest
    else if endsWord (kind a) (rest[0]?.map kind) (rest[1]?.map kind) then
      (a :: word).reverse :: wordsFrom [] rest
    else wordsFrom (a :: word) rest

def words (cs : List Char) : List (List (List Char)) :=
  (wordsFrom [] (clusters cs)).filter (fun w => !w.isEmpty)

/-- A word with its first cluster raised and all others lowered. -/
def capital : List (List Char) → List Char
  | [] => []
  | first :: rest => Text.upper first ++ Text.lower rest.flatten

def join (naming : Naming) (ws : List (List (List Char))) : List Char :=
  match naming, ws with
  | .camel, first :: rest => Text.lower first.flatten ++ rest.flatMap capital
  | _, ws => ws.flatMap capital

/-- The name in the given case. -/
def apply (naming : Naming) (name : String) : String :=
  .ofList (naming.join (words name.toList))

end Naming

end TypeDocs.Text
