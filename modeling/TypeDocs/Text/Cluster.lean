import TypeDocs.Text.ClusterTable

/-!
# Character clusters

A cluster is what a reader takes for one character: a base with the marks that join it. Clusters
cut a text into pieces, none of them empty, that together are the text.
-/

namespace TypeDocs.Text

/-- Whether no cluster ends between two neighbours. -/
def joins (a b : Char) : Bool :=
  !controlRanges.has a && !controlRanges.has b && (extendingRanges.has b || prependRanges.has a)

/-- The first cluster of a text that begins with `a`, and the clusters after it. -/
def clustersFrom (a : Char) : List Char → List Char × List (List Char)
  | [] => ([a], [])
  | b :: cs =>
    let (first, rest) := clustersFrom b cs
    if joins a b then (a :: first, rest) else ([a], first :: rest)

def clusters : List Char → List (List Char)
  | [] => []
  | a :: cs => let (first, rest) := clustersFrom a cs; first :: rest

end TypeDocs.Text
