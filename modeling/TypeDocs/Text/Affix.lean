/-!
# Beginnings and ends of texts
-/

namespace TypeDocs.Text

/-- What stands before the suffix, when the text ends with it. -/
def dropSuffix? (suffix s : String) : Option String :=
  if suffix.toList.isSuffixOf s.toList then
    some (.ofList (s.toList.take (s.toList.length - suffix.toList.length)))
  else none

def startsWith (start s : String) : Bool := start.toList.isPrefixOf s.toList

theorem dropSuffix?_append (s suffix : String) : dropSuffix? suffix (s ++ suffix) = some s := by
  simp [dropSuffix?, String.toList_append]

theorem eq_append_of_dropSuffix? {suffix s t : String} (h : dropSuffix? suffix s = some t) :
    s = t ++ suffix := by
  unfold dropSuffix? at h
  split at h
  · next hs =>
    obtain ⟨p, hp⟩ := List.isSuffixOf_iff_suffix.1 hs
    simp only [Option.some.injEq] at h
    subst h
    apply String.toList_inj.1
    simp [String.toList_append, ← hp]
  · simp at h

end TypeDocs.Text
