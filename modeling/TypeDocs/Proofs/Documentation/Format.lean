import TypeDocs.Documentation
import TypeDocs.Proofs.Xml.Content
import TypeDocs.Proofs.Xml.Reference

/-!
# The format of documentation

Which content a summary, a member and a whole text may have, and what each says. A member has no
other member in it. A summary has neither a member nor a summary in it, and every reference in it
is one that can be resolved.
-/

namespace TypeDocs.Documentation

open Xml

/-- What a summary shows of a leaf. -/
def shownLeaf : Leaf → Except Malformed (List (List Char))
  | .empty t => (t.given "cref").map fun
    | some reference => [referenceName reference.toList]
    | none => []
  | .cdata content _ => .ok [content]
  | .comment .. | .instruction .. | .doctype .. => .ok []

/-- The content of a summary, and the texts it shows in their order. -/
inductive Summary : Content → List (List Char) → Prop where
  | last {t : CharData} {cs : List Char} (ht : Written t.chars cs) :
    Summary (.last t) [cs]
  | leaf {t : CharData} {cs : List Char} {l : Leaf} {rest : Content}
    {shown after : List (List Char)} (ht : Written t.chars cs)
    (hl : shownLeaf l = .ok shown) (hrest : Summary rest after) :
    Summary (.leaf t l rest) (cs :: (shown ++ after))
  | element {t : CharData} {cs : List Char} {tag : Tag} {inner rest : Content} {space : Space}
    {shown after : List (List Char)} (ht : Written t.chars cs)
    (hmember : tag.name.chars ≠ memberTag) (hsummary : tag.name.chars ≠ summaryTag)
    (hinner : Summary inner shown) (hrest : Summary rest after) :
    Summary (.element t tag inner space rest) (cs :: (shown ++ after))

/-- The content of a member, and what its summaries show in their order. -/
inductive Body : Content → List (List (List Char)) → Prop where
  | last {t : CharData} : Body (.last t) []
  | leaf {t : CharData} {l : Leaf} {rest : Content} {after : List (List (List Char))}
    (hrest : Body rest after) : Body (.leaf t l rest) after
  | summary {t : CharData} {tag : Tag} {inner rest : Content} {space : Space}
    {shown : List (List Char)} {after : List (List (List Char))}
    (hsummary : tag.name.chars = summaryTag) (hinner : Summary inner shown)
    (hrest : Body rest after) : Body (.element t tag inner space rest) (shown :: after)
  | element {t : CharData} {tag : Tag} {inner rest : Content} {space : Space}
    {within after : List (List (List Char))} (hmember : tag.name.chars ≠ memberTag)
    (hsummary : tag.name.chars ≠ summaryTag) (hinner : Body inner within)
    (hrest : Body rest after) : Body (.element t tag inner space rest) (within ++ after)

/-- The content of a whole text, and its summaries with the names of their members. An element
that is no member, or a member without a name, has such content again. -/
inductive Members : Content → List (String × List (List Char)) → Prop where
  | last {t : CharData} : Members (.last t) []
  | leaf {t : CharData} {l : Leaf} {rest : Content} {after : List (String × List (List Char))}
    (hrest : Members rest after) : Members (.leaf t l rest) after
  | member {t : CharData} {tag : Tag} {name : String} {inner rest : Content} {space : Space}
    {within : List (List (List Char))} {after : List (String × List (List Char))}
    (hmember : tag.name.chars = memberTag) (hname : tag.given "name" = .ok (some name))
    (hinner : Body inner within) (hrest : Members rest after) :
    Members (.element t tag inner space rest) (within.map (name, ·) ++ after)
  | element {t : CharData} {tag : Tag} {inner rest : Content} {space : Space}
    {within after : List (String × List (List Char))}
    (hmember : tag.name.chars = memberTag → tag.given "name" = .ok none)
    (hinner : Members inner within) (hrest : Members rest after) :
    Members (.element t tag inner space rest) (within ++ after)

/-- The words of the texts that a summary shows, with single spaces. -/
def summaryText (shown : List (List Char)) : String :=
  .ofList ([' '].intercalate (shown.flatMap Text.words))

/-- A text, with a byte order mark or without. -/
structure Document where
  mark : Bool
  content : Content
  begins : content.chars.head? ≠ some '\ufeff'

def Document.text (doc : Document) : String :=
  .ofList (if doc.mark then '\ufeff' :: doc.content.chars else doc.content.chars)

theorem Document.pieces_text (doc : Document) :
    pieces doc.text.toList = (doc.content.markup, none) := by
  unfold Document.text
  rw [String.toList_ofList]
  cases doc.mark with
  | true => exact pieces_content doc.content rfl
  | false => exact pieces_content doc.content (dropMark_of_ne doc.begins)

end TypeDocs.Documentation
