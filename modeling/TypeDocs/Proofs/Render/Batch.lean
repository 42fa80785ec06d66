import TypeDocs.Proofs.Json.Lines
import TypeDocs.Proofs.Render.Tree
import TypeDocs.Proofs.Yaml.Lines

/-!
# Batches and their documents

Whatever the texts of descriptors hold, a JSON batch falls into its documents behind the lines that
are a closing brace. A YAML batch falls into its documents at the lines of three hyphens just when
every document but the last ends with a line feed, which is not so for a literal block that ends
with another break; of the lines that end at every break of YAML this is so for all batches.
-/

namespace TypeDocs

open Text

section Marks

/-- The lines that say `mark` are one less than the parts and stand between them. -/
def PartedBy (brk : Char → Bool) (mark : String) (whole : List Char) (parts : List (List Char)) :
    Prop :=
  (cutAfter brk whole).countP (isLine mark) + 1 = parts.length ∧
    ((cutAfter brk whole).splitOnP (isLine mark)).map List.flatten = parts

/-- The lines that say `mark` are as many as the parts, and each is the last of one. -/
def EndedBy (mark : String) (whole : List Char) (parts : List (List Char)) : Prop :=
  (lines whole).countP (isLine mark) = parts.length ∧
    (cutAfter (isLine mark) (lines whole)).map (fun ls => chomp ls.flatten) = parts

variable {brk : Char → Bool} {mark : String} {whole : List Char} {parts : List (List Char)}

theorem partedBy_of_splitOnP
    (h : ((cutAfter brk whole).splitOnP (isLine mark)).map List.flatten = parts) :
    PartedBy brk mark whole parts := by
  refine ⟨?_, h⟩
  rw [← h, List.length_map, length_splitOnP]

/-- A part that another follows ends with a break. -/
theorem PartedBy.getLast? (h : PartedBy brk mark whole parts) {part : List Char}
    (hpart : part ∈ parts.dropLast) {c : Char} (hc : part.getLast? = some c) :
    brk c = true := by
  rw [← h.2, ← List.map_dropLast] at hpart
  obtain ⟨ls, hls, rfl⟩ := List.mem_map.mp hpart
  rcases List.eq_nil_or_concat ls with rfl | ⟨init, l, rfl⟩
  · simp at hc
  · rw [List.concat_eq_append] at hls hc
    have hl : l ∈ (cutAfter brk whole).dropLast :=
      mem_dropLast_of_mem_splitOnP hls (by simp)
    obtain ⟨a, ha, hbrk⟩ := getLast?_of_mem_dropLast_cutAfter hl
    rw [List.flatten_append, List.flatten_singleton, List.getLast?_append, ha, Option.some_or,
      Option.some.injEq] at hc
    rwa [← hc]

theorem partedBy_intercalate (hfeed : brk '\n' = true) (hmark : ∀ c ∈ mark.toList, brk c = false)
    (hne : parts ≠ [])
    (hclean : ∀ part ∈ parts, ∀ l ∈ cutAfter brk part, isLine mark l = false)
    (hends : ∀ part ∈ parts.dropLast, ∀ c ∈ part.getLast?, brk c = true) :
    PartedBy brk mark ((mark.toList ++ ['\n']).intercalate parts) parts := by
  refine partedBy_of_splitOnP ?_
  induction parts with
  | nil => exact absurd rfl hne
  | cons part rest ih =>
    have hpart := hclean part List.mem_cons_self
    cases rest with
    | nil =>
      rw [List.intercalate_singleton, List.splitOnP_eq_singleton hpart, List.map_singleton,
        flatten_cutAfter]
    | cons next rest =>
      rw [List.dropLast_cons_of_ne_nil (by simp)] at hends
      have hrest := ih (by simp) (fun q hq => hclean q (List.mem_cons_of_mem part hq))
        (fun q hq => hends q (List.mem_cons_of_mem part hq))
      have hself : isLine mark (mark.toList ++ ['\n']) = true := by simp [isLine]
      have hcut : cutAfter brk (mark.toList ++ ['\n']) = [mark.toList ++ ['\n']] :=
        cutAfter_concat hmark '\n'
      rw [List.intercalate_cons_cons, List.append_assoc,
        cutAfter_append (hends part List.mem_cons_self),
        cutAfter_append (by simpa using hfeed), hcut, List.singleton_append,
        List.splitOnP_append_cons_of_forall_mem hpart _ hself, List.map_cons, flatten_cutAfter,
        hrest]

theorem chomp_of_not_mem {before : List Char} (hmark : '\n' ∉ mark.toList)
    (hne : mark.toList ≠ []) : chomp (before ++ mark.toList) = before ++ mark.toList := by
  rw [chomp, List.getLast?_append_of_ne_nil _ hne, if_neg fun h => hmark (List.mem_of_getLast? h)]

/-- Texts whose last line alone says `mark`, joined by line feeds, are cut behind these lines. -/
theorem endedBy_intercalate (hmark : '\n' ∉ mark.toList) (hne : mark.toList ≠ [])
    (hends : ∀ part ∈ parts, ∃ before, part = before ++ mark.toList ∧
      before.getLast? = some '\n' ∧ ∀ l ∈ lines before, isLine mark l = false) :
    EndedBy mark (['\n'].intercalate parts) parts := by
  induction parts with
  | nil => exact ⟨rfl, rfl⟩
  | cons part rest ih =>
    obtain ⟨before, rfl, hlast, hclean⟩ := hends part List.mem_cons_self
    have hnone : (lines before).countP (isLine mark) = 0 := by
      rw [List.countP_eq_zero]
      exact fun l hl => by simp [hclean l hl]
    have hpiece {l : List Char} : cutAfter (isLine mark) (lines before ++ [l]) =
        [lines before ++ [l]] := cutAfter_concat hclean l
    have hlines {l : List Char} (hl : isLine mark l = true) :
        lines (before ++ l) = lines before ++ [l] := by
      rw [lines, cutAfter_append (by simp [hlast])]
      exact congrArg (lines before ++ ·) (lines_of_isLine hmark hne hl)
    cases rest with
    | nil =>
      have hself : isLine mark mark.toList = true := by simp [isLine]
      rw [List.intercalate_singleton, EndedBy, hlines hself, hpiece, List.countP_append, hnone,
        List.countP_singleton, if_pos hself, List.map_singleton, List.flatten_append,
        List.flatten_singleton, lines, flatten_cutAfter, chomp_of_not_mem hmark hne]
      exact ⟨rfl, rfl⟩
    | cons next rest =>
      have hself : isLine mark (mark.toList ++ ['\n']) = true := by simp [isLine]
      obtain ⟨hcount, hcut⟩ := ih fun q hq => hends q (List.mem_cons_of_mem _ hq)
      have hfeed : lines (before ++ (mark.toList ++ ['\n']) ++ ['\n'].intercalate (next :: rest)) =
          (lines before ++ [mark.toList ++ ['\n']]) ++
            lines (['\n'].intercalate (next :: rest)) := by
        rw [← hlines hself]
        exact cutAfter_append (by simp)
      have htext : ['\n'].intercalate ((before ++ mark.toList) :: next :: rest) =
          before ++ (mark.toList ++ ['\n']) ++ ['\n'].intercalate (next :: rest) := by
        rw [List.intercalate_cons_cons]
        simp
      have hchomp : chomp (before ++ (mark.toList ++ ['\n'])) = before ++ mark.toList := by
        rw [← List.append_assoc, chomp, List.getLast?_concat, if_pos rfl, List.dropLast_concat]
      rw [htext, EndedBy, hfeed, List.countP_append, hcount, List.countP_append, hnone,
        List.countP_singleton, if_pos hself, cutAfter_append (by simpa using hself), hpiece,
        List.map_append, hcut, List.map_singleton, List.flatten_append, List.flatten_singleton,
        lines, flatten_cutAfter, hchomp]
      exact ⟨by simp [Nat.add_comm], rfl⟩

end Marks

namespace Descriptor

theorem exists_treeIn_eq (spell : Key → String) (d : Descriptor) :
    ∃ e es, d.treeIn spell = .object (e :: es) := by
  cases d <;> exact ⟨_, _, rfl⟩

def json (d : Descriptor) : List Char := (Structured.toJson d.toTree).toList

def yaml (d : Descriptor) : List Char := (Structured.toYaml d.toTree).toList

/-- Whether the last row of a model has a default value that leaves its line without a line feed. -/
def endsOpen : Descriptor → Bool
  | .model m => m.properties.getLast?.any fun p => Yaml.leavesOpen p.defaultValue
  | .controller _ => false

theorem openEnded_treeIn (spell : Key → String) (d : Descriptor) :
    Yaml.openEnded (d.treeIn spell) = d.endsOpen := by
  cases d with
  | model m =>
    rw [endsOpen, treeIn, ModelDescriptor.treeIn, Yaml.openEnded, Yaml.openEndedEntries,
      Yaml.openEndedEntries, Yaml.openEnded, Yaml.openEndedItems_eq_any, List.getLast?_map]
    cases m.properties.getLast? <;> rfl
  | controller c =>
    have hmethod (m : MethodDescriptor) : Yaml.openEnded (m.treeIn spell) = false := by
      rw [MethodDescriptor.treeIn]
      simp only [Yaml.openEnded, Yaml.openEndedEntries, Yaml.openEndedItems_eq_any,
        List.getLast?_map]
      cases m.parameters.getLast? <;> rfl
    rw [endsOpen, treeIn, ControllerDescriptor.treeIn]
    simp only [Yaml.openEnded, Yaml.openEndedEntries, Yaml.openEndedItems_eq_any,
      List.getLast?_map]
    cases c.methods.getLast? with
    | none => rfl
    | some m => exact hmethod m

theorem exists_yaml_eq (d : Descriptor) :
    ∃ e es, d.yaml = Yaml.tableAt 0 (e :: es) ∧ Yaml.openEndedEntries (e :: es) = d.endsOpen := by
  obtain ⟨e, es, htree⟩ := exists_treeIn_eq Key.camel d
  refine ⟨e, es, ?_, ?_⟩
  · rw [yaml, Structured.toYaml, d.toTree_eq,
      d.recase_treeIn Key.camel_plain Key.apart_camel, htree, Yaml.render, String.toList_ofList]
  · rw [← openEnded_treeIn Key.camel d, htree, Yaml.openEnded]

theorem not_rule_of_mem_yaml {brk : Char → Bool} (hbrk : ∀ c, brk c = true → Yaml.isBreak c = true)
    {d : Descriptor} {l : List Char} (hl : l ∈ cutAfter brk d.yaml) : isLine "---" l = false := by
  obtain ⟨e, es, hyaml, _⟩ := d.exists_yaml_eq
  rw [hyaml] at hl
  exact Yaml.Place.not_isLine_of_after? hbrk (Yaml.after?_tableAt 0 (e :: es)) hl

theorem isBreak_of_getLast?_yaml {d : Descriptor} {c : Char} (h : d.yaml.getLast? = some c) :
    Yaml.isBreak c = true := by
  obtain ⟨e, es, hyaml, _⟩ := d.exists_yaml_eq
  rw [hyaml] at h
  exact Yaml.Place.isBreak_of_after?_eq_lineStart (Yaml.after?_tableAt 0 (e :: es)) h

theorem getLast?_yaml_iff (d : Descriptor) :
    d.yaml.getLast? = some '\n' ↔ d.endsOpen = false := by
  obtain ⟨e, es, hyaml, hopen⟩ := d.exists_yaml_eq
  rw [hyaml, ← hopen]
  exact Yaml.getLast?_tableAt 0 (e :: es) (by simp)

theorem exists_getLast?_yaml (d : Descriptor) : ∃ c, d.yaml.getLast? = some c := by
  obtain ⟨e, es, hyaml, _⟩ := d.exists_yaml_eq
  have hne : d.yaml ≠ [] := hyaml ▸ Yaml.tableAt_ne_nil 0 e es
  exact ⟨_, List.getLast?_eq_some_getLast hne⟩

end Descriptor

namespace Structured

open Descriptor

theorem toList_toJsonBatch (ds : List Descriptor) :
    (toJsonBatch (ds.map toTree)).toList = ['\n'].intercalate (ds.map json) := by
  rw [toJsonBatch, String.toList_intercalate, List.map_map, List.map_map]
  rfl

theorem toList_toYamlBatch (ds : List Descriptor) :
    (toYamlBatch (ds.map toTree)).toList =
      ("---".toList ++ ['\n']).intercalate (ds.map yaml) := by
  rw [toYamlBatch, String.toList_intercalate, List.map_map, List.map_map]
  rfl

theorem endedBy_toJsonBatch (ds : List Descriptor) :
    EndedBy "\x7d" (toJsonBatch (ds.map toTree)).toList (ds.map json) := by
  rw [toList_toJsonBatch]
  refine endedBy_intercalate (by decide) (by decide) fun part hpart => ?_
  obtain ⟨d, _, rfl⟩ := List.mem_map.mp hpart
  obtain ⟨e, es, htree⟩ := exists_treeIn_eq Key.pascal d
  obtain ⟨n, htextual⟩ := d.exists_textual_treeIn Key.apart_pascal
  rw [htree] at htextual
  rw [json, toJson_toTree, htree]
  exact Json.lines_pretty_object htextual.plain

/-- The documents of a YAML batch come apart at the rules of hyphens just when each but the last
ends with a break. -/
theorem partedBy_toYamlBatch_iff {brk : Char → Bool} (hfeed : brk '\n' = true)
    (hbrk : ∀ c, brk c = true → Yaml.isBreak c = true) {ds : List Descriptor} (hne : ds ≠ []) :
    PartedBy brk "---" (toYamlBatch (ds.map toTree)).toList (ds.map yaml) ↔
      ∀ d ∈ ds.dropLast, ∀ c ∈ d.yaml.getLast?, brk c = true := by
  constructor
  · intro h d hd c hc
    refine h.getLast? ?_ hc
    rw [← List.map_dropLast]
    exact List.mem_map_of_mem hd
  · intro h
    rw [toList_toYamlBatch]
    refine partedBy_intercalate hfeed ?_ (by simpa using hne) ?_ ?_
    · intro c hc
      rw [List.eq_of_mem_replicate (n := 3) hc, Bool.eq_false_iff]
      exact fun hhyphen => absurd (hbrk '-' hhyphen) (by decide)
    · intro part hpart l hl
      obtain ⟨d, _, rfl⟩ := List.mem_map.mp hpart
      exact not_rule_of_mem_yaml hbrk hl
    · intro part hpart
      rw [← List.map_dropLast] at hpart
      obtain ⟨d, hd, rfl⟩ := List.mem_map.mp hpart
      exact h d hd

theorem partedBy_lineFeeds_iff {ds : List Descriptor} (hne : ds ≠ []) :
    PartedBy (· == '\n') "---" (toYamlBatch (ds.map toTree)).toList (ds.map yaml) ↔
      ∀ d ∈ ds.dropLast, d.endsOpen = false := by
  have hbrk : ∀ c : Char, (c == '\n') = true → Yaml.isBreak c = true := by
    intro c hc
    rw [beq_iff_eq.mp hc]
    decide
  rw [partedBy_toYamlBatch_iff (by decide) hbrk hne]
  refine forall₂_congr fun d _ => ?_
  obtain ⟨c, hc⟩ := d.exists_getLast?_yaml
  rw [← getLast?_yaml_iff, hc]
  simp

/-- A JSON batch falls into its documents behind the lines that are a closing brace. A YAML batch
falls into its documents at the lines of three hyphens, if the breaks of YAML end lines; if only
line feeds do, then just when no document but the last has a default value at its end that is
written as a block and ends with another break. -/
theorem batches_fall_apart (d : Descriptor) (ds : List Descriptor) :
    EndedBy "\x7d" (toJsonBatch ((d :: ds).map toTree)).toList ((d :: ds).map json) ∧
    PartedBy Yaml.isBreak "---" (toYamlBatch ((d :: ds).map toTree)).toList
      ((d :: ds).map yaml) ∧
    (PartedBy (· == '\n') "---" (toYamlBatch ((d :: ds).map toTree)).toList
      ((d :: ds).map yaml) ↔ ∀ x ∈ (d :: ds).dropLast, x.endsOpen = false) ∧
    toJsonBatch [] = "" ∧ toYamlBatch [] = "" := by
  have hne : d :: ds ≠ [] := List.cons_ne_nil d ds
  refine ⟨endedBy_toJsonBatch (d :: ds), ?_, partedBy_lineFeeds_iff hne, rfl, rfl⟩
  rw [partedBy_toYamlBatch_iff (by decide) (fun _ => id) hne]
  exact fun x _ c hc => isBreak_of_getLast?_yaml hc

/-- Two models, the first of which ends with a line separator. -/
def separatorLast : List Descriptor :=
  [.model ⟨"A", [⟨"p", "T", "-", "-", "a\nb\u2028"⟩]⟩, .model ⟨"B", []⟩]

theorem separatorLast_not_parted :
    ¬ PartedBy (· == '\n') "---" (toYamlBatch (separatorLast.map toTree)).toList
      (separatorLast.map yaml) := by
  rw [partedBy_lineFeeds_iff (by decide)]
  decide

end Structured

end TypeDocs
