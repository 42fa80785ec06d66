import Mathlib.Data.List.Basic
import TypeDocs.Export
import TypeDocs.Proofs.Outcome

/-!
# Exports by serializers that may refuse

The text of a tree is the work of a serializer, and a serializer may refuse a tree. Then the export
it is part of fails with what the serializer says, and the first tree that is refused decides. The
serializers of the exports refuse nothing, so that those are a case of this. A batch is what its
single exports are, joined with the separator of the format, and fails where the first of them
fails.
-/

namespace TypeDocs

/-- What writes trees as texts, or refuses them. -/
structure Serializers (ε : Type) where
  json : Json → Except ε String
  yaml : Json → Except ε String

namespace Serializers

/-- The serializers of the exports. -/
def standard : Serializers Empty where
  json tree := .ok (Json.pretty tree)
  yaml tree := .ok (Yaml.render tree)

variable {ε : Type} (w : Serializers ε)

def toJson (tree : Json) : Except ε String := w.json (Json.recase .pascal tree)

def toYaml (tree : Json) : Except ε String := w.yaml (Json.recase .camel tree)

/-- A document in the format. -/
def render (f : Format) (d : Document) : Except ε String :=
  match f with
  | .markdown => .ok (d.text .markdown)
  | .csv => .ok (d.text .csv)
  | .json => w.toJson d.tree
  | .yaml => w.toYaml d.tree

/-- The texts of all, joined, unless one is refused. -/
def joined {α : Type} (sep : String) (write : α → Except ε String) (xs : List α) :
    Except ε String := do
  return sep.intercalate (← xs.mapM write)

theorem joined_eq {α : Type} (sep : String) (write : α → Except ε String) (xs : List α) :
    joined sep write xs = (xs.mapM write).map sep.intercalate := by
  unfold joined
  cases xs.mapM write <;> rfl

theorem joined_ok {α : Type} (sep : String) (text : α → String) (xs : List α) :
    joined sep (fun x => (.ok (text x) : Except ε String)) xs =
      .ok (sep.intercalate (xs.map text)) := by
  have hwritten : xs.mapM (fun x => (.ok (text x) : Except ε String)) = .ok (xs.map text) :=
    List.mapM_pure
  rw [joined_eq, hwritten]
  rfl

/-- Documents in the format, one after the other. -/
def renderBatch (f : Format) (ds : List Document) : Except ε String :=
  match f with
  | .markdown => .ok (TextFormat.batch (ds.map (·.text .markdown)))
  | .csv => .ok (TextFormat.batch (ds.map (·.text .csv)))
  | .json => joined Structured.jsonSeparator w.toJson (ds.map (·.tree))
  | .yaml => joined Structured.yamlSeparator w.toYaml (ds.map (·.tree))

variable (s : Subject) (fs : FileSystem) (xml : Option String) (f : Format)

def exportOne (type : TypeDescription) : Except ε String :=
  w.render f (s.document (Documentation.fromOption fs xml) type)

/-- The documents of all types, in order. -/
def exportAll (types : List TypeDescription) : Except ε String :=
  w.renderBatch f (types.map (s.document (Documentation.fromOption fs xml)))

theorem render_standard (d : Document) : standard.render f d = .ok (f.render d) := by
  cases f <;> rfl

theorem renderBatch_standard (ds : List Document) :
    standard.renderBatch f ds = .ok (f.renderBatch ds) := by
  cases f with
  | markdown => rfl
  | csv => rfl
  | json => exact joined_ok Structured.jsonSeparator Structured.toJson _
  | yaml => exact joined_ok Structured.yamlSeparator Structured.toYaml _

theorem exportOne_standard (type : TypeDescription) :
    standard.exportOne s fs xml f type = .ok (s.exportOne fs xml f type) :=
  render_standard f _

theorem exportAll_standard (types : List TypeDescription) :
    standard.exportAll s fs xml f types = .ok (s.exportAll fs xml f types) :=
  renderBatch_standard f _

/-- A batch fails where the first of its documents fails. -/
theorem renderBatch_eq_join (ds : List Document) :
    w.renderBatch f ds = (ds.mapM (w.render f)).map f.separator.intercalate := by
  rw [← joined_eq]
  cases f with
  | markdown => exact (joined_ok _ (·.text .markdown) ds).symm
  | csv => exact (joined_ok _ (·.text .csv) ds).symm
  | json =>
    rw [renderBatch, joined_eq, joined_eq, List.mapM_map]
    rfl
  | yaml =>
    rw [renderBatch, joined_eq, joined_eq, List.mapM_map]
    rfl

theorem exportAll_eq_join (types : List TypeDescription) :
    w.exportAll s fs xml f types =
      (types.mapM (w.exportOne s fs xml f)).map f.separator.intercalate := by
  rw [exportAll, renderBatch_eq_join, List.mapM_map]
  rfl

end Serializers

/-- A list is written as its members are written, with a separator between neighbours: nothing when
it is empty, and a list of two parts as the first, the separator and the second. The first member
that cannot be written decides what is said instead. -/
structure Joins {ε α : Type} (sep : String) (one : α → Except ε String)
    (all : List α → Except ε String) : Prop where
  singles : ∀ xs, all xs = (xs.mapM one).map sep.intercalate
  parts : ∀ x xs y ys, all (x :: xs ++ y :: ys) = do
    let first ← all (x :: xs)
    let second ← all (y :: ys)
    return first ++ sep ++ second
  empty : all [] = .ok ""

section Joins

variable {ε α : Type} {sep : String} {one : α → Except ε String} {all : List α → Except ε String}

theorem ne_nil_of_mapM_cons {β : Type} {f : α → Except ε β} {x : α} {xs : List α} {ys : List β}
    (h : (x :: xs).mapM f = .ok ys) : ys ≠ [] := by
  rw [List.mapM_cons] at h
  obtain ⟨y, -, hrest⟩ := exists_of_bind_eq_ok h
  obtain ⟨ys', -, hys⟩ := exists_of_bind_eq_ok hrest
  cases hys
  exact List.cons_ne_nil y ys'

/-- What is the join of single texts for every list falls into parts wherever it is cut. -/
theorem Joins.of_singles (h : ∀ xs, all xs = (xs.mapM one).map sep.intercalate) :
    Joins sep one all where
  singles := h
  parts x xs y ys := by
    rw [h, h, h, List.mapM_append]
    cases hfirst : (x :: xs).mapM one with
    | error e => rfl
    | ok first =>
      cases hsecond : (y :: ys).mapM one with
      | error e => rfl
      | ok second =>
        exact congrArg Except.ok (String.intercalate_append_of_ne_nil
          (ne_nil_of_mapM_cons hfirst) (ne_nil_of_mapM_cons hsecond))
  empty := h []

end Joins

/-- A batch export is the single exports of its types, joined with a blank line in Markdown and
CSV, a line feed in JSON and a line of hyphens in YAML, whatever the serializers refuse and whatever
the file of the documentation is. -/
theorem exports_join (s : Subject) (fs : FileSystem) (xml : Option String) (f : Format) :
    (f.separator = match f with
      | .markdown | .csv => "\n\n"
      | .json => "\n"
      | .yaml => "---\n") ∧
    (∀ (ε : Type) (w : Serializers ε),
      Joins f.separator (w.exportOne s fs xml f) (w.exportAll s fs xml f)) ∧
    Joins f.separator (fun type => (.ok (s.exportOne fs xml f type) : Except Empty String))
      (fun types => .ok (s.exportAll fs xml f types)) := by
  have hjoins (ε : Type) (w : Serializers ε) :
      Joins f.separator (w.exportOne s fs xml f) (w.exportAll s fs xml f) :=
    .of_singles (w.exportAll_eq_join s fs xml f)
  refine ⟨by cases f <;> rfl, hjoins, ?_⟩
  have hstandard := hjoins Empty .standard
  rwa [funext (Serializers.exportOne_standard s fs xml f),
    funext (Serializers.exportAll_standard s fs xml f)] at hstandard

end TypeDocs
