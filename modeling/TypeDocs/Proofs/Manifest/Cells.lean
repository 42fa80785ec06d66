import TypeDocs.Proofs.Manifest.Declared
import TypeDocs.Proofs.Manifest.Defaults

/-!
# Default cells

What a property declares can be told from the cell that shows it: whether it declares anything, of
which kind that is, and which text or flag. Main statement: `default_cells`, for every model that
has a sample and whose properties have names of their own.
-/

namespace TypeDocs

/-- What a value is, whatever it holds. -/
inductive Json.Kind where
  | null
  | flag
  | number
  | text
  | array
  | object
  deriving DecidableEq, Repr

def Json.kind : Json → Kind
  | .null => .null
  | .flag _ => .flag
  | .number _ => .number
  | .text _ => .text
  | .array _ => .array
  | .object _ => .object

namespace Manifest

open Json (Kind)

section Shown

variable {d : Option Json}

/-- The kind of the declared value that a cell shows. -/
def kindShown : List Char → Option Kind
  | ['-'] => none
  | 'n' :: _ => some .null
  | 't' :: _ | 'f' :: _ => some .flag
  | '"' :: _ => some .text
  | '[' :: _ => some .array
  | '\x7b' :: _ => some .object
  | _ => some .number

theorem kindShown_of_startsDigit {negative : Bool} {body : List Char}
    (h : Json.startsDigit body = true) :
    kindShown (if negative then '-' :: body else body) = some .number := by
  cases body with
  | nil => cases h
  | cons c cs =>
    have hne (x : Char) (hx : x.isDigit = false) (tail : List Char) : c :: cs ≠ x :: tail := by
      intro heq
      rw [← (List.cons.inj heq).1] at hx
      exact absurd (show c.isDigit = true from h) (by rw [hx]; decide)
    cases negative with
    | true => rfl
    | false =>
      rw [if_neg Bool.false_ne_true, kindShown]
      exacts [hne '-' (by decide) [], hne 'n' (by decide), hne 't' (by decide),
        hne 'f' (by decide), hne '"' (by decide), hne '[' (by decide), hne '\x7b' (by decide)]

/-- Numbers, lists and tables are shown in JSON notation. -/
theorem shown_compact {j : Json} (h : j.kind = .number ∨ j.kind = .array ∨ j.kind = .object) :
    shown (some j) = j.compact := by
  have hsolid (hblank : Text.isBlankText j.compact = false) :
      (SampleValue.other j.compact).render = j.compact := if_neg (by rw [hblank]; decide)
  cases j with
  | null | flag b | text s => simp [Json.kind] at h
  | number n =>
    have hsome : ∃ c, c ∈ n.toText.toList := by
      rcases n.toText_eq with htext | ⟨negative, body, hbody, htext⟩
      · exact ⟨'n', by rw [htext]; decide⟩
      · cases body with
        | nil => cases hbody
        | cons c cs =>
          refine ⟨c, ?_⟩
          rw [htext, String.toList_ofList]
          cases negative <;> simp
    obtain ⟨c, hc⟩ := hsome
    exact hsolid (Text.isBlankText_eq_false_iff.mpr ⟨c, hc, n.isBlank_of_mem_toText hc⟩)
  | array items =>
    exact hsolid (Text.isBlankText_eq_false_iff.mpr ⟨'[', by simp [Json.compact], by decide⟩)
  | object entries =>
    exact hsolid (Text.isBlankText_eq_false_iff.mpr ⟨'\x7b', by simp [Json.compact], by decide⟩)

theorem kindShown_quoted (s : String) : kindShown ("\"" ++ s ++ "\"").toList = some .text := by
  rw [String.append_assoc, String.toList_append]
  rfl

theorem kindShown_flag (b : Bool) :
    kindShown (if b then "true" else "false").toList = some .flag := by
  cases b <;> decide

theorem kindShown_shown (h : ∀ j ∈ d, j.Finite) :
    kindShown (shown d).toList = d.map Json.kind := by
  cases d with
  | none => rfl
  | some j =>
    cases j with
    | null => decide
    | flag b => exact kindShown_flag b
    | text s => exact kindShown_quoted s
    | number n =>
      obtain ⟨negative, body, hbody, htext⟩ := Number.toText_of_finite (h _ rfl)
      rw [shown_compact (.inl rfl), Json.compact, htext, String.toList_ofList,
        kindShown_of_startsDigit hbody]
      rfl
    | array items =>
      rw [shown_compact (.inr (.inl rfl)), Json.compact, String.append_assoc, String.toList_append]
      rfl
    | object entries =>
      rw [shown_compact (.inr (.inr rfl)), Json.compact, String.append_assoc, String.toList_append]
      rfl

/-- What a declared value and the cell that shows it tell of each other. -/
structure Shows (d : Option Json) (cell : String) : Prop where
  missing : cell = Text.missing ↔ d = none
  null : cell = "null" ↔ d = some .null
  flag : ∀ b, cell = (if b then "true" else "false") ↔ d = some (.flag b)
  text : ∀ s, cell = "\"" ++ s ++ "\"" ↔ d = some (.text s)
  compact : ∀ j ∈ d, j.kind = .number ∨ j.kind = .array ∨ j.kind = .object → cell = j.compact

theorem eq_of_quoted_eq {s t : String} (h : "\"" ++ s ++ "\"" = "\"" ++ t ++ "\"") : s = t := by
  have hl := congrArg String.toList h
  simp only [String.toList_append] at hl
  exact String.toList_inj.mp (List.append_cancel_left (List.append_cancel_right hl))

theorem eq_of_word_eq :
    ∀ b c : Bool, (if b then "true" else "false") = (if c then "true" else "false") → b = c := by
  decide

theorem exists_of_kindShown {k : Kind} (h : ∀ j ∈ d, j.Finite)
    (hk : kindShown (shown d).toList = some k) : ∃ j, d = some j ∧ j.kind = k := by
  rw [kindShown_shown h] at hk
  exact Option.map_eq_some_iff.mp hk

theorem Shows.of_finite (h : ∀ j ∈ d, j.Finite) : Shows d (shown d) where
  missing := by
    refine ⟨fun hcell => ?_, fun hd => by rw [hd, shown]⟩
    have hnone := kindShown_shown h
    rw [hcell] at hnone
    exact Option.map_eq_none_iff.mp hnone.symm
  null := by
    refine ⟨fun hcell => ?_, fun hd => by rw [hd]; rfl⟩
    obtain ⟨j, rfl, hj⟩ := exists_of_kindShown (k := .null) h (by rw [hcell]; decide)
    cases j <;> cases hj
    rfl
  flag b := by
    refine ⟨fun hcell => ?_, fun hd => by rw [hd]; rfl⟩
    obtain ⟨j, rfl, hj⟩ := exists_of_kindShown h (by rw [hcell]; exact kindShown_flag b)
    cases j <;> cases hj
    rw [eq_of_word_eq _ _ hcell]
  text s := by
    refine ⟨fun hcell => ?_, fun hd => by rw [hd]; rfl⟩
    obtain ⟨j, rfl, hj⟩ := exists_of_kindShown h (by rw [hcell]; exact kindShown_quoted s)
    cases j <;> cases hj
    rw [eq_of_quoted_eq hcell]
  compact := by
    rintro j rfl hcompound
    exact shown_compact hcompound

end Shown

section Rows

variable {e : ModelEntry} {p : PropertyEntry}

theorem mem_properties_of_mem_visible (hp : p ∈ e.visible) : p ∈ e.properties :=
  (List.mem_filter.mp hp).1

theorem lastDefault?_eq_default (hnames : (e.properties.map PropertyEntry.name).Nodup)
    (hp : p ∈ e.properties) (hdefault : p.default.isSome) :
    lastDefault? e.properties p.name = p.default := by
  refine lastDefault?_of_nodup (hnames.sublist ?_) hp hdefault
  exact List.filter_sublist.map PropertyEntry.name

/-- On the sample of a model a getter finds what its property declares. -/
theorem exists_of_getter (hsample : e.constructible = true)
    (hnames : (e.properties.map PropertyEntry.name).Nodup) (hp : p ∈ e.properties) {get : Getter}
    (hget : p.describe.getter = some get) :
    ∃ i j, e.describe.sample = some (.ok i) ∧ p.default = some j ∧
      get i = .ok (SampleValue.ofJson j) := by
  obtain ⟨j, hj, rfl⟩ := Option.map_eq_some_iff.mp hget
  refine ⟨⟨sampleType, distinct (declared e.properties)⟩, j, if_pos hsample, hj, ?_⟩
  have hlast := lastDefault?_eq_default hnames hp (hj ▸ rfl)
  simp only [Getter.field, beq_self_eq_true, if_true, lookup_declared, hlast, hj, Option.map_some]

/-- The row of a property shows what the property itself declares. -/
theorem defaultValue_eq_shown (hsample : e.constructible = true)
    (hnames : (e.properties.map PropertyEntry.name).Nodup) (hp : p ∈ e.properties) :
    e.describe.defaultValue p.describe = shown p.default := by
  cases hdefault : p.default with
  | none => rw [defaultValue_of_undeclared e hdefault, shown]
  | some j =>
    rw [e.defaultValue_describe, ModelEntry.sharedDefault, if_pos (by rw [hsample, hdefault]; rfl),
      lastDefault?_eq_default hnames hp (by rw [hdefault]; rfl), hdefault]

/-- Every row of a model that has a sample and no two properties of one name shows what its
property declares, and the cell tells whether that is nothing, null, which flag or which text, and
else it is the number, list or table in JSON notation. So different texts, and values of different
kinds, never share a cell. No getter fails. A property declares what is read from the place of its
default in the text, null included, and nothing if nothing stands there; and no text declares a
number that would show as null. -/
theorem default_cells (e : ModelEntry) (docs : Documentation) (hsample : e.constructible = true)
    (hnames : (e.properties.map PropertyEntry.name).Nodup)
    (hfinite : ∀ p ∈ e.visible, ∀ j ∈ p.default, j.Finite) :
    let cell (p : PropertyEntry) := e.describe.defaultValue p.describe
    (e.describe.describeModel docs).properties.map PropertyDescriptor.defaultValue =
      e.visible.map cell ∧
    (∀ p ∈ e.visible, Shows p.default (cell p)) ∧
    (∀ p ∈ e.visible, ∀ q ∈ e.visible, cell p = cell q →
      p.default.map Json.kind = q.default.map Json.kind ∧
      ∀ s, p.default = some (.text s) → q.default = some (.text s)) ∧
    (∀ p ∈ e.visible, ∀ get ∈ p.describe.getter, ∃ i v, e.describe.sample = some (.ok i) ∧
      get i = .ok v ∧ v.render = cell p) ∧
    (∀ d ∈ [Json.dialect, Yaml.dialect], ∀ o p, propertyRecord.read d o = .ok p →
      (writtenDefault o).mapM Outline.asJson = .ok p.default) ∧
    ∀ s m, ofJson s = .ok m ∨ ofYaml s = .ok m → FiniteDefaults m := by
  intro cell
  have hshown (p : PropertyEntry) (hp : p ∈ e.visible) : cell p = shown p.default :=
    defaultValue_eq_shown hsample hnames (mem_properties_of_mem_visible hp)
  have hcell (p : PropertyEntry) (hp : p ∈ e.visible) : Shows p.default (cell p) :=
    hshown p hp ▸ .of_finite (hfinite p hp)
  refine ⟨?_, hcell, ?_, ?_, ?_, ?_⟩
  · rw [properties_describeModel, List.map_map]
    rfl
  · intro p hp q hq heq
    constructor
    · rw [← kindShown_shown (hfinite p hp), ← kindShown_shown (hfinite q hq), ← hshown p hp,
        ← hshown q hq, heq]
    · intro s hs
      rw [← (hcell q hq).text, ← heq]
      exact ((hcell p hp).text s).mpr hs
  · intro p hp get hget
    obtain ⟨i, j, hi, hj, hread⟩ :=
      exists_of_getter hsample hnames (mem_properties_of_mem_visible hp) hget
    refine ⟨i, .ofJson j, hi, hread, ?_⟩
    rw [hshown p hp, hj, shown]
  · intro d hd o p hread
    have hkeys : d.numberedFields = false := by
      simp only [List.mem_cons, List.not_mem_nil, or_false] at hd
      rcases hd with rfl | rfl <;> rfl
    exact default_of_read hkeys hread
  · rintro s m (hread | hread)
    · exact finiteDefaults_ofJson hread
    · exact finiteDefaults_ofYaml hread

/-- A model whose properties declare nothing, and much that looks like it. -/
def lookAlikes : ModelEntry where
  name := "A"
  fullName := none
  constructible := true
  attributes := []
  properties :=
    [none, some .null, some (.text ""), some (.text "-"), some (.text "null"),
      some (.text "\"null\""), some (.flag true), some (.text "true"),
      some (.number (.whole (-1))), some (.number (.float (.finite true 1 0))), some (.array []),
      some (.text "[]")].mapIdx fun i d => ⟨toString i, "T", [], d, true, false⟩

/-- A property that declares null. -/
def nullDeclared : Outline :=
  .ofJson (.object [("name", .text "p"), ("type", .text "T"), ("default", .null)])

theorem default_cells_lookAlikes :
    (lookAlikes.constructible = true ∧ (lookAlikes.properties.map PropertyEntry.name).Nodup ∧
      ∀ p ∈ lookAlikes.visible, ∀ j ∈ p.default, j.Finite) ∧
    (lookAlikes.describe.describeModel .empty).properties.map PropertyDescriptor.defaultValue =
      ["-", "null", "\"\"", "\"-\"", "\"null\"", "\"\"null\"\"", "true", "\"true\"", "-1", "-1.0",
        "[]", "\"[]\""] ∧
    propertyRecord.read Json.dialect nullDeclared = .ok ⟨"p", "T", [], some .null, true, false⟩ ∧
    (writtenDefault nullDeclared).mapM Outline.asJson = .ok (some .null) := by
  have hnames : (lookAlikes.properties.map PropertyEntry.name).Nodup := by decide +kernel
  have hfinite : ∀ p ∈ lookAlikes.visible, ∀ j ∈ p.default, j.Finite := by decide +kernel
  have hread : propertyRecord.read Json.dialect nullDeclared =
      .ok ⟨"p", "T", [], some .null, true, false⟩ := rfl
  obtain ⟨hcells, -, -, -, hwritten, -⟩ := default_cells lookAlikes .empty rfl hnames hfinite
  refine ⟨⟨rfl, hnames, hfinite⟩, hcells.trans ?_, hread, ?_⟩
  · decide +kernel
  · exact hwritten Json.dialect List.mem_cons_self nullDeclared _ hread

end Rows

end Manifest

end TypeDocs
