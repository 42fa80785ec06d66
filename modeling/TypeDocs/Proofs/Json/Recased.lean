import Mathlib.Data.List.Forall2
import TypeDocs.Json.Recase
import TypeDocs.Proofs.Json.Keys
import TypeDocs.Proofs.Text.Naming

/-!
# Values with recased keys

`Recased` says of two values, at every depth, that the second is the first with its keys recased.
There is just one such value, the one that recasing gives. When the keys of each object stay apart
what stood at a path stands at the recased path, recased, and each object keeps all its entries.
-/

namespace TypeDocs.Json

open Text (Naming)

def isScalar : Json → Bool
  | .array _ | .object _ => false
  | _ => true

/-- The keys of a recased object are those of the object, recased, in the order in which they first
appear. Under each is the value of the last entry that is renamed to it. -/
inductive Recased (naming : Naming) : Json → Json → Prop where
  | scalar {j : Json} (h : j.isScalar = true) : Recased naming j j
  | array {items items' : List Json} (h : List.Forall₂ (Recased naming) items items') :
    Recased naming (.array items) (.array items')
  | object {entries entries' : List (String × Json)}
    (hkeys : entries'.map Prod.fst = (entries.map fun e => naming.apply e.1).eraseDups)
    (hvalues : ∀ before key v after, entries = before ++ (key, v) :: after →
      (∀ e ∈ after, naming.apply e.1 ≠ naming.apply key) →
      ∀ v', (naming.apply key, v') ∈ entries' → Recased naming v v') :
    Recased naming (.object entries) (.object entries')

variable {naming : Naming}

/-! ### The recased value -/

theorem map_fst_distinct_recaseEntries (entries : List (String × Json)) :
    (distinct (recaseEntries naming entries)).map Prod.fst =
      (entries.map fun e => naming.apply e.1).eraseDups := by
  rw [map_fst_distinct, recaseEntries_eq_map, List.map_map]
  rfl

/-- What a recased object has under a key is the recased value of the last entry renamed to it. -/
theorem mem_distinct_recaseEntries_iff {entries : List (String × Json)} {k : String} {v' : Json} :
    (k, v') ∈ distinct (recaseEntries naming entries) ↔
      ∃ before key v after, entries = before ++ (key, v) :: after ∧ naming.apply key = k ∧
        (∀ e ∈ after, naming.apply e.1 ≠ k) ∧ v.recase naming = v' := by
  rw [mem_distinct_iff, recaseEntries_eq_map]
  constructor
  · rintro ⟨before', after', hsplit, hafter⟩
    obtain ⟨before, rest, rfl, -, hrest⟩ := List.map_eq_append_iff.mp hsplit
    obtain ⟨⟨key, v⟩, after, rfl, he, rfl⟩ := List.map_eq_cons_iff.mp hrest
    obtain ⟨rfl, rfl⟩ := Prod.mk.inj he
    exact ⟨before, key, v, after, rfl, rfl, fun e he => hafter _ (List.mem_map_of_mem he), rfl⟩
  · rintro ⟨before, key, v, after, rfl, rfl, hafter, rfl⟩
    refine ⟨_, _, by rw [List.map_append, List.map_cons], fun e he => ?_⟩
    obtain ⟨e, hmem, rfl⟩ := List.mem_map.mp he
    exact hafter e hmem

mutual

theorem recased_recase : ∀ j : Json, Recased naming j (j.recase naming)
  | .null | .flag _ | .number _ | .text _ => .scalar rfl
  | .array items => .array (recased_recaseItems items)
  | .object entries => by
    refine .object (map_fst_distinct_recaseEntries entries) fun before key v after hsplit hafter v'
      hv' => ?_
    have hlast : (naming.apply key, v.recase naming) ∈ distinct (recaseEntries naming entries) :=
      mem_distinct_recaseEntries_iff.mpr ⟨before, key, v, after, hsplit, rfl, hafter, rfl⟩
    have hnodup := nodup_distinct (recaseEntries naming entries)
    rw [← lookup_eq_some_iff_mem hnodup] at hv' hlast
    obtain rfl : v.recase naming = v' := Option.some.inj (hlast.symm.trans hv')
    exact recased_recaseEntries entries (key, v)
      (hsplit ▸ List.mem_append_right _ List.mem_cons_self)

theorem recased_recaseItems :
    ∀ items : List Json, List.Forall₂ (Recased naming) items (recaseItems naming items)
  | [] => .nil
  | x :: xs => .cons (recased_recase x) (recased_recaseItems xs)

theorem recased_recaseEntries :
    ∀ entries : List (String × Json), ∀ e ∈ entries, Recased naming e.2 (e.2.recase naming)
  | [], _, he => absurd he List.not_mem_nil
  | (k, v) :: es, e, he => by
    rcases List.mem_cons.mp he with rfl | he
    · exact recased_recase v
    · exact recased_recaseEntries es e he

end

mutual

theorem eq_recase_of_recased : ∀ {j j' : Json}, Recased naming j j' → j' = j.recase naming
  | .null, _, .scalar _ | .flag _, _, .scalar _ | .number _, _, .scalar _
  | .text _, _, .scalar _ => rfl
  | .array items, _, .array h => congrArg Json.array (eq_recaseItems_of_recased h)
  | .object entries, _, .object hkeys hvalues => by
    rw [recase]
    refine congrArg Json.object (eq_of_map_fst_eq ?_ fun k v' w hv' hw => ?_)
    · rw [hkeys, map_fst_distinct_recaseEntries]
    · obtain ⟨before, key, v, after, hsplit, rfl, hafter, rfl⟩ :=
        mem_distinct_recaseEntries_iff.mp hw
      have hmem : (key, v) ∈ entries := hsplit ▸ List.mem_append_right _ List.mem_cons_self
      exact eq_recaseEntries_of_recased entries (key, v) hmem
        (hvalues before key v after hsplit hafter v' hv')

theorem eq_recaseItems_of_recased : ∀ {items items' : List Json},
    List.Forall₂ (Recased naming) items items' → items' = recaseItems naming items
  | [], _, .nil => rfl
  | _ :: _, _, .cons hx hxs => by
    rw [recaseItems, eq_recase_of_recased hx, eq_recaseItems_of_recased hxs]

theorem eq_recaseEntries_of_recased : ∀ entries : List (String × Json), ∀ e ∈ entries,
    ∀ {v' : Json}, Recased naming e.2 v' → v' = e.2.recase naming
  | [], _, he, _, _ => absurd he List.not_mem_nil
  | (k, v) :: es, e, he, v', h => by
    rcases List.mem_cons.mp he with rfl | he
    · exact eq_recase_of_recased h
    · exact eq_recaseEntries_of_recased es e he h

end

/-! ### Paths -/

/-- Where to go from a value: to what is under a key, or to an item. -/
inductive Step where
  | key (k : String)
  | item (i : Nat)

def Step.recase (naming : Naming) : Step → Step
  | .key k => .key (naming.apply k)
  | .item i => .item i

def step? : Json → Step → Option Json
  | j, .key k => j.get? k
  | .array items, .item i => items[i]?
  | _, .item _ => none

/-- The value at the end of a path. -/
def at? (j : Json) : List Step → Option Json
  | [] => some j
  | s :: path => (j.step? s).bind fun v => v.at? path

/-- In no object are two keys renamed to the same. -/
inductive KeysApart (naming : Naming) : Json → Prop where
  | scalar {j : Json} (h : j.isScalar = true) : KeysApart naming j
  | array {items : List Json} (h : ∀ x ∈ items, KeysApart naming x) :
    KeysApart naming (.array items)
  | object {entries : List (String × Json)}
    (hkeys : (entries.map fun e => naming.apply e.1).Nodup)
    (h : ∀ e ∈ entries, KeysApart naming e.2) : KeysApart naming (.object entries)

namespace KeysApart

variable {j v : Json} {s : Step} {entries : List (String × Json)}

theorem nodup_recaseEntries (h : KeysApart naming (.object entries)) :
    ((recaseEntries naming entries).map Prod.fst).Nodup := by
  rw [recaseEntries_eq_map, List.map_map]
  cases h with
  | scalar h => simp [isScalar] at h
  | object hkeys _ => exact hkeys

theorem recase_object (h : KeysApart naming (.object entries)) :
    (Json.object entries).recase naming =
      .object (entries.map fun e => (naming.apply e.1, e.2.recase naming)) := by
  rw [recase, distinct_of_nodup h.nodup_recaseEntries, recaseEntries_eq_map]

theorem of_step (h : KeysApart naming j) (hv : j.step? s = some v) :
    KeysApart naming v := by
  cases h with
  | scalar h => cases j <;> cases s <;> simp [isScalar, step?, get?] at h hv
  | array h =>
    cases s with
    | key k => simp [step?, get?] at hv
    | item i => exact h v (List.mem_of_getElem? hv)
  | object hkeys h =>
    cases s with
    | key k =>
      obtain ⟨before, after, rfl, -⟩ := List.lookup_eq_some_iff.mp hv
      exact h (k, v) (List.mem_append_right _ List.mem_cons_self)
    | item i => simp [step?] at hv

theorem step_recase (h : KeysApart naming j) (hv : j.step? s = some v) :
    (j.recase naming).step? (s.recase naming) = some (v.recase naming) := by
  cases s with
  | key k =>
    cases j with
    | object entries =>
      have hmem : (naming.apply k, v.recase naming) ∈ recaseEntries naming entries := by
        obtain ⟨before, after, rfl, -⟩ := List.lookup_eq_some_iff.mp hv
        rw [recaseEntries_eq_map, List.map_append]
        exact List.mem_append_right _ List.mem_cons_self
      rw [h.recase_object, ← recaseEntries_eq_map]
      exact (lookup_eq_some_iff_mem h.nodup_recaseEntries).mpr hmem
    | _ => simp [step?, get?] at hv
  | item i =>
    cases j with
    | array items =>
      change (recaseItems naming items)[i]? = some (v.recase naming)
      rw [recaseItems_eq_map, List.getElem?_map, show items[i]? = some v from hv]
      rfl
    | _ => simp [step?] at hv

theorem at_recase {path : List Step} (h : KeysApart naming j)
    (hv : j.at? path = some v) :
    (j.recase naming).at? (path.map (Step.recase naming)) = some (v.recase naming) ∧
      KeysApart naming v := by
  induction path generalizing j with
  | nil =>
    obtain rfl : j = v := Option.some.inj hv
    exact ⟨rfl, h⟩
  | cons s path ih =>
    obtain ⟨w, hw, hv⟩ := Option.bind_eq_some_iff.mp hv
    rw [List.map_cons, at?, h.step_recase hw]
    exact ih (h.of_step hw) hv

end KeysApart

/-- Recasing renames keys and changes nothing else, and it is the only function that does. No entry
is lost where the keys of each object stay apart, and every value is then found, recased, at its
recased path. -/
theorem recase_keys (naming : Naming) (j : Json) :
    (∀ j', Recased naming j j' ↔ j' = j.recase naming) ∧
    (KeysApart naming j → ∀ path v, j.at? path = some v →
      (j.recase naming).at? (path.map (Step.recase naming)) = some (v.recase naming) ∧
      ∀ entries, v = .object entries → v.recase naming =
        .object (entries.map fun e => (naming.apply e.1, e.2.recase naming))) := by
  refine ⟨fun j' => ⟨eq_recase_of_recased, ?_⟩, fun h path v hv => ?_⟩
  · rintro rfl
    exact recased_recase j
  · obtain ⟨hat, hapart⟩ := h.at_recase hv
    refine ⟨hat, ?_⟩
    rintro entries rfl
    exact hapart.recase_object

/-- A value with an object in a list. -/
def nested : Json :=
  .object [("http_verb", .text "get_all"), ("all_routes", .array [.object [("is_open", .null)]])]

theorem recase_nested :
    KeysApart .camel nested ∧
    nested.at? [.key "all_routes", .item 0] = some (.object [("is_open", .null)]) ∧
    (nested.recase .camel).at? [.key "allRoutes", .item 0] =
      some (.object [("isOpen", .null)]) := by
  have hverb : Naming.camel.apply "http_verb" = "httpVerb" := by
    rw [Naming.apply_of_lt _ (by decide)]
    decide +kernel
  have hroutes : Naming.camel.apply "all_routes" = "allRoutes" := by
    rw [Naming.apply_of_lt _ (by decide)]
    decide +kernel
  have hopen : Naming.camel.apply "is_open" = "isOpen" := by
    rw [Naming.apply_of_lt _ (by decide)]
    decide +kernel
  have hinner : KeysApart .camel (.object [("is_open", .null)]) :=
    .object (by simp) (by simpa using .scalar rfl)
  have hapart : KeysApart .camel nested := by
    refine .object (by simp [hverb, hroutes]) (List.forall_mem_cons.mpr ⟨.scalar rfl, ?_⟩)
    simpa using .array (by simpa using hinner)
  have hat : nested.at? [.key "all_routes", .item 0] = some (.object [("is_open", .null)]) := by
    simp [nested, at?, step?, get?, List.lookup_cons]
  obtain ⟨hfound, hentries⟩ := (recase_keys .camel nested).2 hapart _ _ hat
  rw [hentries _ rfl] at hfound
  simp only [List.map_cons, List.map_nil, Step.recase, hroutes, hopen] at hfound
  exact ⟨hapart, hat, hfound⟩

end TypeDocs.Json
