import Mathlib.Data.List.Induction
import TypeDocs.Json.Basic

/-!
# Keys that occur once

`distinct` keeps the entries of a list exactly when no two of them have one key. A value whose
objects all have distinct keys is one that merging their entries leaves alone.
-/

namespace TypeDocs

section Entries

variable {α : Type}

theorem put_of_not_mem {entries : List (String × α)} {key : String} (value : α)
    (h : key ∉ entries.map Prod.fst) : put entries key value = entries ++ [(key, value)] := by
  induction entries with
  | nil => rfl
  | cons e es ih =>
    rw [List.map_cons, List.mem_cons, not_or] at h
    have hne : (e.1 == key) = false := beq_eq_false_iff_ne.mpr fun he => h.1 he.symm
    rw [put, hne, ih h.2]
    rfl

theorem map_fst_put_of_mem {entries : List (String × α)} {key : String} (value : α)
    (h : key ∈ entries.map Prod.fst) :
    (put entries key value).map Prod.fst = entries.map Prod.fst := by
  induction entries with
  | nil => simp at h
  | cons e es ih =>
    by_cases he : e.1 = key
    · simp [put, he]
    · have htail : key ∈ es.map Prod.fst := by
        rcases List.mem_cons.mp h with hk | hk
        · exact absurd hk.symm he
        · exact hk
      simp [put, he, ih htail]

theorem nodup_put {entries : List (String × α)} (h : (entries.map Prod.fst).Nodup)
    (key : String) (value : α) : ((put entries key value).map Prod.fst).Nodup := by
  by_cases hk : key ∈ entries.map Prod.fst
  · rwa [map_fst_put_of_mem value hk]
  · rw [put_of_not_mem value hk, List.map_append, List.nodup_append]
    refine ⟨h, by simp, ?_⟩
    rintro a ha b hb rfl
    simp only [List.map_cons, List.map_nil, List.mem_singleton] at hb
    exact hk (hb ▸ ha)

theorem distinct_eq_foldl (entries : List (String × α)) :
    distinct entries = entries.foldl (fun es e => put es e.1 e.2) [] := rfl

theorem nodup_distinct (entries : List (String × α)) :
    ((distinct entries).map Prod.fst).Nodup := by
  suffices h : ∀ acc : List (String × α), (acc.map Prod.fst).Nodup →
      ((entries.foldl (fun es e => put es e.1 e.2) acc).map Prod.fst).Nodup from
    h [] List.nodup_nil
  induction entries with
  | nil => exact fun acc hacc => hacc
  | cons e es ih => exact fun acc hacc => ih _ (nodup_put hacc e.1 e.2)

theorem distinct_of_nodup {entries : List (String × α)}
    (h : (entries.map Prod.fst).Nodup) : distinct entries = entries := by
  suffices hacc : ∀ acc : List (String × α), ((acc ++ entries).map Prod.fst).Nodup →
      entries.foldl (fun es e => put es e.1 e.2) acc = acc ++ entries by
    exact hacc [] h
  clear h
  induction entries with
  | nil => simp
  | cons e es ih =>
    intro acc hacc
    have hne : e.1 ∉ acc.map Prod.fst := by
      rw [List.map_append, List.nodup_append] at hacc
      exact fun he => hacc.2.2 e.1 he e.1 (by simp) rfl
    have happ : acc ++ e :: es = (acc ++ [e]) ++ es := by simp
    have hput : put acc e.1 e.2 = acc ++ [e] := put_of_not_mem e.2 hne
    rw [List.foldl_cons, hput, ih _ (happ ▸ hacc), ← happ]

/-- Of several entries with one key the last counts. -/
theorem lookup_distinct (entries : List (String × α)) (key : String) :
    (distinct entries).lookup key = entries.reverse.lookup key := by
  suffices h : ∀ acc : List (String × α),
      (entries.foldl (fun es e => put es e.1 e.2) acc).lookup key =
        (entries.reverse.lookup key).or (acc.lookup key) by
    rw [distinct_eq_foldl, h [], List.lookup_nil, Option.or_none]
  induction entries with
  | nil => exact fun acc => rfl
  | cons e es ih =>
    obtain ⟨k, v⟩ := e
    intro acc
    rw [List.foldl_cons, ih, lookup_put, List.reverse_cons, List.lookup_append,
      List.lookup_cons, List.lookup_nil]
    cases es.reverse.lookup key <;> cases key == k <;> rfl

theorem distinct_concat (entries : List (String × α)) (e : String × α) :
    distinct (entries ++ [e]) = put (distinct entries) e.1 e.2 := by
  rw [distinct_eq_foldl, List.foldl_append]
  rfl

/-- The keys are in the order in which they first appear. -/
theorem map_fst_distinct (entries : List (String × α)) :
    (distinct entries).map Prod.fst = (entries.map Prod.fst).eraseDups := by
  induction entries using List.reverseRecOn with
  | nil => rfl
  | append_singleton entries e ih =>
    rw [distinct_concat, List.map_append, List.map_singleton, List.eraseDups_append, ← ih]
    by_cases he : e.1 ∈ entries.map Prod.fst
    · have hmem : e.1 ∈ (distinct entries).map Prod.fst := by rwa [ih, List.mem_eraseDups]
      have hnone : [e.1].removeAll (entries.map Prod.fst) = [] := by
        rw [List.removeAll, List.filter_eq_nil_iff]
        simpa using he
      rw [map_fst_put_of_mem e.2 hmem, hnone, List.eraseDups_nil, List.append_nil]
    · have hnotMem : e.1 ∉ (distinct entries).map Prod.fst := by rwa [ih, List.mem_eraseDups]
      have hself : [e.1].removeAll (entries.map Prod.fst) = [e.1] := by
        rw [List.removeAll, List.filter_eq_self]
        simpa using he
      rw [put_of_not_mem e.2 hnotMem, hself, List.map_append]
      rfl

theorem lookup_eq_some_iff_mem {entries : List (String × α)} (h : (entries.map Prod.fst).Nodup)
    {key : String} {value : α} : entries.lookup key = some value ↔ (key, value) ∈ entries := by
  rw [List.lookup_eq_some_iff]
  constructor
  · rintro ⟨before, after, rfl, -⟩
    exact List.mem_append_right _ List.mem_cons_self
  · intro hmem
    obtain ⟨before, after, rfl⟩ := List.append_of_mem hmem
    rw [List.map_append, List.nodup_append] at h
    refine ⟨before, after, rfl, fun e he => ?_⟩
    rw [bne_iff_ne]
    exact fun hkey => h.2.2 e.1 (List.mem_map_of_mem he) key List.mem_cons_self hkey.symm

/-- What is kept is the last entry of each key. -/
theorem mem_distinct_iff {entries : List (String × α)} {key : String} {value : α} :
    (key, value) ∈ distinct entries ↔
      ∃ before after, entries = before ++ (key, value) :: after ∧ ∀ e ∈ after, e.1 ≠ key := by
  rw [← lookup_eq_some_iff_mem (nodup_distinct entries), lookup_distinct, List.lookup_eq_some_iff]
  constructor
  · rintro ⟨after, before, hsplit, hafter⟩
    refine ⟨before.reverse, after.reverse, ?_, fun e he => ?_⟩
    · rw [← entries.reverse_reverse, hsplit]
      simp
    · exact (bne_iff_ne.mp (hafter e (List.mem_reverse.mp he))).symm
  · rintro ⟨before, after, rfl, hafter⟩
    refine ⟨after.reverse, before.reverse, by simp, fun e he => ?_⟩
    exact bne_iff_ne.mpr (hafter e (List.mem_reverse.mp he)).symm

/-- Entries are told by their keys in order and the value under each. -/
theorem eq_of_map_fst_eq {entries others : List (String × α)}
    (hkeys : entries.map Prod.fst = others.map Prod.fst)
    (hvalues : ∀ key v w, (key, v) ∈ entries → (key, w) ∈ others → v = w) : entries = others := by
  induction entries generalizing others with
  | nil => exact (List.map_eq_nil_iff.mp hkeys.symm).symm
  | cons e entries ih =>
    cases others with
    | nil => simp at hkeys
    | cons o others =>
      obtain ⟨k, v⟩ := e
      obtain ⟨k', w⟩ := o
      rw [List.map_cons, List.map_cons] at hkeys
      obtain ⟨rfl, hrest⟩ := List.cons.inj hkeys
      have hhead : v = w := hvalues k v w List.mem_cons_self List.mem_cons_self
      have htail : entries = others := ih hrest fun key v w hv hw =>
        hvalues key v w (List.mem_cons_of_mem _ hv) (List.mem_cons_of_mem _ hw)
      rw [hhead, htail]

end Entries

namespace Json

/-- Every object in the value has each of its keys once. -/
inductive DistinctKeys : Json → Prop
  | null : DistinctKeys .null
  | flag (b : Bool) : DistinctKeys (.flag b)
  | number (n : Number) : DistinctKeys (.number n)
  | text (s : String) : DistinctKeys (.text s)
  | array {items : List Json} (h : ∀ x ∈ items, DistinctKeys x) : DistinctKeys (.array items)
  | object {entries : List (String × Json)} (hkeys : (entries.map Prod.fst).Nodup)
      (h : ∀ e ∈ entries, DistinctKeys e.2) : DistinctKeys (.object entries)

mutual

/-- The value with the entries of each object that have one key made one. -/
def merged : Json → Json
  | .array items => .array (mergedItems items)
  | .object entries => .object (distinct (mergedEntries entries))
  | j => j

def mergedItems : List Json → List Json
  | [] => []
  | x :: xs => merged x :: mergedItems xs

def mergedEntries : List (String × Json) → List (String × Json)
  | [] => []
  | (k, v) :: es => (k, merged v) :: mergedEntries es

end

theorem map_fst_mergedEntries (entries : List (String × Json)) :
    (mergedEntries entries).map Prod.fst = entries.map Prod.fst := by
  induction entries with
  | nil => rfl
  | cons e es ih => simp only [mergedEntries, List.map_cons, ih]

theorem nodup_of_distinct_mergedEntries {entries : List (String × Json)}
    (h : distinct (mergedEntries entries) = entries) : (entries.map Prod.fst).Nodup := by
  have hn := nodup_distinct (mergedEntries entries)
  rwa [h] at hn

mutual

theorem merged_eq_self_iff : ∀ j : Json, j.merged = j ↔ j.DistinctKeys
  | .null => iff_of_true rfl .null
  | .flag b => iff_of_true rfl (.flag b)
  | .number n => iff_of_true rfl (.number n)
  | .text s => iff_of_true rfl (.text s)
  | .array items => by
    rw [merged, array.injEq, mergedItems_eq_self_iff items]
    exact ⟨.array, fun | .array h => h⟩
  | .object entries => by
    rw [merged, object.injEq]
    constructor
    · intro h
      have hkeys := nodup_of_distinct_mergedEntries h
      rw [distinct_of_nodup (by rwa [map_fst_mergedEntries])] at h
      exact .object hkeys ((mergedEntries_eq_self_iff entries).mp h)
    · rintro (_ | _ | _ | _ | _ | ⟨hkeys, h⟩)
      rw [(mergedEntries_eq_self_iff entries).mpr h, distinct_of_nodup hkeys]

theorem mergedItems_eq_self_iff :
    ∀ items : List Json, mergedItems items = items ↔ ∀ x ∈ items, x.DistinctKeys
  | [] => by simp [mergedItems]
  | x :: xs => by
    rw [mergedItems, List.cons.injEq, merged_eq_self_iff x, mergedItems_eq_self_iff xs,
      List.forall_mem_cons]

theorem mergedEntries_eq_self_iff : ∀ entries : List (String × Json),
    mergedEntries entries = entries ↔ ∀ e ∈ entries, e.2.DistinctKeys
  | [] => by simp [mergedEntries]
  | (k, v) :: es => by
    rw [mergedEntries, List.cons.injEq, Prod.mk.injEq, merged_eq_self_iff v,
      mergedEntries_eq_self_iff es, List.forall_mem_cons]
    simp

end

end Json

end TypeDocs
