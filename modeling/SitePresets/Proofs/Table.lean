import Mathlib.Data.List.Nodup
import SitePresets.Table

/-!
# Rows of tables

A table has each key in one row. Two tables with the same values have the same rows in some order.
-/

namespace SitePresets

namespace Table

variable {κ ν : Type} [DecidableEq κ] {table other : Table κ ν} {key : κ} {value : ν}

theorem mem_of_find?_eq_some {rows : List (κ × ν)}
    (h : find? key rows = some value) : (key, value) ∈ rows := by
  induction rows with
  | nil => cases h
  | cons row rest ih =>
    rw [find?] at h
    split at h
    · rename_i hkey
      rw [← hkey, ← Option.some.inj h]
      exact List.mem_cons_self
    · exact List.mem_cons_of_mem _ (ih h)

theorem find?_isSome_iff {rows : List (κ × ν)} :
    (find? key rows).isSome ↔ key ∈ rows.map Prod.fst := by
  induction rows with
  | nil => simp [find?]
  | cons row rest ih =>
    rw [find?, List.map_cons, List.mem_cons]
    by_cases hkey : row.1 = key
    · simp [hkey]
    · rw [if_neg hkey, ih, or_iff_right (Ne.symm hkey)]

theorem keys_write (key : κ) (value : ν) (rows : List (κ × ν)) :
    (write key value rows).map Prod.fst =
      if key ∈ rows.map Prod.fst then rows.map Prod.fst else rows.map Prod.fst ++ [key] := by
  induction rows with
  | nil => rfl
  | cons row rest ih =>
    obtain ⟨k, v⟩ := row
    by_cases hk : k = key
    · subst hk
      simp [write]
    · rw [write, if_neg hk, List.map_cons, ih]
      by_cases hkey : key ∈ rest.map Prod.fst
      · simp [hkey]
      · simp [hkey, Ne.symm hk]

theorem mem_of_mem_write {key : κ} {value : ν} {row : κ × ν} {rows : List (κ × ν)}
    (h : row ∈ write key value rows) : row = (key, value) ∨ row ∈ rows := by
  induction rows with
  | nil => exact .inl (List.mem_singleton.1 h)
  | cons first rest ih =>
    obtain ⟨k, v⟩ := first
    rw [write] at h
    split at h
    · rename_i hkey
      subst hkey
      exact (List.mem_cons.1 h).imp_right (List.mem_cons_of_mem _)
    · rcases List.mem_cons.1 h with rfl | h
      · exact .inr List.mem_cons_self
      · exact (ih h).imp_right (List.mem_cons_of_mem _)

theorem nodup_keys_put (h : table.keys.Nodup) (key : κ) (value : ν) :
    (table.put key value).keys.Nodup := by
  unfold keys put
  rw [keys_write]
  split
  · exact h
  · rename_i hkey
    exact List.nodup_append.2 ⟨h, List.nodup_singleton key, fun k hk other hother => by
      rw [List.mem_singleton.1 hother]
      rintro rfl
      exact hkey hk⟩

theorem nodup_keys_foldl_put (pairs : List (κ × ν)) (h : table.keys.Nodup) :
    (pairs.foldl (fun table pair => table.put pair.1 pair.2) table).keys.Nodup := by
  induction pairs generalizing table with
  | nil => exact h
  | cons pair rest ih => exact ih (nodup_keys_put h pair.1 pair.2)

theorem nodup_keys_ofList (pairs : List (κ × ν)) : (ofList pairs).keys.Nodup :=
  nodup_keys_foldl_put pairs List.nodup_nil

theorem mem_rows_iff (h : table.keys.Nodup) :
    (key, value) ∈ table.rows ↔ table.get? key = some value := by
  obtain ⟨rows⟩ := table
  show _ ↔ find? key rows = some value
  induction rows with
  | nil => simp [find?]
  | cons row rest ih =>
    obtain ⟨k, v⟩ := row
    obtain ⟨hk, hrest⟩ := List.nodup_cons.1 h
    rw [List.mem_cons, find?, ih hrest]
    by_cases hkey : k = key
    · subst hkey
      have hnone : find? k rest ≠ some value := by
        intro hfound
        have hmem : (k, value) ∈ rest := (ih hrest).2 hfound
        exact hk (List.mem_map.2 ⟨(k, value), hmem, rfl⟩)
      simp [hnone, eq_comm]
    · simp [hkey, Ne.symm hkey]

theorem find?_eq_some_iff {rows : List (κ × ν)} (h : (rows.map Prod.fst).Nodup) :
    find? key rows = some value ↔ (key, value) ∈ rows := by
  have hrows : (⟨rows⟩ : Table κ ν).keys.Nodup := h
  exact (mem_rows_iff hrows).symm

theorem find?_reverse {rows : List (κ × ν)} (h : (rows.map Prod.fst).Nodup) :
    find? key rows.reverse = find? key rows := by
  have hrows : (⟨rows⟩ : Table κ ν).keys.Nodup := h
  have hreverse : (⟨rows.reverse⟩ : Table κ ν).keys.Nodup := by
    unfold keys
    rw [List.map_reverse]
    exact List.nodup_reverse.2 h
  refine Option.ext fun value => ?_
  exact (mem_rows_iff hreverse).symm.trans (List.mem_reverse.trans (mem_rows_iff hrows))

/-- Other names for the keys, one for each. -/
theorem find?_map {κ' ν' : Type} [DecidableEq κ'] {f : κ → κ'} (g : ν → ν')
    (hinj : ∀ k, f k = f key → k = key) (rows : List (κ × ν)) :
    find? (f key) (rows.map fun row => (f row.1, g row.2)) = (find? key rows).map g := by
  induction rows with
  | nil => rfl
  | cons row rest ih =>
    rw [List.map_cons, find?, find?]
    by_cases hkey : row.1 = key
    · rw [if_pos hkey, if_pos (congrArg f hkey)]
      rfl
    · rw [if_neg hkey, if_neg fun heq => hkey (hinj _ heq)]
      exact ih

theorem write_map {ν' : Type} (g : ν → ν') (key : κ) (value : ν) (rows : List (κ × ν)) :
    write key (g value) (rows.map fun row => (row.1, g row.2)) =
      (write key value rows).map fun row => (row.1, g row.2) := by
  induction rows with
  | nil => rfl
  | cons row rest ih =>
    rw [List.map_cons, write, write]
    by_cases hkey : row.1 = key
    · rw [if_pos hkey, if_pos hkey]
      rfl
    · rw [if_neg hkey, if_neg hkey, ih]
      rfl

theorem write_of_not_mem {rows : List (κ × ν)} (h : key ∉ rows.map Prod.fst) :
    write key value rows = rows ++ [(key, value)] := by
  induction rows with
  | nil => rfl
  | cons row rest ih =>
    have hrow : row.1 ≠ key := fun heq => h (heq ▸ List.mem_cons_self)
    have hrest : key ∉ rest.map Prod.fst := fun hmem => h (List.mem_cons_of_mem _ hmem)
    rw [write, if_neg hrow, ih hrest, List.cons_append]

/-- Pairs with a key each are the rows of their table. -/
theorem rows_ofList {pairs : List (κ × ν)} (h : (pairs.map Prod.fst).Nodup) :
    (ofList pairs).rows = pairs := by
  have hput (before : List (κ × ν)) (hnodup : ((before ++ pairs).map Prod.fst).Nodup) :
      (pairs.foldl (fun table pair => table.put pair.1 pair.2) (⟨before⟩ : Table κ ν)).rows =
        before ++ pairs := by
    clear h
    induction pairs generalizing before with
    | nil => simp
    | cons pair rest ih =>
      have hkey : pair.1 ∉ before.map Prod.fst := by
        rw [List.map_append, List.nodup_append] at hnodup
        intro hmem
        exact hnodup.2.2 pair.1 hmem pair.1 List.mem_cons_self rfl
      have hrest := ih (before ++ [pair]) (by simpa using hnodup)
      rw [List.foldl_cons, put, write_of_not_mem hkey, hrest, List.append_assoc,
        List.singleton_append]
  exact hput [] h

/-- Two tables with the same rows, each key in one row. -/
structure Alike (table other : Table κ ν) : Prop where
  nodup : table.keys.Nodup
  nodup_other : other.keys.Nodup
  get_eq : ∀ key, other.get? key = table.get? key

namespace Alike

theorem put (h : table.Alike other) (key : κ) (value : ν) :
    (table.put key value).Alike (other.put key value) where
  nodup := nodup_keys_put h.nodup key value
  nodup_other := nodup_keys_put h.nodup_other key value
  get_eq k := by rw [get?_put, get?_put, h.get_eq]

theorem perm (h : table.Alike other) : other.rows.Perm table.rows := by
  refine (List.perm_ext_iff_of_nodup h.nodup_other.of_map h.nodup.of_map).2 fun (key, value) => ?_
  rw [mem_rows_iff h.nodup_other, mem_rows_iff h.nodup, h.get_eq]

end Alike

end Table

end SitePresets
