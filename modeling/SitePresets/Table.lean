/-!
# Tables

Tables: one value for each key, in the order in which the keys came first. Writing a known key keeps
its place.
-/

namespace SitePresets

/-- A table, as its rows in order. -/
structure Table (κ ν : Type) where
  rows : List (κ × ν)
  deriving DecidableEq, Repr

namespace Table

variable {κ ν : Type} [DecidableEq κ]

def empty : Table κ ν := ⟨[]⟩

instance : Inhabited (Table κ ν) := ⟨empty⟩

/-- The value of the first row with a key. -/
def find? (key : κ) : List (κ × ν) → Option ν
  | [] => none
  | (k, v) :: rest => if k = key then some v else find? key rest

def write (key : κ) (value : ν) : List (κ × ν) → List (κ × ν)
  | [] => [(key, value)]
  | (k, v) :: rest => if k = key then (k, value) :: rest else (k, v) :: write key value rest

def get? (table : Table κ ν) (key : κ) : Option ν :=
  find? key table.rows

def contains (table : Table κ ν) (key : κ) : Bool :=
  (table.get? key).isSome

def put (table : Table κ ν) (key : κ) (value : ν) : Table κ ν :=
  ⟨write key value table.rows⟩

def erase (table : Table κ ν) (key : κ) : Table κ ν :=
  ⟨table.rows.filter fun row => row.1 ≠ key⟩

def keys (table : Table κ ν) : List κ :=
  table.rows.map Prod.fst

/-- The table that comes of writing the pairs one after another. -/
def ofList (pairs : List (κ × ν)) : Table κ ν :=
  pairs.foldl (fun table (key, value) => table.put key value) empty

theorem find?_write (key other : κ) (value : ν) (rows : List (κ × ν)) :
    find? other (write key value rows) = if other = key then some value else find? other rows := by
  induction rows with
  | nil =>
    by_cases h : other = key
    · simp [write, find?, h]
    · simp [write, find?, h, Ne.symm h]
  | cons row rest ih =>
    obtain ⟨k, v⟩ := row
    by_cases hk : k = key
    · subst hk
      by_cases h : other = k
      · simp [write, find?, h]
      · simp [write, find?, h, Ne.symm h]
    · by_cases h : k = other
      · subst h
        simp [write, find?, hk]
      · simp [write, find?, hk, h, ih]

theorem find?_filter (key other : κ) (rows : List (κ × ν)) :
    find? other (rows.filter fun row => row.1 ≠ key) =
      if other = key then none else find? other rows := by
  induction rows with
  | nil => simp [find?]
  | cons row rest ih =>
    obtain ⟨k, v⟩ := row
    by_cases hk : k = key
    · subst hk
      by_cases h : other = k
      · simpa [h] using ih
      · simpa [find?, h, Ne.symm h] using ih
    · by_cases h : k = other
      · subst h
        simp [find?, hk]
      · simp [find?, hk, h, ← ih]

@[simp]
theorem get?_empty (key : κ) : (empty : Table κ ν).get? key = none := rfl

theorem get?_put (table : Table κ ν) (key other : κ) (value : ν) :
    (table.put key value).get? other = if other = key then some value else table.get? other :=
  find?_write key other value table.rows

theorem get?_erase (table : Table κ ν) (key other : κ) :
    (table.erase key).get? other = if other = key then none else table.get? other :=
  find?_filter key other table.rows

@[simp]
theorem get?_put_self (table : Table κ ν) (key : κ) (value : ν) :
    (table.put key value).get? key = some value := by
  simp [get?_put]

theorem get?_put_of_ne (table : Table κ ν) {key other : κ} (value : ν) (h : other ≠ key) :
    (table.put key value).get? other = table.get? other := by
  simp [get?_put, h]

end Table

end SitePresets
