import SitePresets.Store.Change
import SitePresets.Table

/-!
# The store in memory

A store that keeps everything in tables. A value that is written as missing stays as a row.
-/

namespace SitePresets

structure Memory where
  values : Table Key (Option String)
  plugins : Table Plugin Int
  visibility : Table String Bool
  log : List Change
  deriving Repr

namespace Memory

def ofLists (values : List (Key × Option String)) (plugins : List (Plugin × Int)) : Memory :=
  { values := .ofList values, plugins := .ofList plugins, visibility := .empty, log := [] }

def get (store : Memory) (key : Key) : Option String :=
  (store.values.get? key).join

def set (store : Memory) (key : Key) (value : Option String) : Change × Memory :=
  let change := { id := store.log.length + 1, key, old := store.get key, new := value }
  (change, { store with values := store.values.put key value, log := store.log ++ [change] })

/-- The log is numbered from one. -/
def change? (store : Memory) (id : Int) : Option Change :=
  if 0 < id then store.log[id.toNat - 1]? else none

def truncateLog (store : Memory) (keep : Int) : Memory :=
  { store with log := store.log.take keep.toNat }

theorem get_set (store : Memory) (key other : Key) (value : Option String) :
    (store.set key value).2.get other = if other = key then value else store.get other := by
  by_cases h : other = key <;> simp [get, set, Table.get?_put, h]

@[simp]
theorem log_set (store : Memory) (key : Key) (value : Option String) :
    (store.set key value).2.log = store.log ++ [(store.set key value).1] := rfl

end Memory

end SitePresets
