import SitePresets.Proofs.Outcome
import SitePresets.Store.Basic

/-!
# What a write does to a store

The two stores behind one description: a write changes the value of its own key and of no other, and
adds one change to the end of the log. Nothing that was in the log is lost, and the number of the new
change was not in use.
-/

namespace SitePresets

namespace Numbering

theorem next_append_next (used : List Nat) : next (used ++ [next used]) = next used + 1 := by
  have hmax : max (used.foldl max 0) (next used) = next used :=
    Nat.max_eq_right (Nat.le_succ _)
  rw [next, List.foldl_append, List.foldl_cons, List.foldl_nil, hmax]

end Numbering

namespace Store

/-- The changes of the log in order, each as far as it can be read. -/
def changes : Store → List (Except Refusal Change)
  | memory m => m.log.map .ok
  | rows r => r.log.map Rows.readRow

/-- The number of the next change. -/
def nextChangeId : Store → Nat
  | memory m => m.log.length + 1
  | rows r => r.nextId

/-- Whether the store has room for a number. -/
def holds : Store → Int → Bool
  | memory _, _ => true
  | rows _, z => fitsColumn z

theorem holds_of_fits {z : Int} (h : fitsColumn z) (store : Store) : store.holds z := by
  cases store with
  | memory memory => rfl
  | rows rows => exact h

/-- Whether the store can say who made a change. -/
def accepts (store : Store) (user : Option Int) : Bool :=
  user.all store.holds

/-- What can be read from a store can still be read later on. -/
def StaysReadable (store after : Store) : Prop :=
  ∀ key, (∃ stored, store.get key = .ok stored) → ∃ stored, after.get key = .ok stored

/-- What a successful write of a value makes of a store. -/
structure Wrote (store : Store) (key : Key) (value : Option String) (change : Change)
    (after : Store) : Prop where
  old_eq : store.get key = .ok change.old
  id_eq : change.id = store.nextChangeId
  key_eq : change.key = key
  new_eq : change.new = value
  get_eq : ∀ other, after.get other = if other = key then .ok value else store.get other
  changes_eq : after.changes = store.changes ++ [.ok change]
  nextChangeId_eq : after.nextChangeId = store.nextChangeId + 1
  change_of_lt : ∀ id < store.nextChangeId, after.change? id = store.change? id
  change_self : store.holds change.id → after.change? change.id = .ok (some change)
  pluginTable_eq : after.pluginTable = store.pluginTable
  pluginsOf_eq : ∀ type, after.pluginsOf type = store.pluginsOf type
  holds_eq : after.holds = store.holds

section Rows

variable {rows after : Rows} {key : Key} {value : Option String} {user : Option Int}
  {change : Change}

theorem get_writeValue (rows : Rows) (key other : Key) (value : Option String) (user : Option Int) :
    Stored.decode? other.name (((rows.writeValue key value user).get? other).map ValueRow.stored) =
      if other = key then .ok value else rows.get other := by
  cases value with
  | none =>
    rw [Rows.writeValue, Table.get?_erase]
    split <;> rfl
  | some text =>
    rw [Rows.writeValue, Table.get?_put]
    split
    · rename_i h
      subst h
      show Except.map some ((Stored.encode other.name text).decode other.name) = _
      rw [Stored.decode_encode]
      rfl
    · rfl

theorem change_congr {a b : Rows} {id : Int}
    (h : (a.log.find? fun row => row.id = id) = b.log.find? fun row => row.id = id) :
    a.change? id = b.change? id := by
  unfold Rows.change?
  rw [h]

theorem change_of_find_eq_some {id : Int} {row : LogRow} (hfits : fitsColumn id = true)
    (h : (rows.log.find? fun row => row.id = id) = some row) :
    rows.change? id = (Rows.readRow row).map some := by
  unfold Rows.change?
  rw [if_pos hfits, h]

/-- The numbers of the log are below the next one. -/
theorem lt_nextId {row : LogRow} (h : row ∈ rows.log) : row.id < rows.nextId :=
  Numbering.lt_next (List.mem_map_of_mem h)

theorem wrote_rows (h : rows.set key value user = .ok (change, after)) :
    Wrote (.rows rows) key value change (.rows after) := by
  obtain ⟨old, hold, h⟩ := bind_eq_ok.1 h
  split at h
  case isFalse => cases h
  obtain ⟨rfl, rfl⟩ := Prod.mk.inj (Except.ok.inj h)
  have hnew : Stored.decode? key.name (value.map (Stored.encode key.name)) = .ok value := by
    cases value with
    | none => rfl
    | some text =>
      show Except.map some ((Stored.encode key.name text).decode key.name) = _
      rw [Stored.decode_encode]
      rfl
  have hread (changedBy : Option Int) : Rows.readRow {
      id := rows.nextId, key, old := rows.stored? key
      new := value.map (Stored.encode key.name), changedBy } =
        .ok { id := rows.nextId, key, old, new := value } := by
    rw [Rows.get] at hold
    simp [Rows.readRow, hold, hnew]
  exact {
    old_eq := hold
    id_eq := rfl
    key_eq := rfl
    new_eq := rfl
    get_eq := fun other => get_writeValue rows key other value user
    changes_eq := by simp [changes, hread]
    nextChangeId_eq := by
      simp [nextChangeId, Rows.nextId, Numbering.next_append_next]
    change_of_lt := by
      intro id hid
      have hne : (rows.nextId : Int) ≠ id := by
        have hlt : id < rows.nextId := hid
        omega
      refine change_congr ?_
      rw [List.find?_append, List.find?_cons_of_neg, List.find?_nil, Option.or_none]
      exact fun h => hne (of_decide_eq_true h)
    change_self := by
      intro hfits
      have hfresh : rows.log.find? (fun row => (row.id : Int) = rows.nextId) = none := by
        refine List.find?_eq_none.2 fun row hrow => ?_
        have hlt := lt_nextId hrow
        simp only [decide_eq_true_eq]
        omega
      refine (change_of_find_eq_some hfits ?_).trans (congrArg (Except.map some) (hread user))
      rw [List.find?_append, hfresh, Option.none_or]
      exact List.find?_cons_of_pos (decide_eq_true rfl)
    pluginTable_eq := rfl
    pluginsOf_eq := fun _ => rfl
    holds_eq := rfl }

end Rows

section Memory

theorem wrote_memory (memory : Memory) (key : Key) (value : Option String) :
    Wrote (.memory memory) key value (memory.set key value).1 (.memory (memory.set key value).2) where
  old_eq := rfl
  id_eq := rfl
  key_eq := rfl
  new_eq := rfl
  get_eq other := by
    show Except.ok _ = _
    rw [Memory.get_set]
    split <;> rfl
  changes_eq := by simp [changes]
  nextChangeId_eq := by simp [nextChangeId]
  change_of_lt id hid := by
    have hid : id < memory.log.length + 1 := hid
    show Except.ok (Memory.change? _ _) = Except.ok (Memory.change? _ _)
    unfold Memory.change?
    rw [Memory.log_set]
    split
    · rw [List.getElem?_append_left]
      omega
    · rfl
  change_self _ := by
    show Except.ok (Memory.change? _ _) = _
    have hid : (memory.set key value).1.id = memory.log.length + 1 := rfl
    unfold Memory.change?
    rw [Memory.log_set, hid]
    simp
  pluginTable_eq := rfl
  pluginsOf_eq _ := rfl
  holds_eq := rfl

end Memory

variable {store after : Store} {key : Key} {value : Option String} {user : Option Int}
  {change : Change}

/-- Every write that succeeds is one. -/
theorem wrote_of_set (h : store.set key value user = .ok (change, after)) :
    Wrote store key value change after := by
  cases store with
  | memory memory =>
    obtain ⟨rfl, rfl⟩ := Prod.mk.inj (Except.ok.inj h)
    exact wrote_memory memory key value
  | rows rows =>
    obtain ⟨⟨_, rows'⟩, hset, h⟩ := bind_eq_ok.1 h
    obtain ⟨rfl, rfl⟩ := Prod.mk.inj (Except.ok.inj h)
    exact wrote_rows hset

theorem accepts_of_set (h : store.set key value user = .ok (change, after)) :
    store.accepts user = true := by
  cases store with
  | memory memory => cases user <;> rfl
  | rows rows =>
    obtain ⟨⟨_, rows'⟩, hset, -⟩ := bind_eq_ok.1 h
    obtain ⟨old, -, hset⟩ := bind_eq_ok.1 hset
    split at hset
    · rename_i huser
      exact huser
    · cases hset

/-- A write succeeds if the old value can be read and the store can say who made it. -/
theorem exists_set {old : Option String} (hold : store.get key = .ok old)
    (huser : store.accepts user = true) (value : Option String) :
    ∃ change after, store.set key value user = .ok (change, after) := by
  cases store with
  | memory memory => exact ⟨_, _, rfl⟩
  | rows rows =>
    have hold : rows.get key = .ok old := hold
    have huser : user.all fitsColumn = true := huser
    obtain ⟨⟨change, rows'⟩, hset⟩ : ∃ result, rows.set key value user = .ok result := by
      simp [Rows.set, hold, huser]
    refine ⟨change, .rows rows', ?_⟩
    show (rows.set key value user >>= _) = _
    rw [hset]
    rfl

/-! ### Visibility

Showing or hiding a component touches nothing else. -/

section Visible

variable (store : Store) (component : String) (visible : Bool)

@[simp]
theorem get_setVisible (key : Key) : (store.setVisible component visible).get key = store.get key := by
  cases store <;> rfl

@[simp]
theorem changes_setVisible : (store.setVisible component visible).changes = store.changes := by
  cases store <;> rfl

@[simp]
theorem nextChangeId_setVisible :
    (store.setVisible component visible).nextChangeId = store.nextChangeId := by
  cases store <;> rfl

@[simp]
theorem change_setVisible (id : Int) :
    (store.setVisible component visible).change? id = store.change? id := by
  cases store <;> rfl

@[simp]
theorem pluginTable_setVisible :
    (store.setVisible component visible).pluginTable = store.pluginTable := by
  cases store <;> rfl

@[simp]
theorem pluginsOf_setVisible (type : String) :
    (store.setVisible component visible).pluginsOf type = store.pluginsOf type := by
  cases store <;> rfl

@[simp]
theorem holds_setVisible : (store.setVisible component visible).holds = store.holds := by
  cases store <;> rfl

end Visible

theorem Wrote.setVisible (h : Wrote store key value change after) (component : String)
    (visible : Bool) : Wrote store key value change (after.setVisible component visible) where
  old_eq := h.old_eq
  id_eq := h.id_eq
  key_eq := h.key_eq
  new_eq := h.new_eq
  get_eq other := by rw [get_setVisible, h.get_eq]
  changes_eq := by rw [changes_setVisible, h.changes_eq]
  nextChangeId_eq := by rw [nextChangeId_setVisible, h.nextChangeId_eq]
  change_of_lt id hid := by rw [change_setVisible, h.change_of_lt id hid]
  change_self hfits := by rw [change_setVisible, h.change_self hfits]
  pluginTable_eq := by rw [pluginTable_setVisible, h.pluginTable_eq]
  pluginsOf_eq type := by rw [pluginsOf_setVisible, h.pluginsOf_eq]
  holds_eq := by rw [holds_setVisible, h.holds_eq]

end Store

end SitePresets
