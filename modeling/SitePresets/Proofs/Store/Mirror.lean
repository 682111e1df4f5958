import SitePresets.Proofs.Store.History
import SitePresets.Proofs.Table

/-!
# Stores that mirror each other

A memory and a database keep different things: rows that say that a value is missing against no row,
texts against encrypted texts, plugins in the order in which they came against plugins by name. Two
stores mirror each other if their logs tell the same history, the same plugins are in the same states,
and the same components are visible.
-/

namespace SitePresets

namespace Store

variable {store other : Store} {changes : List Change} {type : String}

theorem visibility_of_set {after : Store} {key : Key} {value : Option String} {user : Option Int}
    {change : Change} (h : store.set key value user = .ok (change, after)) :
    after.visibility = store.visibility := by
  cases store with
  | memory memory =>
    obtain ⟨-, rfl⟩ := Prod.mk.inj (Except.ok.inj h)
    rfl
  | rows rows =>
    obtain ⟨⟨_, next⟩, hset, h⟩ := bind_eq_ok.1 h
    obtain ⟨-, rfl⟩ := Prod.mk.inj (Except.ok.inj h)
    obtain ⟨old, -, hset⟩ := bind_eq_ok.1 hset
    split at hset
    · obtain ⟨-, rfl⟩ := Prod.mk.inj (Except.ok.inj hset)
      rfl
    · cases hset

theorem isVisible_congr (h : other.visibility = store.visibility) (component : String) :
    other.isVisible component = store.isVisible component := by
  unfold isVisible
  rw [h]

@[simp]
theorem visibility_withPlugins (store : Store) (table : Table Plugin Int) :
    (store.withPlugins table).visibility = store.visibility := by
  cases store <;> rfl

/-- Two stores with the same history, the same plugins and the same visible components. -/
structure Mirrors (store other : Store) (changes : List Change) : Prop where
  records : store.Records changes
  records_other : other.Records changes
  plugins : store.pluginTable.Alike other.pluginTable
  isVisible_eq : ∀ component, other.isVisible component = store.isVisible component

namespace Mirrors

theorem get_eq (h : store.Mirrors other changes) (key : Key) : other.get key = store.get key := by
  rw [h.records.get_eq, h.records_other.get_eq]

theorem change_eq (h : store.Mirrors other changes) {id : Int} (hid : fitsColumn id) :
    other.change? id = store.change? id := by
  rw [h.records.change_eq (holds_of_fits hid store),
    h.records_other.change_eq (holds_of_fits hid other)]

theorem samePlugins (h : store.Mirrors other changes) : store.SamePlugins other :=
  .of_alike h.plugins

/-- Both stores write a value, log the same change, and mirror each other as before. -/
theorem exists_set (h : store.Mirrors other changes) {user : Option Int}
    (huser : user.all fitsColumn) (key : Key) (value : Option String) :
    ∃ change after next, store.set key value user = .ok (change, after) ∧
      other.set key value user = .ok (change, next) ∧
        after.Mirrors next (changes ++ [change]) := by
  have haccepts (store : Store) : store.accepts user = true := by
    unfold accepts
    cases user with
    | none => rfl
    | some z => exact holds_of_fits huser store
  obtain ⟨change, after, hset⟩ := Store.exists_set (h.records.get_eq key) (haccepts store) value
  obtain ⟨written, next, hwritten⟩ :=
    Store.exists_set (h.records_other.get_eq key) (haccepts other) value
  have hwrote := wrote_of_set hset
  have hother := wrote_of_set hwritten
  have heq : written = change := by
    have hid : written.id = change.id := by
      rw [hwrote.id_eq, hother.id_eq, h.records.nextChangeId_eq, h.records_other.nextChangeId_eq]
    have hold : written.old = change.old := by
      have hread := (hother.old_eq.symm.trans (h.get_eq key)).trans hwrote.old_eq
      exact Except.ok.inj hread
    have hkey := hother.key_eq.trans hwrote.key_eq.symm
    have hnew := hother.new_eq.trans hwrote.new_eq.symm
    cases written
    cases change
    simp only [Change.mk.injEq]
    exact ⟨hid, hkey, hold, hnew⟩
  subst heq
  refine ⟨written, after, next, hset, hwritten, {
    records := h.records.wrote hwrote
    records_other := h.records_other.wrote hother
    plugins := ?_
    isVisible_eq := fun component => ?_ }⟩
  · rw [hwrote.pluginTable_eq, hother.pluginTable_eq]
    exact h.plugins
  · rw [isVisible_congr (visibility_of_set hwritten), isVisible_congr (visibility_of_set hset)]
    exact h.isVisible_eq component

theorem withPlugins (h : store.Mirrors other changes) {table more : Table Plugin Int}
    (halike : table.Alike more) :
    (store.withPlugins table).Mirrors (other.withPlugins more) changes where
  records := h.records.sameValues (.of_withPlugins _ _)
  records_other := h.records_other.sameValues (.of_withPlugins _ _)
  plugins := by
    rw [pluginTable_withPlugins, pluginTable_withPlugins]
    exact halike
  isVisible_eq component := by
    rw [isVisible_congr (visibility_withPlugins other more),
      isVisible_congr (visibility_withPlugins store table)]
    exact h.isVisible_eq component

theorem setVisible (h : store.Mirrors other changes) (component : String) (visible : Bool) :
    (store.setVisible component visible).Mirrors (other.setVisible component visible) changes where
  records := h.records.sameValues (.of_setVisible _ _ _)
  records_other := h.records_other.sameValues (.of_setVisible _ _ _)
  plugins := by
    rw [pluginTable_setVisible, pluginTable_setVisible]
    exact h.plugins
  isVisible_eq shown := by rw [isVisible_setVisible, isVisible_setVisible, h.isVisible_eq]

/-- A memory and a database that are empty but for the same plugins. -/
theorem of_empty {plugins installed : List (Plugin × Int)}
    (h : ∀ plugin, (Table.ofList installed).get? plugin = (Table.ofList plugins).get? plugin) :
    (Store.memory (.ofLists [] plugins)).Mirrors
      (.rows { Rows.empty with plugins := .ofList installed }) [] where
  records := .of_blank rfl fun _ => rfl
  records_other := .of_empty rfl rfl
  plugins := ⟨Table.nodup_keys_ofList plugins, Table.nodup_keys_ofList installed, h⟩
  isVisible_eq _ := rfl

end Mirrors

end Store

end SitePresets
