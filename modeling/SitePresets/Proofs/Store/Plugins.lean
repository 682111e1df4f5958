import SitePresets.Proofs.Outcome
import SitePresets.Proofs.Store.Write
import SitePresets.Proofs.Table
import SitePresets.Site

/-!
# Plugin states

The states of plugins live beside the values and the log: setting one touches neither.
-/

namespace SitePresets

namespace Store

/-! ### Another plugin table -/

section WithPlugins

variable (store : Store) (table : Table Plugin Int)

@[simp]
theorem get_withPlugins (key : Key) : (store.withPlugins table).get key = store.get key := by
  cases store <;> rfl

@[simp]
theorem changes_withPlugins : (store.withPlugins table).changes = store.changes := by
  cases store <;> rfl

@[simp]
theorem nextChangeId_withPlugins : (store.withPlugins table).nextChangeId = store.nextChangeId := by
  cases store <;> rfl

@[simp]
theorem change_withPlugins (id : Int) : (store.withPlugins table).change? id = store.change? id := by
  cases store <;> rfl

@[simp]
theorem holds_withPlugins : (store.withPlugins table).holds = store.holds := by
  cases store <;> rfl

@[simp]
theorem pluginTable_withPlugins : (store.withPlugins table).pluginTable = table := by
  cases store <;> rfl

end WithPlugins

/-- Two stores that differ at most in the states of plugins and in what is visible. -/
structure SameValues (store after : Store) : Prop where
  get_eq : ∀ key, after.get key = store.get key
  changes_eq : after.changes = store.changes
  nextChangeId_eq : after.nextChangeId = store.nextChangeId
  change_eq : ∀ id, after.change? id = store.change? id
  holds_eq : after.holds = store.holds

namespace SameValues

variable {store middle after : Store}

theorem refl (store : Store) : store.SameValues store :=
  ⟨fun _ => rfl, rfl, rfl, fun _ => rfl, rfl⟩

theorem trans (h : store.SameValues middle) (h' : middle.SameValues after) :
    store.SameValues after where
  get_eq key := (h'.get_eq key).trans (h.get_eq key)
  changes_eq := h'.changes_eq.trans h.changes_eq
  nextChangeId_eq := h'.nextChangeId_eq.trans h.nextChangeId_eq
  change_eq id := (h'.change_eq id).trans (h.change_eq id)
  holds_eq := h'.holds_eq.trans h.holds_eq

theorem of_withPlugins (store : Store) (table : Table Plugin Int) :
    store.SameValues (store.withPlugins table) :=
  ⟨get_withPlugins store table, changes_withPlugins store table, nextChangeId_withPlugins store table,
    change_withPlugins store table, holds_withPlugins store table⟩

theorem of_setVisible (store : Store) (component : String) (visible : Bool) :
    store.SameValues (store.setVisible component visible) :=
  ⟨get_setVisible store component visible, changes_setVisible store component visible,
    nextChangeId_setVisible store component visible, change_setVisible store component visible,
    holds_setVisible store component visible⟩

end SameValues

variable {store after : Store} {plugin : Plugin} {enabled old : Int}

/-- A plugin can be set if it is installed and the store has room for its state. -/
theorem setPlugin_eq_ok : store.setPlugin plugin enabled = .ok (old, after) ↔
    store.plugin? plugin = some old ∧ store.holds enabled ∧
      after = store.withPlugins (store.pluginTable.put plugin enabled) := by
  unfold setPlugin
  cases store.plugin? plugin with
  | none => simp
  | some current =>
    cases store with
    | memory memory => simp [holds, eq_comm]
    | rows rows =>
      by_cases hfits : fitsColumn enabled
      · simp [holds, hfits, eq_comm]
      · simp [holds, hfits]

/-! ### The same plugins -/

/-- The plugins of a type are the rows of the type, in some order. -/
theorem pluginsOf_perm (store : Store) (type : String) :
    (store.pluginsOf type).Perm ((store.pluginTable.rows.filter fun row => row.1.type = type).map
      fun row => (row.1.name, row.2)) := by
  cases store with
  | memory memory => exact .refl _
  | rows rows => exact List.mergeSort_perm _ _

theorem mem_handlersOf {type handler : String} : handler ∈ store.handlersOf type ↔
    ∃ row ∈ store.pluginTable.rows, row.1.type = type ∧ 0 < row.2 ∧ row.1.text = handler := by
  unfold handlersOf
  rw [List.mem_map]
  constructor
  · rintro ⟨plugin, hplugin, rfl⟩
    obtain ⟨hmem, henabled⟩ := List.mem_filter.1 hplugin
    obtain ⟨row, hfound, rfl⟩ := List.mem_map.1 ((store.pluginsOf_perm type).mem_iff.1 hmem)
    obtain ⟨hrow, htype⟩ := List.mem_filter.1 hfound
    have htype : row.1.type = type := of_decide_eq_true htype
    exact ⟨row, hrow, htype, of_decide_eq_true henabled, htype ▸ rfl⟩
  · rintro ⟨row, hrow, rfl, henabled, rfl⟩
    refine ⟨(row.1.name, row.2), List.mem_filter.2 ⟨?_, decide_eq_true henabled⟩, rfl⟩
    rw [(store.pluginsOf_perm row.1.type).mem_iff]
    exact List.mem_map.2 ⟨row, List.mem_filter.2 ⟨hrow, decide_eq_true rfl⟩, rfl⟩

/-- A scope becomes available only if its plugin comes to be in another state, in which it is enabled. -/
theorem plugin_of_available {scope : String} (hbefore : store.scopeAvailable scope = false)
    (hafter : after.scopeAvailable scope) :
    after.plugin? (Plugin.ofScope scope) ≠ store.plugin? (Plugin.ofScope scope) ∧
      ∀ enabled, after.plugin? (Plugin.ofScope scope) = some enabled → 0 < enabled := by
  unfold scopeAvailable at hbefore hafter
  by_cases hscope : scope = siteScope
  · rw [if_pos hscope] at hbefore
    cases hbefore
  rw [if_neg hscope] at hbefore hafter
  dsimp only at hbefore hafter
  by_cases htype : (Plugin.ofScope scope).type = ""
  · rw [if_pos htype] at hbefore
    cases hbefore
  rw [if_neg htype] at hbefore hafter
  constructor
  · intro hsame
    rw [hsame, hbefore] at hafter
    cases hafter
  · intro enabled henabled
    rw [henabled] at hafter
    exact of_decide_eq_true hafter

/-- Two stores that say the same about plugins, but for the order of those of a type. -/
structure SamePlugins (store after : Store) : Prop where
  plugin_eq : ∀ plugin, after.plugin? plugin = store.plugin? plugin
  pluginsOf_perm : ∀ type, (after.pluginsOf type).Perm (store.pluginsOf type)

namespace SamePlugins

theorem trans {middle : Store} (h : store.SamePlugins middle) (h' : middle.SamePlugins after) :
    store.SamePlugins after where
  plugin_eq plugin := (h'.plugin_eq plugin).trans (h.plugin_eq plugin)
  pluginsOf_perm type := (h'.pluginsOf_perm type).trans (h.pluginsOf_perm type)

theorem of_alike (h : store.pluginTable.Alike after.pluginTable) : store.SamePlugins after where
  plugin_eq := h.get_eq
  pluginsOf_perm type := by
    have hrows : (after.pluginTable.rows.filter fun row => row.1.type = type).Perm
        (store.pluginTable.rows.filter fun row => row.1.type = type) := h.perm.filter _
    exact (after.pluginsOf_perm type).trans ((hrows.map _).trans (store.pluginsOf_perm type).symm)

theorem scopeAvailable_eq (h : store.SamePlugins after) (scope : String) :
    after.scopeAvailable scope = store.scopeAvailable scope := by
  unfold scopeAvailable
  simp only [h.plugin_eq]

theorem handlersOf_perm (h : store.SamePlugins after) (type : String) :
    (after.handlersOf type).Perm (store.handlersOf type) :=
  ((h.pluginsOf_perm type).filter _).map _

end SamePlugins

end Store

namespace Site

/-- Two sites that differ at most in the states of plugins and in what is visible. -/
structure Switches (site after : Site) : Prop where
  values : site.store.SameValues after.store
  tree_eq : after.tree = site.tree
  chain_eq : after.chain = site.chain
  readOnly_eq : after.readOnly = site.readOnly
  pinned_eq : after.pinned = site.pinned

variable {site middle after : Site} {plugin : Plugin} {enabled old : Int}

theorem Switches.refl (site : Site) : site.Switches site :=
  ⟨.refl _, rfl, rfl, rfl, rfl⟩

theorem Switches.trans (h : site.Switches middle) (h' : middle.Switches after) :
    site.Switches after where
  values := h.values.trans h'.values
  tree_eq := h'.tree_eq.trans h.tree_eq
  chain_eq := h'.chain_eq.trans h.chain_eq
  readOnly_eq := h'.readOnly_eq.trans h.readOnly_eq
  pinned_eq := h'.pinned_eq.trans h.pinned_eq

theorem setPlugin_eq_ok : site.setPlugin plugin enabled = .ok (old, after) ↔
    plugin ∉ site.pinned ∧ site.store.plugin? plugin = some old ∧ site.store.holds enabled ∧
      after = { site with
        store := site.store.withPlugins (site.store.pluginTable.put plugin enabled) } := by
  unfold setPlugin
  by_cases hpinned : plugin ∈ site.pinned
  · simp [hpinned]
  · rw [if_neg hpinned, bind_eq_ok]
    constructor
    · rintro ⟨⟨current, store⟩, hset, h⟩
      obtain ⟨rfl, rfl⟩ := Prod.mk.inj (Except.ok.inj h)
      obtain ⟨hcurrent, hholds, rfl⟩ := Store.setPlugin_eq_ok.1 hset
      exact ⟨hpinned, hcurrent, hholds, rfl⟩
    · rintro ⟨-, hcurrent, hholds, rfl⟩
      exact ⟨_, Store.setPlugin_eq_ok.2 ⟨hcurrent, hholds, rfl⟩, rfl⟩

theorem switches_of_setPlugin (h : site.setPlugin plugin enabled = .ok (old, after)) :
    site.Switches after := by
  obtain ⟨-, -, -, rfl⟩ := setPlugin_eq_ok.1 h
  exact ⟨.of_withPlugins _ _, rfl, rfl, rfl, rfl⟩

/-- Setting a plugin changes its state and that of no other. -/
theorem plugin_of_setPlugin (h : site.setPlugin plugin enabled = .ok (old, after)) (other : Plugin) :
    after.store.plugin? other = if other = plugin then some enabled else site.store.plugin? other := by
  obtain ⟨-, -, -, rfl⟩ := setPlugin_eq_ok.1 h
  unfold Store.plugin?
  rw [Store.pluginTable_withPlugins, Table.get?_put]

/-- Why a site refuses to set a plugin to a state. -/
def pluginRefusal? (site : Site) (plugin : Plugin) (enabled : Int) : Option Refusal :=
  if plugin ∈ site.pinned then some .pinned
  else match site.store.plugin? plugin with
    | none => some (.notInstalled plugin)
    | some _ => if site.store.holds enabled then none else some .numberTooLarge

theorem setPlugin_eq_error {refusal : Refusal} :
    site.setPlugin plugin enabled = .error refusal ↔
      site.pluginRefusal? plugin enabled = some refusal := by
  unfold setPlugin pluginRefusal?
  by_cases hpinned : plugin ∈ site.pinned
  · simp [hpinned]
  · rw [if_neg hpinned, if_neg hpinned]
    unfold Store.setPlugin
    cases site.store.plugin? plugin with
    | none => simp
    | some current =>
      cases site.store with
      | memory memory => simp [Store.holds]
      | rows rows =>
        unfold Store.holds
        by_cases hfits : fitsColumn enabled <;> simp [hfits]

/-- Two sites that treat a plugin alike. -/
structure SameState (site after : Site) (plugin : Plugin) : Prop where
  plugin_eq : after.store.plugin? plugin = site.store.plugin? plugin
  pinned_eq : after.pinned = site.pinned
  holds_eq : after.store.holds = site.store.holds

theorem SameState.trans (h : site.SameState middle plugin) (h' : middle.SameState after plugin) :
    site.SameState after plugin where
  plugin_eq := h'.plugin_eq.trans h.plugin_eq
  pinned_eq := h'.pinned_eq.trans h.pinned_eq
  holds_eq := h'.holds_eq.trans h.holds_eq

theorem SameState.pluginRefusal_eq (h : site.SameState after plugin) (enabled : Int) :
    after.pluginRefusal? plugin enabled = site.pluginRefusal? plugin enabled := by
  unfold pluginRefusal?
  rw [h.pinned_eq, h.plugin_eq, h.holds_eq]

end Site

end SitePresets
