import SitePresets.Proofs.Rollback.Row

/-!
# Plugins that an apply has set

A run over plugins that names each of them once sets each at most once. So the rows of its ledger tell
the states from before the run and the states after it, and no other plugin has changed.
-/

namespace SitePresets

namespace Progress

/-- How a run gets from one state to another by setting some plugins, each of them once. -/
structure SetsOnce (before : Progress) (plugins : List Plugin) (rows : List LedgerRow)
    (after : Progress) : Prop where
  switches : before.site.Switches after.site
  rows_eq : after.rows = before.rows ++ rows
  part : (rows.filterMap LedgerRow.plugin?).Sublist plugins
  states : ∀ row ∈ rows, ∃ plugin value old, row = .plugin plugin value old ∧
    before.site.store.plugin? plugin = some old ∧ after.site.store.plugin? plugin = some value
  other_eq : ∀ plugin, plugin ∉ rows.filterMap LedgerRow.plugin? →
    after.site.store.plugin? plugin = before.site.store.plugin? plugin
  eq_of_nil : rows = [] → after = before

namespace SetsOnce

variable {before middle after : Progress} {plugins : List Plugin} {rows : List LedgerRow}
  {plugin : Plugin} {enabled : Int}

theorem nil (before : Progress) : before.SetsOnce [] [] before where
  switches := .refl _
  rows_eq := (List.append_nil _).symm
  part := .slnil
  states _ h := nomatch h
  other_eq _ _ := rfl
  eq_of_nil _ := rfl

theorem skip (h : before.SetsOnce plugins rows after) (plugin : Plugin) :
    before.SetsOnce (plugin :: plugins) rows after :=
  { h with part := h.part.cons plugin }

theorem cons (hmiddle : before.setPlugin false plugin enabled = .ok middle)
    (h : middle.SetsOnce plugins rows after) (hplugin : plugin ∉ plugins) :
    ∃ old, before.SetsOnce (plugin :: plugins) (.plugin plugin enabled old :: rows) after := by
  obtain ⟨⟨old, site⟩, hset, hmiddle⟩ := bind_eq_ok.1 hmiddle
  obtain rfl := Except.ok.inj hmiddle
  have hold := (Site.setPlugin_eq_ok.1 hset).2.1
  have hset_eq := Site.plugin_of_setPlugin hset
  have hlater : plugin ∉ rows.filterMap LedgerRow.plugin? := fun hmem => hplugin (h.part.subset hmem)
  have hvalue : after.site.store.plugin? plugin = some enabled := by
    rw [h.other_eq plugin hlater, hset_eq, if_pos rfl]
  refine ⟨old, {
    switches := (Site.switches_of_setPlugin hset).trans h.switches
    rows_eq := by rw [h.rows_eq, List.append_assoc, List.singleton_append]
    part := h.part.cons_cons plugin
    states := fun row hrow => ?_
    other_eq := fun other hother => ?_
    eq_of_nil := fun hnil => nomatch hnil }⟩
  · rcases List.mem_cons.1 hrow with rfl | hlast
    · exact ⟨plugin, enabled, old, rfl, hold, hvalue⟩
    · obtain ⟨other, value, found, rfl, hfound, hafter⟩ := h.states row hlast
      have hne : other ≠ plugin := by
        rintro rfl
        exact hlater (List.mem_filterMap.2 ⟨.plugin other value found, hlast, rfl⟩)
      rw [hset_eq, if_neg hne] at hfound
      exact ⟨other, value, found, rfl, hfound, hafter⟩
  · have hother : other ∉ plugin :: rows.filterMap LedgerRow.plugin? := hother
    rw [List.mem_cons, not_or] at hother
    rw [h.other_eq other hother.2, hset_eq, if_neg hother.1]

theorem sameState (h : before.SetsOnce plugins rows after) (hplugin : plugin ∉ plugins) :
    before.site.SameState after.site plugin where
  plugin_eq := h.other_eq plugin fun hmem => hplugin (h.part.subset hmem)
  pinned_eq := h.switches.pinned_eq
  holds_eq := h.switches.values.holds_eq

end SetsOnce

end Progress

namespace Site

/-- Where the states of the plugins of a site come from: another site, or rows for plugins. -/
structure SetFrom (site : Site) (plugins : List StoredPlugin) (after : Site) : Prop where
  plugin_eq : ∀ plugin, after.store.plugin? plugin = site.store.plugin? plugin ∨
    ∃ row ∈ plugins, row.plugin = plugin ∧ after.store.plugin? plugin = some row.enabled
  mem_rows : ∀ state ∈ after.store.pluginTable.rows, state ∈ site.store.pluginTable.rows ∨
    ∃ row ∈ plugins, state = (row.plugin, row.enabled)

namespace SetFrom

variable {site middle after : Site} {row : StoredPlugin} {plugins : List StoredPlugin}

theorem refl (site : Site) (plugins : List StoredPlugin) : site.SetFrom plugins site :=
  ⟨fun _ => .inl rfl, fun _ => .inl⟩

theorem of_setPlugin {old : Int} (h : site.setPlugin row.plugin row.enabled = .ok (old, after)) :
    site.SetFrom [row] after where
  plugin_eq plugin := by
    rw [plugin_of_setPlugin h]
    split
    · rename_i hplugin
      exact .inr ⟨row, List.mem_singleton.2 rfl, hplugin.symm, rfl⟩
    · exact .inl rfl
  mem_rows state hstate := by
    obtain ⟨-, -, -, rfl⟩ := setPlugin_eq_ok.1 h
    rw [Store.pluginTable_withPlugins] at hstate
    rcases Table.mem_of_mem_write hstate with rfl | hstate
    · exact .inr ⟨row, List.mem_singleton.2 rfl, rfl⟩
    · exact .inl hstate

theorem cons (h : site.SetFrom [row] middle) (h' : middle.SetFrom plugins after) :
    site.SetFrom (row :: plugins) after where
  plugin_eq plugin := by
    rcases h'.plugin_eq plugin with hsame | ⟨other, hother, hplugin, hstate⟩
    · rw [hsame]
      refine (h.plugin_eq plugin).imp_right fun ⟨other, hother, hstate⟩ => ⟨other, ?_, hstate⟩
      exact List.mem_singleton.1 hother ▸ List.mem_cons_self
    · exact .inr ⟨other, List.mem_cons_of_mem _ hother, hplugin, hstate⟩
  mem_rows state hstate := by
    rcases h'.mem_rows state hstate with hbefore | ⟨other, hother, hsame⟩
    · refine (h.mem_rows state hbefore).imp_right fun ⟨other, hother, hsame⟩ => ⟨other, ?_, hsame⟩
      exact List.mem_singleton.1 hother ▸ List.mem_cons_self
    · exact .inr ⟨other, List.mem_cons_of_mem _ hother, hsame⟩

end SetFrom

end Site

namespace Apply

variable {request : ApplyRequest}

/-- A run leaves a plugin alone, or it sets it to the state of the preset. -/
theorem applyPlugin_cases (hreal : request.simulate = false) (progress : Progress)
    (row : StoredPlugin) :
    ((applyPlugin request progress row).1.status ≠ .applied ∧
        (applyPlugin request progress row).2 = progress) ∨
      progress.setPlugin false row.plugin row.enabled =
        .ok (applyPlugin request progress row).2 := by
  unfold applyPlugin
  dsimp only
  rw [hreal]
  split
  · exact .inl ⟨nofun, rfl⟩
  · split
    · exact .inl ⟨nofun, rfl⟩
    · split
      · exact .inl ⟨nofun, rfl⟩
      · rename_i after hset
        exact .inr hset

theorem setsOnce_applyPlugins (hreal : request.simulate = false) {plugins : List StoredPlugin}
    (hdistinct : (plugins.map StoredPlugin.plugin).Nodup) (entries : List Entry)
    (progress : Progress) :
    ∃ rows, progress.SetsOnce (plugins.map StoredPlugin.plugin) rows
      (applyPlugins request entries progress plugins).2 := by
  induction plugins generalizing entries progress with
  | nil => exact ⟨[], .nil progress⟩
  | cons row rest ih =>
    obtain ⟨hrow, hrest⟩ := List.nodup_cons.1 hdistinct
    obtain ⟨rows, hrows⟩ := ih hrest (entries ++ [(applyPlugin request progress row).1])
      (applyPlugin request progress row).2
    rcases applyPlugin_cases hreal progress row with ⟨-, hsame⟩ | hset
    · rw [hsame] at hrows
      refine ⟨rows, ?_⟩
      rw [applyPlugins_cons]
      rw [show applyPlugin request progress row = ((applyPlugin request progress row).1, progress)
        from Prod.ext rfl hsame]
      exact hrows.skip row.plugin
    · obtain ⟨old, hall⟩ := Progress.SetsOnce.cons hset hrows hrow
      exact ⟨_, hall⟩

theorem setFrom_applyPlugins (hreal : request.simulate = false) (plugins : List StoredPlugin)
    (entries : List Entry) (progress : Progress) :
    progress.site.SetFrom plugins (applyPlugins request entries progress plugins).2.site := by
  induction plugins generalizing entries progress with
  | nil => exact .refl progress.site []
  | cons row rest ih =>
    have hrow : progress.site.SetFrom [row] (applyPlugin request progress row).2.site := by
      rcases applyPlugin_cases hreal progress row with ⟨-, hsame⟩ | hset
      · rw [hsame]
        exact .refl progress.site [row]
      · obtain ⟨⟨old, site⟩, hset, hafter⟩ := bind_eq_ok.1 hset
        rw [← Except.ok.inj hafter]
        exact .of_setPlugin hset
    exact hrow.cons (ih _ _)

/-- What a real run comes to that is not cancelled: it makes the planned writes of all items, and then
it sets plugins. -/
theorem exists_setsOnce {snapshot : Snapshot} {site : Site} {preset : Preset} {report : ApplyReport}
    {progress : Progress} (hreal : request.simulate = false)
    (hdistinct : (preset.plugins.map StoredPlugin.plugin).Nodup)
    (hsnapshot : Snapshot.ofSite site = .ok snapshot)
    (hrun : run request site preset = .ok (report, progress)) (hcancelled : report.cancelled = false) :
    ∃ middle rows,
      Progress.Performs { site } request.user
        ((preset.items.map StoredItem.item).flatMap (plan request snapshot)) middle ∧
      middle.SetsOnce (preset.plugins.map StoredPlugin.plugin) rows progress := by
  obtain ⟨huncancelled, rfl, rfl⟩ := run_uncancelled hsnapshot hrun hcancelled
  obtain ⟨reached, -, hperforms, hall⟩ := performs_applyItems hreal
    (preset.items.map StoredItem.item) 0
    { presetId := preset.id, simulated := request.simulate } { site }
  obtain rfl := hall huncancelled
  obtain ⟨rows, hrows⟩ := setsOnce_applyPlugins hreal hdistinct []
    (overItems request snapshot site preset).2
  exact ⟨_, rows, hperforms, hrows⟩

/-- A run without rows has left the site as it was. -/
theorem site_eq_of_rows_nil {snapshot : Snapshot} {site : Site} {preset : Preset} {report : ApplyReport}
    {progress : Progress} (hreal : request.simulate = false)
    (hdistinct : (preset.plugins.map StoredPlugin.plugin).Nodup)
    (hsnapshot : Snapshot.ofSite site = .ok snapshot)
    (hrun : run request site preset = .ok (report, progress)) (hcancelled : report.cancelled = false)
    (hrows : progress.rows = []) : progress.site = site := by
  obtain ⟨middle, rows, ⟨writes, hmade, -, -⟩, hsets⟩ :=
    exists_setsOnce hreal hdistinct hsnapshot hrun hcancelled
  have hall := hsets.rows_eq
  rw [hrows, hmade.rows_eq, List.nil_append, eq_comm, List.append_eq_nil_iff, List.map_eq_nil_iff] at hall
  obtain ⟨rfl, hnone⟩ := hall
  rw [hsets.eq_of_nil hnone, hmade.eq_of_nil]

end Apply

end SitePresets
