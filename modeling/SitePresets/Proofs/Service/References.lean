import SitePresets.Proofs.Apply.Effect
import SitePresets.Proofs.Apply.Preview
import SitePresets.Proofs.Rollback.Stands
import SitePresets.Proofs.Service.Moving

/-!
# What the rows of a ledger refer to

The rows that an apply makes refer to changes of the log, each to one of its own, by which the value or
a facet of an item became another one. Those changes stay in the log, whatever is done later on.
-/

namespace SitePresets

/-! ### Changes in the log -/

/-- A change that stands in the log, and is found there by its number. -/
structure Store.Logs (store : Store) (change : Change) : Prop where
  mem : .ok change ∈ store.changes
  lt : change.id < store.nextChangeId
  found : store.holds change.id → store.change? change.id = .ok (some change)

theorem Store.Logs.of_sameValues {store after : Store} {change : Change} (h : store.Logs change)
    (hsame : store.SameValues after) : after.Logs change where
  mem := hsame.changes_eq ▸ h.mem
  lt := hsame.nextChangeId_eq ▸ h.lt
  found hholds := by
    rw [hsame.holds_eq] at hholds
    rw [hsame.change_eq]
    exact h.found hholds

namespace Site

theorem Wrote.logs {site after : Site} {change other : Change} (h : site.Wrote change after)
    (hlogs : site.store.Logs other) : after.store.Logs other where
  mem := by
    rw [h.store.changes_eq]
    exact List.mem_append_left _ hlogs.mem
  lt := by
    rw [h.store.nextChangeId_eq]
    exact Nat.lt_succ_of_lt hlogs.lt
  found hholds := by
    rw [h.keeps.holds_eq] at hholds
    rw [h.store.change_of_lt other.id (by exact_mod_cast hlogs.lt)]
    exact hlogs.found hholds

theorem Evolves.logs {site after : Site} {change : Change} (h : site.Evolves after)
    (hlogs : site.store.Logs change) : after.store.Logs change := by
  induction h with
  | refl => exact hlogs
  | wrote hwrote => exact hwrote.logs hlogs
  | switched hswitches => exact hlogs.of_sameValues hswitches.values
  | trans _ _ hfirst hrest => exact hrest (hfirst hlogs)

theorem WroteAll.logs_of_mem {site after : Site} {changes : List Change} {change : Change}
    (h : site.WroteAll changes after) (hmem : change ∈ changes) : after.store.Logs change where
  mem := by
    rw [h.changes_eq]
    exact List.mem_append_right _ (List.mem_map_of_mem hmem)
  lt := (h.id_of_mem hmem).2
  found hholds := by
    rw [h.keeps.holds_eq] at hholds
    exact h.change_of_mem hmem hholds

theorem Evolves.nextChangeId_le {site after : Site} (h : site.Evolves after) :
    site.store.nextChangeId ≤ after.store.nextChangeId :=
  (Moves.of_evolves h).later.nextChangeId_le

end Site

/-! ### What the rows of a ledger refer to -/

/-- A row of the ledger of a preset with some items. It refers to a change by which the value of an item,
or the facet that it names, became another one. -/
inductive LedgerRow.RefersIn (store : Store) (items : List StoredItem) : LedgerRow → Prop
  | setting {change : Change} {held : StoredItem} (hheld : held ∈ items) (hlogs : store.Logs change)
    (hkey : change.key = held.item.key) (hdiffers : change.old ≠ change.new) :
    RefersIn store items (.setting change.id)
  | facet {change : Change} {held : StoredItem} {facet : Facet} (hheld : held ∈ items)
    (hlogs : store.Logs change)
    (hkey : change.key = ⟨held.item.key.scope, facet.variableOf held.item.key.name⟩)
    (hdiffers : change.old ≠ change.new) :
    RefersIn store items (.facet change.id held.item.key.name facet)
  | plugin {plugin : Plugin} {value old : Int} : RefersIn store items (.plugin plugin value old)

theorem LedgerRow.RefersIn.mono {store after : Store} {items more : List StoredItem} {row : LedgerRow}
    (h : row.RefersIn store items) (hitems : items ⊆ more)
    (hlogs : ∀ change, store.Logs change → after.Logs change) : row.RefersIn after more := by
  cases h with
  | setting hheld hlogged hkey hdiffers =>
    exact .setting (hitems hheld) (hlogs _ hlogged) hkey hdiffers
  | facet hheld hlogged hkey hdiffers =>
    exact .facet (hitems hheld) (hlogs _ hlogged) hkey hdiffers
  | plugin => exact .plugin

theorem LedgerRow.RefersIn.lt {store : Store} {items : List StoredItem} {row : LedgerRow}
    (h : row.RefersIn store items) {logId : Nat} (hid : row.logId? = some logId) :
    logId < store.nextChangeId := by
  cases h with
  | setting _ hlogs | facet _ hlogs => exact Option.some.inj hid ▸ hlogs.lt
  | plugin => cases hid

namespace Apply

variable {request : ApplyRequest} {site : Site} {snapshot : Snapshot}

/-- What is planned and lasts differs from what the site holds. -/
theorem old_ne_text {item : Item} {planned : Planned} {old : Option String}
    (hsnapshot : Snapshot.ofSite site = .ok snapshot) (hlasts : planned.reverts = false)
    (hplanned : planned ∈ plan request snapshot item) (hold : site.store.get planned.key = .ok old) :
    old ≠ planned.text := by
  obtain ⟨declared, -, hread⟩ := Snapshot.read_of_get hsnapshot (live_of_mem_plan hplanned)
  have hshows : site.Shows planned.live.declared planned.live :=
    (Site.shows_of_read hread).declared_eq ▸ Site.shows_of_read hread
  rintro rfl
  have hheld := Planned.differs_held hshows (isProper_of_mem_plan hplanned) hold
  rw [differs_of_mem_plan hplanned, hlasts] at hheld
  cases hheld

theorem refers_row {held : StoredItem} {items : List StoredItem} {planned : Planned} {store : Store}
    {change : Change} (hsnapshot : Snapshot.ofSite site = .ok snapshot) (hheld : held ∈ items)
    (hplanned : planned ∈ plan request snapshot held.item) (hlogs : store.Logs change)
    (hkey : change.key = planned.key) (hdiffers : change.old ≠ change.new) :
    (planned.row change.id).RefersIn store items := by
  have hlive : planned.live.key = held.item.key :=
    (declared_of_get hsnapshot (live_of_mem_plan hplanned)).2
  obtain ⟨live, facet, text⟩ := planned
  cases facet with
  | none => exact .setting hheld hlogs (hkey.trans hlive) hdiffers
  | some facet =>
    have hkey : change.key = ⟨live.key.scope, facet.variableOf live.key.name⟩ := hkey
    rw [hlive] at hkey
    have hrefers := LedgerRow.RefersIn.facet hheld hlogs hkey hdiffers
    rwa [← hlive] at hrefers

/-- The rows that a run makes refer to new changes, each to one of its own. -/
theorem refers_of_run {preset : Preset} {report : ApplyReport} {progress : Progress}
    (hrun : run request site preset = .ok (report, progress)) (hroot : site.tree.FacetsApart)
    (hpreset : preset.Sound) (hvalues : ∀ row ∈ preset.items, row.item.value.isSome) :
    (∀ row ∈ progress.rows, row.RefersIn progress.site.store preset.items) ∧
      (progress.rows.filterMap LedgerRow.logId?).Nodup ∧
        ∀ logId ∈ progress.rows.filterMap LedgerRow.logId?, site.store.nextChangeId ≤ logId := by
  cases hreal : request.simulate with
  | true =>
    obtain rfl := progress_run hreal hrun
    exact ⟨fun row hrow => absurd hrow List.not_mem_nil, List.nodup_nil,
      fun logId hid => absurd hid List.not_mem_nil⟩
  | false =>
    obtain ⟨snapshot, hsnapshot, -⟩ := bind_eq_ok.1 hrun
    obtain ⟨report, middle, after, reached, rows, hsame, hran⟩ := exists_ran hreal hsnapshot preset
    obtain ⟨-, rfl⟩ := Prod.mk.inj (Except.ok.inj (hrun.symm.trans hsame))
    obtain ⟨writes, hmade, hpart, -⟩ := hran.performs
    have hnodup := nodup_keys hmade hsnapshot hroot hpreset.keys_nodup hran.reached_prefix hpart
    have hrows : progress.rows = (writes.map fun write => write.1.row write.2.id) ++ rows := by
      rw [hran.switched.rows_eq, hmade.rows_eq]
      rfl
    have hids : progress.rows.filterMap LedgerRow.logId? =
        (writes.map Prod.snd).map Change.id := by
      have hplugins : rows.filterMap LedgerRow.logId? = [] := by
        refine List.filterMap_eq_nil_iff.2 fun row hrow => ?_
        obtain ⟨plugin, value, old, rfl, -⟩ := hran.switched.plugin row hrow
        rfl
      rw [hrows, List.filterMap_append, hplugins, List.append_nil, List.filterMap_map, List.map_map]
      exact List.filterMap_eq_map_iff_forall_eq_some.2 fun write _ => write.1.logId_row _
    refine ⟨fun row hrow => ?_, ?_, fun logId hid => ?_⟩
    · rw [hrows] at hrow
      rcases List.mem_append.1 hrow with hrow | hrow
      · obtain ⟨write, hwrite, rfl⟩ := List.mem_map.1 hrow
        have hchange : write.2 ∈ writes.map Prod.snd := List.mem_map_of_mem hwrite
        obtain ⟨item, hitem, hplanned⟩ :=
          List.mem_flatMap.1 (hpart.subset (List.mem_map_of_mem hwrite))
        obtain ⟨held, hheld, rfl⟩ := List.mem_map.1 (hran.reached_prefix.subset hitem)
        obtain ⟨hkey, hnew⟩ := hmade.fulfils write hwrite
        have hlogs : progress.site.store.Logs write.2 :=
          (hmade.wrote.logs_of_mem hchange).of_sameValues hran.switched.switches.values
        have hold := hmade.wrote.old_of_mem hnodup hchange
        rw [hkey] at hold
        refine refers_row hsnapshot hheld hplanned hlogs hkey ?_
        rw [hnew]
        exact old_ne_text hsnapshot (reverts_of_value hplanned (hvalues held hheld)) hplanned hold
      · obtain ⟨plugin, value, old, rfl, -⟩ := hran.switched.plugin row hrow
        exact .plugin
    · rw [hids, hmade.wrote.ids_eq]
      exact List.nodup_range'
    · rw [hids] at hid
      obtain ⟨change, hchange, rfl⟩ := List.mem_map.1 hid
      exact (hmade.wrote.id_of_mem hchange).1

end Apply

end SitePresets
