import SitePresets.Proofs.Rollback.Inverse
import SitePresets.Proofs.Rollback.Plugins
import SitePresets.Proofs.Rollback.RowByRow

/-!
# Rolling back an apply that has set plugins

A rollback goes through the rows of a ledger in the order in which they were made, and it takes its
snapshot while the plugins are still as the apply has left them. Plugins that were set once each are
always set back. A value is restored only if its setting lasts: it must still be available without the
plugins that were disabled, and still mean what was written among the choices that they leave.
-/

namespace SitePresets

/-- Whether a setting that was written is still there, and still reads as what was written, on a site
whose plugins have changed since. -/
structure Planned.Lasts (planned : Planned) (after : Site) : Prop where
  available : after.store.scopeAvailable planned.live.declared.scope
  equals : planned.facet = none →
    { planned.live with
      raw := some (planned.text.getD planned.live.declared.defaultText)
      choices := Site.choicesOf after.store planned.live.kind planned.live.declared }.equals
        planned.text

namespace Rollback

variable {site after : Site} {snapshot : Snapshot} {request : ApplyRequest} {item : Item}
  {planned : Planned} {change : Change} {live now : Descriptor} {key : Key}

/-- A setting of a snapshot is found later on exactly if its scope is available then. -/
theorem lookup_of_available (hsnapshot : Snapshot.ofSite site = .ok snapshot)
    (htree : after.tree = site.tree) (hreadable : after.store.Readable)
    (hlive : snapshot.get? key = some live) (havailable : after.store.scopeAvailable key.scope) :
    ∃ now, after.lookup key = .ok (some now) := by
  obtain ⟨declared, hoffered, -⟩ := Snapshot.read_of_get hsnapshot hlive
  obtain ⟨hoffers, hfind⟩ := Site.offered_eq_some.1 hoffered
  have hname := (Site.offers_iff.1 hoffers).1
  obtain ⟨now, hnow⟩ := @Site.exists_read after declared (hreadable _) fun _ _ => hreadable _
  refine ⟨now, Site.lookup_eq_some.2 ⟨declared, Site.offered_eq_some.2 ⟨?_, ?_⟩, hnow⟩⟩
  · exact Site.offers_iff.2 ⟨hname, havailable⟩
  · rw [htree]
    exact hfind

theorem shows_of_lookup (hsnapshot : Snapshot.ofSite site = .ok snapshot)
    (htree : after.tree = site.tree) (hlive : snapshot.get? key = some live)
    (hlookup : after.lookup key = .ok (some now)) :
    after.store.scopeAvailable key.scope ∧ after.Shows live.declared now := by
  obtain ⟨declared, hoffered, hread⟩ := Snapshot.read_of_get hsnapshot hlive
  obtain ⟨other, hother, hnow⟩ := Site.lookup_eq_some.1 hlookup
  obtain ⟨hoffers, hfound⟩ := Site.offered_eq_some.1 hother
  rw [htree] at hfound
  obtain rfl := Option.some.inj ((Site.offered_eq_some.1 hoffered).2.symm.trans hfound)
  refine ⟨(Site.offers_iff.1 hoffers).2, ?_⟩
  rw [(Site.shows_of_read hread).declared_eq]
  exact Site.shows_of_read hnow

/-- The row of a write can be restored exactly if its setting lasts, as long as the log has its change
and its key holds what was written. -/
theorem restorable_row_iff (hsnapshot : Snapshot.ofSite site = .ok snapshot)
    (htree : after.tree = site.tree) (hchain : after.chain = site.chain)
    (hreadable : after.store.Readable) (hplanned : planned ∈ Apply.plan request snapshot item)
    (hkey : change.key = planned.key) (hnew : change.new = planned.text)
    (hchange : after.store.change? change.id = .ok (some change))
    (hstored : after.store.get change.key = .ok change.new) :
    Restorable after (planned.row change.id) ↔ planned.Lasts after := by
  have hlive := Apply.live_of_mem_plan hplanned
  have hitem := (Apply.declared_of_get hsnapshot hlive).2
  have hshows : site.Shows planned.live.declared planned.live := by
    obtain ⟨declared, -, hread⟩ := Snapshot.read_of_get hsnapshot hlive
    exact (Site.shows_of_read hread).declared_eq ▸ Site.shows_of_read hread
  have hflag := @Apply.flag_of_mem_plan _ _ _ _ hplanned
  have hfacets := @Apply.facet_mem_of_mem_plan _ _ _ _ hplanned
  obtain ⟨live, facet, text⟩ := planned
  rw [← hitem] at hlive
  rw [hkey, hnew] at hstored
  have hkind (now : Descriptor) (hnow : after.Shows live.declared now) : now.kind = live.kind := by
    rw [hnow.kind_eq, hshows.kind_eq, hchain]
  cases facet with
  | none =>
    have hequals (now : Descriptor) (hnow : after.Shows live.declared now) :
        now.equals change.new = { live with
          raw := some (text.getD live.declared.defaultText)
          choices := Site.choicesOf after.store live.kind live.declared }.equals text := by
      obtain ⟨stored, hstored', hraw⟩ := hnow.raw_eq
      obtain rfl := Except.ok.inj (hstored.symm.trans hstored')
      unfold Descriptor.equals Descriptor.value Descriptor.rule
      rw [hnew, hraw, hnow.choices_eq, hkind now hnow, hnow.declared_eq]
    constructor
    · intro h
      cases h with
      | @setting _ found now hlog hlookup hours =>
        obtain rfl := Option.some.inj (Except.ok.inj (hchange.symm.trans hlog))
        rw [hkey] at hlookup
        obtain ⟨havailable, hnow⟩ := shows_of_lookup hsnapshot htree hlive hlookup
        exact ⟨havailable, fun _ => hequals now hnow ▸ hours⟩
    · intro hlasts
      obtain ⟨now, hlookup⟩ := lookup_of_available hsnapshot htree hreadable hlive hlasts.available
      obtain ⟨-, hnow⟩ := shows_of_lookup hsnapshot htree hlive hlookup
      have hfound : after.lookup change.key = .ok (some now) := by
        rw [hkey]
        exact hlookup
      exact .setting hchange hfound (hequals now hnow ▸ hlasts.equals rfl)
  | some facet =>
    obtain ⟨on, rfl⟩ := hflag rfl
    have htarget : (⟨change.key.scope, live.key.name⟩ : Key) = live.key := by
      rw [hkey]
      rfl
    constructor
    · intro h
      cases h with
      | @facet _ _ _ found now hlog hlookup hfacet hours =>
        obtain rfl := Option.some.inj (Except.ok.inj (hchange.symm.trans hlog))
        rw [htarget] at hlookup
        exact ⟨(shows_of_lookup hsnapshot htree hlive hlookup).1, fun h => nomatch h⟩
    · intro hlasts
      obtain ⟨now, hlookup⟩ := lookup_of_available hsnapshot htree hreadable hlive hlasts.available
      obtain ⟨-, hnow⟩ := shows_of_lookup hsnapshot htree hlive hlookup
      have hfacet : facet ∈ now.kind.facets := hkind now hnow ▸ hfacets rfl
      have hfound : after.lookup ⟨change.key.scope, live.key.name⟩ = .ok (some now) := by
        rw [htarget]
        exact hlookup
      refine .facet hchange hfound hfacet ?_
      obtain ⟨stored, hstored', hvalue⟩ := hnow.facet_eq facet hfacet
      have hfacetKey : now.facetKey facet = live.facetKey facet := by
        unfold Descriptor.facetKey
        rw [hnow.declared_eq]
      rw [hfacetKey] at hstored'
      obtain rfl := Except.ok.inj (hstored.symm.trans hstored')
      unfold Descriptor.facetEquals
      rw [hvalue, hnew]
      exact decide_eq_true rfl

/-- An application that an uncancelled apply has just created: the writes that it has made, and then
the plugins that it has set. -/
structure JustApplied (service : Service) (request : ApplyRequest) (snapshot : Snapshot)
    (preset : Preset) (application : Application) (writes : List (Planned × Change))
    (rows : List LedgerRow) (next : Service) : Prop where
  snapshot_eq : Snapshot.ofSite service.site = .ok snapshot
  sound : next.Sound
  unlocked : next.locked = false
  id_eq : application.id = service.library.nextApplicationId
  applications_eq : next.library.applications = service.library.applications ++ [application]
  rows_eq : application.rows =
    LedgerRow.arrange ((writes.map fun write => write.1.row write.2.id) ++ rows)
  planned : writes.map Prod.fst =
    (preset.items.map StoredItem.item).flatMap (Apply.plan request snapshot)
  fulfils : ∀ write ∈ writes, write.2.key = write.1.key ∧ write.2.new = write.1.text
  keys_nodup : ((writes.map Prod.snd).map Change.key).Nodup
  wrote : ∃ middle, service.site.WroteAll (writes.map Prod.snd) middle ∧ middle.Switches next.site
  plugins_nodup : (rows.filterMap LedgerRow.plugin?).Nodup
  states : ∀ row ∈ rows, ∃ plugin value old, row = .plugin plugin value old ∧
    service.site.store.plugin? plugin = some old ∧ next.site.store.plugin? plugin = some value
  other_eq : ∀ plugin, plugin ∉ rows.filterMap LedgerRow.plugin? →
    next.site.store.plugin? plugin = service.site.store.plugin? plugin

theorem exists_justApplied {service next : Service} {presetId : Int} {timeout : Option Int}
    {preset : Preset} {report : ApplyReport} {id : Nat} (hsound : service.Sound)
    (hpreset : service.library.getPreset presetId = .ok preset)
    (hdistinct : (preset.plugins.map StoredPlugin.plugin).Nodup) (hreal : request.simulate = false)
    (huser : request.user.all fitsColumn) (hsnapshot : Snapshot.ofSite service.site = .ok snapshot)
    (happly : service.apply presetId request timeout = (.ok report, next))
    (hcreated : report.applicationId = some id) (hcancelled : report.cancelled = false) :
    ∃ application writes rows, application.id = id ∧
      JustApplied service request snapshot preset application writes rows next := by
  have hnext := hsound.apply presetId request timeout
  rw [happly] at hnext
  obtain ⟨found, ran, progress, hfound, hlock, hrun, -, hrecorded⟩ := Service.run_of_apply happly
  obtain rfl := Except.ok.inj (hpreset.symm.trans hfound)
  rcases Service.record_eq_ok hrecorded with
    ⟨rfl, -⟩ | ⟨application, library, hrecord, rfl, rfl⟩
  · rw [Apply.applicationId_of_run hreal hrun] at hcreated
    cases hcreated
  · obtain ⟨middle, rows, ⟨writes, hmade, -, hall⟩, hsets⟩ :=
      Apply.exists_setsOnce hreal hdistinct hsnapshot hrun hcancelled
    obtain ⟨hid, -, hrows, happlications, -⟩ := Library.recordApplication_eq_ok hrecord
    have hplan := hall (Apply.writable_plan hsnapshot hsound.readOnly_eq (Store.accepts_of_fits huser _) _)
    have hpart : (writes.map Prod.fst).Sublist
        ((preset.items.map StoredItem.item).flatMap (Apply.plan request snapshot)) :=
      hplan.symm ▸ List.Sublist.refl _
    have hitems := (hsound.library preset (Library.mem_of_getPreset hpreset)).keys_nodup
    refine ⟨application, writes, rows, Option.some.inj hcreated, {
      snapshot_eq := hsnapshot
      sound := hnext
      unlocked := hlock
      id_eq := hid
      applications_eq := happlications
      rows_eq := ?_
      planned := hplan
      fulfils := hmade.fulfils
      keys_nodup := Apply.nodup_keys hmade hsnapshot hsound.apart hitems (List.prefix_refl _) hpart
      wrote := ⟨middle.site, hmade.wrote, hsets.switches⟩
      plugins_nodup := hdistinct.sublist hsets.part
      states := fun row hrow => ?_
      other_eq := fun plugin hplugin => ?_ }⟩
    · rw [hrows, hsets.rows_eq, hmade.rows_eq]
      rfl
    · obtain ⟨plugin, value, old, rfl, hold, hvalue⟩ := hsets.states row hrow
      rw [hmade.wrote.keeps.plugin_eq] at hold
      exact ⟨plugin, value, old, rfl, hold, hvalue⟩
    · exact (hsets.other_eq plugin hplugin).trans (hmade.wrote.keeps.plugin_eq plugin)

namespace JustApplied

variable {service next current : Service} {preset : Preset} {application : Application}
  {writes : List (Planned × Change)} {rows : List LedgerRow} {row : LedgerRow} {user : Option Int}

theorem mem_rows (h : JustApplied service request snapshot preset application writes rows next) :
    row ∈ application.rows ↔ (∃ write ∈ writes, write.1.row write.2.id = row) ∨ row ∈ rows := by
  rw [h.rows_eq, LedgerRow.mem_arrange, List.mem_append, List.mem_map]

theorem change_of_mem (h : JustApplied service request snapshot preset application writes rows next)
    (hnumbers : next.site.store.holds next.site.store.nextChangeId) {write : Planned × Change}
    (hwrite : write ∈ writes) : next.site.store.change? write.2.id = .ok (some write.2) := by
  obtain ⟨middle, hwrote, hswitches⟩ := h.wrote
  have hmem : write.2 ∈ writes.map Prod.snd := List.mem_map_of_mem hwrite
  have hlt := (hwrote.id_of_mem hmem).2
  rw [hswitches.values.nextChangeId_eq] at hnumbers
  rw [hswitches.values.change_eq]
  refine hwrote.change_of_mem hmem ?_
  rw [← hwrote.keeps.holds_eq, ← hswitches.values.holds_eq]
  exact Store.holds_of_le (Nat.le_of_lt hlt) hnumbers

theorem restorable_iff (h : JustApplied service request snapshot preset application writes rows next)
    (hnumbers : next.site.store.holds next.site.store.nextChangeId) {write : Planned × Change}
    (hwrite : write ∈ writes) :
    Restorable next.site (write.1.row write.2.id) ↔ write.1.Lasts next.site := by
  obtain ⟨middle, hwrote, hswitches⟩ := h.wrote
  have hplanned : write.1 ∈ writes.map Prod.fst := List.mem_map_of_mem hwrite
  rw [h.planned] at hplanned
  obtain ⟨item, -, hplanned⟩ := List.mem_flatMap.1 hplanned
  obtain ⟨hkey, hnew⟩ := h.fulfils write hwrite
  refine restorable_row_iff h.snapshot_eq (hswitches.tree_eq.trans hwrote.keeps.tree_eq)
    (hswitches.chain_eq.trans hwrote.keeps.chain_eq) h.sound.readable hplanned hkey hnew
    (h.change_of_mem hnumbers hwrite) ?_
  rw [hswitches.values.get_eq]
  exact hwrote.get_of_mem h.keys_nodup (List.mem_map_of_mem hwrite)

/-- All rows can be restored exactly if all settings that were written last. -/
theorem forall_restorable_iff
    (h : JustApplied service request snapshot preset application writes rows next)
    (hnumbers : next.site.store.holds next.site.store.nextChangeId) :
    (∀ row ∈ application.rows, Restorable next.site row) ↔
      ∀ stored ∈ preset.items, ∀ planned ∈ Apply.plan request snapshot stored.item,
        planned.Lasts next.site := by
  have hplanned (planned : Planned) : (∃ write ∈ writes, write.1 = planned) ↔
      ∃ stored ∈ preset.items, planned ∈ Apply.plan request snapshot stored.item := by
    rw [← List.mem_map, h.planned, List.mem_flatMap]
    constructor
    · rintro ⟨item, hitem, hmem⟩
      obtain ⟨stored, hstored, rfl⟩ := List.mem_map.1 hitem
      exact ⟨stored, hstored, hmem⟩
    · rintro ⟨stored, hstored, hmem⟩
      exact ⟨stored.item, List.mem_map_of_mem hstored, hmem⟩
  constructor
  · intro hall stored hstored planned hmem
    obtain ⟨write, hwrite, rfl⟩ := (hplanned planned).2 ⟨stored, hstored, hmem⟩
    exact (h.restorable_iff hnumbers hwrite).1 (hall _ (h.mem_rows.2 (.inl ⟨write, hwrite, rfl⟩)))
  · intro hlasts row hrow
    rcases h.mem_rows.1 hrow with ⟨write, hwrite, rfl⟩ | hrow
    · obtain ⟨stored, hstored, hmem⟩ := (hplanned write.1).1 ⟨write, hwrite, rfl⟩
      exact (h.restorable_iff hnumbers hwrite).2 (hlasts stored hstored write.1 hmem)
    · obtain ⟨plugin, value, old, rfl, -, hvalue⟩ := h.states row hrow
      exact .plugin hvalue

theorem plugins_nodup_rows
    (h : JustApplied service request snapshot preset application writes rows next) :
    (application.rows.filterMap LedgerRow.plugin?).Nodup := by
  have hnone : (writes.map fun write => write.1.row write.2.id).filterMap LedgerRow.plugin? = [] := by
    refine List.filterMap_eq_nil_iff.2 fun row hrow => ?_
    obtain ⟨write, -, rfl⟩ := List.mem_map.1 hrow
    exact Planned.plugin_row _ _
  have hperm := (LedgerRow.arrange_perm
    ((writes.map fun write => write.1.row write.2.id) ++ rows)).filterMap LedgerRow.plugin?
  rw [List.filterMap_append, hnone, List.nil_append, ← h.rows_eq] at hperm
  exact hperm.nodup_iff.2 h.plugins_nodup

theorem ready (h : JustApplied service request snapshot preset application writes rows next)
    (hnumbers : next.site.store.holds next.site.store.nextChangeId) (huser : user.all fitsColumn)
    (hrow : row ∈ application.rows) : Ready next.site user row := by
  have hmem : application ∈ next.library.applications := by
    rw [h.applications_eq]
    exact List.mem_append_right _ (List.mem_singleton.2 rfl)
  exact h.sound.ready hmem hnumbers huser hrow

/-- The states of plugins are back once their rows are undone. -/
theorem plugin_of_undone
    (h : JustApplied service request snapshot preset application writes rows next)
    (hundone : Undone next.site (application.rows.filter (isRestorable next.site)) after)
    (plugin : Plugin) : after.store.plugin? plugin = service.site.store.plugin? plugin := by
  by_cases hplugin : plugin ∈ rows.filterMap LedgerRow.plugin?
  · obtain ⟨row, hrow, hsome⟩ := List.mem_filterMap.1 hplugin
    obtain ⟨other, value, old, rfl, hold, hvalue⟩ := h.states row hrow
    obtain rfl := Option.some.inj hsome
    rw [hold]
    refine hundone.plugin_restored other value old ?_
    exact mem_filter_isRestorable.2 ⟨h.mem_rows.2 (.inr hrow), .plugin hvalue⟩
  · rw [hundone.plugin_other, h.other_eq plugin hplugin]
    intro row hrow hsome
    rcases h.mem_rows.1 (mem_filter_isRestorable.1 hrow).1 with ⟨write, -, rfl⟩ | hrow
    · rw [Planned.plugin_row] at hsome
      cases hsome
    · exact hplugin (List.mem_filterMap.2 ⟨row, hrow, hsome⟩)

/-- All values are back once all rows are undone. -/
theorem get_of_undone
    (h : JustApplied service request snapshot preset application writes rows next)
    (hnumbers : next.site.store.holds next.site.store.nextChangeId)
    (hundone : Undone next.site application.rows after) (key : Key) :
    after.store.get key = service.site.store.get key := by
  obtain ⟨middle, hwrote, hswitches⟩ := h.wrote
  refine hundone.get_eq_of_writes hwrote h.keys_nodup hswitches.values.get_eq
    (fun write hwrite => ⟨h.mem_rows.2 (.inl ⟨write, hwrite, rfl⟩), ?_⟩)
    (fun row hrow change hfound => ?_) key
  · exact Store.changeOf_eq_some.2
      ⟨_, Planned.logId_row _ _, h.change_of_mem hnumbers hwrite⟩
  · rcases h.mem_rows.1 hrow with hwrite | hrow
    · exact hwrite
    · obtain ⟨plugin, value, old, rfl, -⟩ := h.states row hrow
      cases Undone.plugin_none_of_changeOf hfound

end JustApplied

/-- Rolling an apply back at once sets all plugins back that it has set, if its preset names each of
them once. No row fails exactly if all settings that were written last, and then the application is
gone and every value is back, also those that were not set. -/
theorem rollback_of_apply {service next : Service} {presetId : Int} {timeout : Option Int}
    {preset : Preset} {report : ApplyReport} {id : Nat} {user : Option Int}
    (hreachable : service.Reachable) (hpreset : service.library.getPreset presetId = .ok preset)
    (hdistinct : (preset.plugins.map StoredPlugin.plugin).Nodup) (hreal : request.simulate = false)
    (hrequester : request.user.all fitsColumn)
    (hsnapshot : Snapshot.ofSite service.site = .ok snapshot)
    (happly : service.apply presetId request timeout = (.ok report, next))
    (hcreated : report.applicationId = some id) (hcancelled : report.cancelled = false)
    (hid : fitsColumn id) (hnumbers : next.site.store.holds next.site.store.nextChangeId)
    (huser : user.all fitsColumn) :
    ∃ undo after, next.rollback id user .never timeout = .ok (undo, after) ∧
      (∀ plugin, after.site.store.plugin? plugin = service.site.store.plugin? plugin) ∧
      (undo.failed = [] ↔ ∀ stored ∈ preset.items,
        ∀ planned ∈ Apply.plan request snapshot stored.item, planned.Lasts next.site) ∧
      (undo.failed = [] → undo.applicationDeleted = true ∧ after.library.application? id = none ∧
        ∀ key, after.site.store.get key = service.site.store.get key) := by
  obtain ⟨application, writes, rows, rfl, happlied⟩ := exists_justApplied hreachable.sound hpreset
    hdistinct hreal hrequester hsnapshot happly hcreated hcancelled
  obtain ⟨now, hnow⟩ := happlied.sound.exists_snapshot
  have hmem : application ∈ next.library.applications := by
    rw [happlied.applications_eq]
    exact List.mem_append_right _ (List.mem_singleton.2 rfl)
  have happlication := Library.getApplication_of_new happlied.id_eq happlied.applications_eq hid
  obtain ⟨rest, undo, after, hsplit, hrollback, houtcome⟩ :=
    exists_outcome .never timeout happlication happlied.unlocked hnow
      (fun row hrow => happlied.ready hnumbers huser hrow)
      (pairwise_distinct (happlied.sound.backs application hmem) happlied.plugins_nodup_rows)
  rw [Cancellation.reached_never] at hsplit houtcome
  obtain rfl := List.self_eq_append_right.1 hsplit
  have hfailed : undo.failed = [] ↔ ∀ row ∈ application.rows, Restorable next.site row := by
    have hlength := houtcome.failed.length_eq
    rw [← List.length_eq_zero_iff, ← hlength, List.length_eq_zero_iff, List.filter_eq_nil_iff]
    refine forall₂_congr fun row _ => ?_
    rw [← isRestorable_iff]
    cases isRestorable next.site row <;> simp
  refine ⟨undo, after, hrollback, happlied.plugin_of_undone houtcome.undone,
    hfailed.trans (happlied.forall_restorable_iff hnumbers), fun hnone => ?_⟩
  have hall := hfailed.1 hnone
  have hrestored : application.rows.filter (isRestorable next.site) = application.rows :=
    List.filter_eq_self.2 fun row hrow => isRestorable_iff.2 (hall row hrow)
  have hundone := houtcome.undone
  rw [hrestored] at hundone
  have hdeleted : undo.applicationDeleted = true := by
    have hkept := houtcome.failed
    rw [hnone, List.forall₂_nil_right_iff] at hkept
    rw [houtcome.applicationDeleted_eq, hkept]
    rfl
  have hlibrary := houtcome.library_eq
  rw [if_pos hdeleted] at hlibrary
  refine ⟨hdeleted, ?_, happlied.get_of_undone hnumbers hundone⟩
  rw [hlibrary, Library.application_removeApplication, if_pos rfl]

end Rollback

namespace SmallSite

/-- A preset that disables a plugin, and whose settings are of the site itself. -/
theorem rollback_of_quiet :
    ∃ snapshot next undo after, Snapshot.ofSite service.site = .ok snapshot ∧
      (service.apply 2 {} none).2 = next ∧
      next.rollback 1 none .never none = .ok (undo, after) ∧
      (∀ plugin, after.site.store.plugin? plugin = service.site.store.plugin? plugin) ∧
      (undo.failed = [] ↔ ∀ stored ∈ (preset 2 [⟨1, chat, 0⟩]).items,
        ∀ planned ∈ Apply.plan {} snapshot stored.item, planned.Lasts next.site) ∧
      (undo.failed = [] → undo.applicationDeleted = true ∧ after.library.application? 1 = none ∧
        ∀ key, after.site.store.get key = service.site.store.get key) := by
  have hfresh : service.Fresh :=
    ⟨tree_facetsApart, fun _ => ⟨_, rfl⟩, fun _ _ _ => rfl, rfl, rfl, library_sound, rfl⟩
  obtain ⟨snapshot, hsnapshot⟩ := hfresh.sound.exists_snapshot
  obtain ⟨report, hreport, hcreated, hcancelled⟩ :
      ∃ report, (service.apply 2 {} none).1 = .ok report ∧ report.applicationId = some 1 ∧
        report.cancelled = false := ⟨_, rfl, by decide, by decide⟩
  have happly : service.apply 2 {} none = (.ok report, (service.apply 2 {} none).2) :=
    Prod.ext hreport rfl
  have hpreset : service.library.getPreset 2 = .ok (preset 2 [⟨1, chat, 0⟩]) := by decide
  have huser : (none : Option Int).all fitsColumn := rfl
  obtain ⟨undo, after, hundo⟩ := Rollback.rollback_of_apply (.start hfresh) hpreset (by decide)
    rfl rfl hsnapshot happly hcreated hcancelled (by decide) rfl huser
  exact ⟨snapshot, _, undo, after, hsnapshot, rfl, hundo⟩

def limit : Key := ⟨"mod_chat", "limit"⟩

/-- A setting of a plugin, and two presets: one sets the plugin twice, the other assigns the setting
and disables its plugin. -/
def chatService : Service where
  site := {
    store := .memory (.ofLists [] [(chat, 1)])
    tree := .category "root" "" [.page "chat" "" [
      .setting { name := limit.name, plugin := some limit.scope }]] }
  library := { presets := [
    { preset 1 [⟨1, chat, 0⟩, ⟨2, chat, 1⟩] with items := [] },
    { preset 2 [⟨1, chat, 0⟩] with
      items := [⟨1, { key := limit, value := some "2", attributes := [] }⟩] }] }

/-- A plugin that was set twice is not set back, and neither is a setting of a disabled plugin. -/
theorem rollback_leaves_rows :
    (∃ undo after, (chatService.apply 1 {} none).2.rollback 1 none .never none = .ok (undo, after) ∧
      undo.failed ≠ [] ∧ undo.applicationDeleted = false ∧
      after.site.store.plugin? chat ≠ chatService.site.store.plugin? chat) ∧
    ∃ undo after, (chatService.apply 2 {} none).2.rollback 1 none .never none = .ok (undo, after) ∧
      undo.failed ≠ [] ∧ undo.applicationDeleted = false ∧
      after.site.store.get limit ≠ chatService.site.store.get limit := by
  refine ⟨⟨_, _, rfl, ?_, ?_, ?_⟩, ⟨_, _, rfl, ?_, ?_, ?_⟩⟩
  all_goals decide

end SmallSite

end SitePresets
