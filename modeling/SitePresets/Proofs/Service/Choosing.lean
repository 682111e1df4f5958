import SitePresets.Proofs.Apply.Accounting
import SitePresets.Proofs.Descriptor.Comparing
import SitePresets.Service.Step

/-!
# Choosing from a preset

People choose by the settings of a preset, and get what an apply makes of its items. The two are worked
out apart, and they agree: a preview that overrides the exclusions says of each item what its setting says,
and if the lock is free, there is a preview exactly where there are settings to choose by.
-/

namespace SitePresets

/-! ### The settings of a preset -/

namespace Snapshot

variable {live : Snapshot} {items : List Item} {item : Item}

/-- The setting of an item under its key, if the site has it. -/
def settingOf? (live : Snapshot) (item : Item) : Option (Key × Descriptor) :=
  (live.get? item.key).map fun setting =>
    (item.key, setting.withStored item.value item.attributes)

theorem ofItems_eq_ofList (live : Snapshot) (items : List Item) :
    ofItems live items = Table.ofList (items.filterMap live.settingOf?) := by
  unfold ofItems Table.ofList
  rw [List.foldl_filterMap]
  refine congrArg (fun step => items.foldl step Table.empty) (funext₂ fun snapshot item => ?_)
  unfold settingOf?
  cases live.get? item.key <;> rfl

theorem keys_settings (live : Snapshot) (items : List Item) :
    (items.filterMap live.settingOf?).map Prod.fst =
      (items.filter fun item => live.contains item.key).map Item.key := by
  rw [List.map_filterMap, ← List.filterMap_eq_filter, List.map_filterMap]
  refine List.filterMap_congr fun item _ => ?_
  unfold settingOf? Table.contains
  cases hlive : live.get? item.key <;> simp [Option.guard, hlive]

theorem nodup_settings (hdistinct : (items.map Item.key).Nodup) :
    ((items.filterMap live.settingOf?).map Prod.fst).Nodup := by
  rw [keys_settings]
  exact hdistinct.sublist (List.filter_sublist.map Item.key)

/-- Items with a key each have their settings in their order. -/
theorem rows_ofItems (hdistinct : (items.map Item.key).Nodup) :
    (ofItems live items).rows = items.filterMap live.settingOf? := by
  rw [ofItems_eq_ofList, Table.rows_ofList (nodup_settings hdistinct)]

theorem keys_ofItems (hdistinct : (items.map Item.key).Nodup) :
    (ofItems live items).keys = (items.filter fun item => live.contains item.key).map Item.key := by
  unfold Table.keys
  rw [rows_ofItems hdistinct, keys_settings]

theorem get?_ofItems (hdistinct : (items.map Item.key).Nodup) (hitem : item ∈ items)
    {setting : Descriptor} (hlive : live.get? item.key = some setting) :
    (ofItems live items).get? item.key = some (setting.withStored item.value item.attributes) := by
  have hsetting : live.settingOf? item =
      some (item.key, setting.withStored item.value item.attributes) := by
    unfold settingOf?
    rw [hlive]
    rfl
  unfold Table.get?
  rw [rows_ofItems hdistinct, Table.find?_eq_some_iff (nodup_settings hdistinct)]
  exact List.mem_filterMap.2 ⟨item, hitem, hsetting⟩

theorem mem_unknown : item ∈ unknown live items ↔ item ∈ items ∧ live.get? item.key = none := by
  unfold unknown Table.contains
  rw [List.mem_filter]
  cases live.get? item.key <;> simp

end Snapshot

/-! ### What a preview says of an item -/

/-- Whether an entry announces another value: one that means something else to the setting than the old one. It
is the meaning that counts, since where only facets change the entry repeats the text of the item, and that may be
another spelling of the old value. -/
def Entry.AnnouncesValue (entry : Entry) (rule : ValueRule) : Prop :=
  entry.status = .applied ∧ rule.same entry.old (rule.clean entry.new) = false

namespace Apply

/-- What the entry of an item foretells of a live setting is what the setting of the item says. -/
structure Foretells (live setting : Descriptor) (entry : Entry) : Prop where
  old_eq : entry.old = live.value
  failed_iff : entry.status = .failed ↔ setting.isValid = false
  announces_iff : entry.AnnouncesValue live.rule ↔
    setting.isValid = true ∧ live.equals setting.value = false
  value_eq : entry.AnnouncesValue live.rule → setting.value = entry.new
  facets : ∀ name change, (name, change) ∈ entry.facets →
    ∃ facet on, (facet, on) ∈ setting.facets ∧ facet.name = name ∧
      change.new = some (Value.flagText on)
  applied_iff : entry.status = .applied ↔ entry.AnnouncesValue live.rule ∨ entry.facets ≠ []

variable {request : ApplyRequest} {snapshot : Snapshot} {progress : Progress}

/-- The change of a facet as a preview tells it. -/
def foreseen (live : Descriptor) (change : Facet × Bool) : String × FacetChange :=
  (change.1.name, {
    old := (live.facet? change.1).map Value.flagText, new := some (Value.flagText change.2) })

/-- How a preview goes on with an entry over changes of facets. -/
structure Foresees (live : Descriptor) (facets : List (Facet × Bool)) (entry after : Entry) : Prop where
  status_eq : after.status = if facets = [] then entry.status else .applied
  old_eq : after.old = entry.old
  new_eq : after.new = entry.new
  facets_eq : after.facets = entry.facets ++ facets.map (foreseen live)

theorem foresees_writeFacets (hpreview : request.simulate = true) (live : Descriptor)
    (facets : List (Facet × Bool)) (entry : Entry) (progress : Progress) :
    Foresees live facets entry (writeFacets request live entry progress facets).1 := by
  induction facets generalizing entry with
  | nil => exact ⟨rfl, rfl, rfl, (List.append_nil _).symm⟩
  | cons row rest ih =>
    have hwrite : progress.write request.simulate
        (·.writeFacet live row.1 (some (Value.flagText row.2)) request.user)
        (.facet · live.key.name row.1) = .ok (none, progress) := by
      rw [hpreview]
      rfl
    rw [writeFacets, hwrite]
    obtain ⟨hstatus, hold, hnew, hfacets⟩ := ih { entry with
      status := .applied, reason := none, facets := entry.facets ++ [foreseen live row] }
    refine ⟨?_, hold, hnew, ?_⟩
    · rw [if_neg (List.cons_ne_nil row rest)]
      exact hstatus.trans (ite_self _)
    · rw [List.map_cons, List.append_cons]
      exact hfacets

theorem exists_of_mem_foreseen {live wanted : Descriptor} {name : String} {change : FacetChange}
    (h : (name, change) ∈ (facetChanges live wanted).map (foreseen live)) :
    ∃ facet on, (facet, on) ∈ wanted.facets ∧ facet.name = name ∧
      change.new = some (Value.flagText on) := by
  obtain ⟨⟨facet, on⟩, hmem, heq⟩ := List.mem_map.1 h
  obtain ⟨hname, hchange⟩ := Prod.mk.inj heq
  exact ⟨facet, on, (List.mem_filter.1 hmem).1, hname, by rw [← hchange]⟩

/-- The entry of an invalid item tells that it fails, and no change. -/
theorem foretells_of_invalid {live wanted : Descriptor} {entry : Entry}
    (hinvalid : wanted.isValid = false) (hold : entry.old = live.value)
    (hstatus : entry.status = .failed) (hfacets : entry.facets = []) :
    Foretells live wanted entry := by
  have hnotApplied : entry.status ≠ .applied := by
    rw [hstatus]
    exact fun h => nomatch h
  have hnot : ¬ entry.AnnouncesValue live.rule := fun h => hnotApplied h.1
  exact {
    old_eq := hold
    failed_iff := iff_of_true hstatus hinvalid
    announces_iff := iff_of_false hnot fun h => nomatch hinvalid.symm.trans h.1
    value_eq := fun h => absurd h hnot
    facets := fun _ _ h => absurd (hfacets ▸ h) List.not_mem_nil
    applied_iff := iff_of_false hnotApplied (not_or_intro hnot (not_not_intro hfacets)) }

/-- What the entry of a valid item has to tell. -/
theorem foretells_of_valid {live wanted : Descriptor} {entry : Entry} (hvalid : wanted.isValid = true)
    (hstatus : entry.status =
      if live.equals wanted.value = true ∧ facetChanges live wanted = [] then .unchanged else .applied)
    (hold : entry.old = live.value) (hread : live.rule.clean entry.new = wanted.value)
    (hnew : live.equals wanted.value = false → entry.new = wanted.value)
    (hfacets : entry.facets = (facetChanges live wanted).map (foreseen live)) :
    Foretells live wanted entry := by
  have happlied : entry.status = .applied ↔
      live.equals wanted.value = false ∨ facetChanges live wanted ≠ [] := by
    rw [hstatus, ← Bool.not_eq_true, ← not_and_or]
    split
    · rename_i hsame
      exact iff_of_false (fun h => nomatch h) (not_not_intro hsame)
    · rename_i hdiffers
      exact iff_of_true rfl hdiffers
  have hannounces : entry.AnnouncesValue live.rule ↔ live.equals wanted.value = false := by
    unfold Entry.AnnouncesValue
    rw [hold, hread, happlied]
    exact and_iff_right_of_imp .inl
  have hnotFailed : entry.status ≠ .failed := by
    rw [hstatus]
    split <;> exact fun h => nomatch h
  refine ⟨hold, iff_of_false hnotFailed (by simp [hvalid]), ?_, ?_, ?_, ?_⟩
  · rw [hannounces, hvalid]
    exact (and_iff_right rfl).symm
  · intro h
    exact (hnew (hannounces.1 h)).symm
  · intro name change hchange
    exact exists_of_mem_foreseen (hfacets ▸ hchange)
  · rw [happlied, hannounces, hfacets, Ne, Ne, List.map_eq_nil_iff]

theorem foretells_writeWanted (hpreview : request.simulate = true) {live wanted : Descriptor}
    {entry : Entry} (hvalid : wanted.isValid = true) (hunchanged : entry.status = .unchanged)
    (hold : entry.old = live.value) (hfacets : entry.facets = [])
    (hread : live.rule.clean entry.new = wanted.value) :
    Foretells live wanted (writeWanted request live wanted entry progress).1 := by
  have hsettled : live.rule.clean wanted.value = wanted.value := by
    rw [← hread]
    exact ValueRule.settled_clean live.rule entry.new
  unfold writeWanted
  split
  · rename_i hsame
    have hchanges := foresees_writeFacets hpreview live (facetChanges live wanted)
      { entry with reason := some Reason.unchanged } progress
    refine foretells_of_valid hvalid ?_ (hchanges.old_eq.trans hold) ?_ ?_ ?_
    · rw [hchanges.status_eq, hsame, hunchanged]
      simp only [true_and]
    · rw [hchanges.new_eq, hread]
    · intro hdiffers
      exact nomatch hsame.symm.trans hdiffers
    · rw [hchanges.facets_eq, hfacets, List.nil_append]
  · rename_i hdiffers
    have hwrite : progress.write request.simulate (·.write live wanted.value request.user)
        .setting = .ok (none, progress) := by
      rw [hpreview]
      rfl
    dsimp only
    rw [hwrite]
    have hchanges := foresees_writeFacets hpreview live (facetChanges live wanted)
      { entry with new := wanted.value, status := .applied, logId := none } progress
    refine foretells_of_valid hvalid ?_ (hchanges.old_eq.trans hold) ?_ ?_ ?_
    · rw [if_neg fun h => hdiffers h.1]
      exact hchanges.status_eq.trans (ite_self _)
    · exact (congrArg live.rule.clean hchanges.new_eq).trans hsettled
    · exact fun _ => hchanges.new_eq
    · refine hchanges.facets_eq.trans ?_
      rw [hfacets, List.nil_append]

/-- A preview that overrides the exclusions foretells each item that the site has. -/
theorem foretells_applyItem (hpreview : request.simulate = true) (hoverride : request.override = true)
    {item : Item} {live : Descriptor} (hlive : snapshot.get? item.key = some live) :
    Foretells live (live.withStored item.value item.attributes)
      (applyItem request snapshot item progress).1 := by
  rcases judge_cases request snapshot item with
    ⟨-, hnot, -⟩ | ⟨-, ⟨hnone, -⟩ | ⟨other, hother, hjudge⟩⟩
  · exact nomatch hoverride.symm.trans hnot
  · exact nomatch hlive.symm.trans hnone
  · obtain rfl := Option.some.inj (hlive.symm.trans hother)
    unfold applyItem
    rw [hjudge]
    cases hvalid : (live.withStored item.value item.attributes).isValid with
    | true => exact foretells_writeWanted hpreview hvalid rfl rfl rfl rfl
    | false => exact foretells_of_invalid hvalid rfl rfl rfl

/-! ### Whole previews -/

/-- The entry of an item that the site does not have. -/
def unknownEntry (item : Item) : Entry :=
  { key := item.key, status := .notApplicable, reason := some Reason.notApplicable
    new := item.value }

theorem applyItem_of_unknown (hoverride : request.override = true) {item : Item}
    (hunknown : snapshot.get? item.key = none) :
    (applyItem request snapshot item progress).1 = unknownEntry item := by
  rcases judge_cases request snapshot item with
    ⟨-, hnot, -⟩ | ⟨-, ⟨-, hjudge⟩ | ⟨live, hlive, -⟩⟩
  · exact nomatch hoverride.symm.trans hnot
  · unfold applyItem
    rw [hjudge]
    rfl
  · exact nomatch hunknown.symm.trans hlive

/-- A preview looks at each item as it was at the start. -/
theorem entriesOf_of_preview (hpreview : request.simulate = true) (progress : Progress)
    (items : List Item) :
    entriesOf request snapshot progress items =
      items.map fun item => (applyItem request snapshot item progress).1 := by
  induction items with
  | nil => rfl
  | cons item rest ih =>
    unfold entriesOf
    rw [progress_applyItem hpreview, ih, List.map_cons]

theorem files_of_preview (hpreview : request.simulate = true) (hnever : request.cancellation = .never)
    (items : List Item) (index : Nat) (report : ApplyReport) (progress : Progress) :
    report.Files (items.map fun item => (applyItem request snapshot item progress).1)
      (applyItems request snapshot index report progress items).1 := by
  have h := (files_applyItems request snapshot items index report progress).1
  rwa [reach_never hnever, List.take_length, List.drop_length, List.map_nil, List.append_nil,
    entriesOf_of_preview hpreview] at h

theorem filter_notApplicable (hoverride : request.override = true) (items : List Item) :
    (items.map fun item => (applyItem request snapshot item progress).1).filter
        (fun entry => entry.status = .notApplicable) =
      (Snapshot.unknown snapshot items).map unknownEntry := by
  have hunknown (item : Item) : (applyItem request snapshot item progress).1.status =
      .notApplicable ↔ snapshot.get? item.key = none :=
    (classified_applyItem item progress).notApplicable_iff.trans
      (and_iff_right (.inr hoverride))
  have hfilter : items.filter ((fun entry : Entry => decide (entry.status = .notApplicable)) ∘
      fun item => (applyItem request snapshot item progress).1) = Snapshot.unknown snapshot items := by
    refine List.filter_congr fun item _ => ?_
    rw [Function.comp_apply, Bool.eq_iff_iff, decide_eq_true_iff, hunknown]
    simp [Table.contains]
  rw [List.filter_map, hfilter]
  exact List.map_congr_left fun item hitem =>
    applyItem_of_unknown hoverride (Snapshot.mem_unknown.1 hitem).2

/-- The setting of an item that the site has is there under its key, and the item has one entry, which
foretells that setting. -/
structure Foretold (live : Snapshot) (item : Item) (chosen : Snapshot) (report : ApplyReport)
    (current setting : Descriptor) (entry : Entry) : Prop extends Foretells current setting entry where
  current_eq : live.get? item.key = some current
  setting_eq : setting = current.withStored item.value item.attributes
  chosen_eq : chosen.get? item.key = some setting
  key_eq : setting.key = item.key
  entry_mem : entry ∈ report.entries
  entry_key_eq : entry.key = item.key
  unique : ∀ other ∈ report.entries, other.key = item.key → other = entry
  mem_failed_iff : entry ∈ report.failed ↔ setting.isValid = false

/-- How the settings of the items of a preset, and the items that a site lacks, agree with a report. -/
structure Agrees (live : Snapshot) (items : List Item) (chosen : Snapshot) (unknown : List Item)
    (report : ApplyReport) : Prop where
  notApplicable_eq : report.notApplicable = unknown.map unknownEntry
  keys_eq : chosen.keys = (items.filter fun item => item ∉ unknown).map Item.key
  foretold : ∀ item ∈ items, item ∉ unknown →
    ∃ current setting entry, Foretold live item chosen report current setting entry

theorem agrees_overItems {site : Site} {preset : Preset} (hpreview : request.simulate = true)
    (hoverride : request.override = true) (hnever : request.cancellation = .never)
    (hsnapshot : Snapshot.ofSite site = .ok snapshot)
    (hdistinct : ((preset.items.map StoredItem.item).map Item.key).Nodup) (plugins : List Entry) :
    Agrees snapshot (preset.items.map StoredItem.item)
      (Snapshot.ofItems snapshot (preset.items.map StoredItem.item))
      (Snapshot.unknown snapshot (preset.items.map StoredItem.item))
      { (overItems request snapshot site preset).1 with plugins } := by
  let items := preset.items.map StoredItem.item
  let entryOf (item : Item) : Entry := (applyItem request snapshot item { site }).1
  have hkey (item : Item) : (entryOf item).key = item.key :=
    (classified_applyItem item { site }).key_eq
  have hfiles : ApplyReport.Files { presetId := preset.id, simulated := request.simulate }
      (items.map entryOf) (overItems request snapshot site preset).1 :=
    files_of_preview hpreview hnever items 0 _ { site }
  have hentries (entry : Entry) : entry ∈ (overItems request snapshot site preset).1.entries ↔
      ∃ item ∈ items, entryOf item = entry := hfiles.perm.mem_iff.trans List.mem_map
  refine ⟨hfiles.notApplicable.trans (filter_notApplicable hoverride items), ?_, ?_⟩
  · rw [Snapshot.keys_ofItems hdistinct]
    refine congrArg (List.map Item.key) (List.filter_congr fun item hitem => ?_)
    rw [Bool.eq_iff_iff, decide_eq_true_iff, Snapshot.mem_unknown, not_and]
    exact Option.isSome_iff_ne_none.trans ⟨fun h _ => h, fun h => h hitem⟩
  · intro item hitem hknown
    obtain ⟨current, hcurrent⟩ : ∃ current, snapshot.get? item.key = some current :=
      Option.ne_none_iff_exists'.1 fun hnone => hknown (Snapshot.mem_unknown.2 ⟨hitem, hnone⟩)
    have hforetells : Foretells current (current.withStored item.value item.attributes)
        (entryOf item) := foretells_applyItem hpreview hoverride hcurrent
    refine ⟨current, _, entryOf item, {
      toForetells := hforetells
      current_eq := hcurrent
      setting_eq := rfl
      chosen_eq := Snapshot.get?_ofItems hdistinct hitem hcurrent
      key_eq := (declared_of_get hsnapshot hcurrent).2
      entry_mem := (hentries _).2 ⟨item, hitem, rfl⟩
      entry_key_eq := hkey item
      unique := ?_
      mem_failed_iff := ?_ }⟩
    · intro other hother hsame
      obtain ⟨found, hfound, rfl⟩ := (hentries _).1 hother
      rw [List.inj_on_of_nodup_map hdistinct hfound hitem ((hkey found).symm.trans hsame)]
    · have hfailed : (overItems request snapshot site preset).1.failed =
          (items.map entryOf).filter fun entry => entry.status = .failed := hfiles.failed
      rw [← hforetells.failed_iff]
      show _ ∈ (overItems request snapshot site preset).1.failed ↔ _
      rw [hfailed, List.mem_filter, decide_eq_true_iff]
      exact and_iff_right (List.mem_map_of_mem hitem)

theorem agrees_run {site : Site} {preset : Preset} {report : ApplyReport}
    (hpreview : request.simulate = true) (hoverride : request.override = true)
    (hnever : request.cancellation = .never) (hsnapshot : Snapshot.ofSite site = .ok snapshot)
    (hdistinct : ((preset.items.map StoredItem.item).map Item.key).Nodup)
    (hrun : run request site preset = .ok (report, progress)) :
    Agrees snapshot (preset.items.map StoredItem.item)
      (Snapshot.ofItems snapshot (preset.items.map StoredItem.item))
      (Snapshot.unknown snapshot (preset.items.map StoredItem.item)) report := by
  cases hcancelled : (overItems request snapshot site preset).1.cancelled with
  | true =>
    rw [run_of_cancelled hsnapshot hcancelled] at hrun
    rw [← (Prod.mk.inj (Except.ok.inj hrun)).1]
    exact agrees_overItems hpreview hoverride hnever hsnapshot hdistinct _
  | false =>
    rw [run_of_not_cancelled hsnapshot hcancelled] at hrun
    rw [← (Prod.mk.inj (Except.ok.inj hrun)).1]
    exact agrees_overItems hpreview hoverride hnever hsnapshot hdistinct _

end Apply

namespace Service

variable {service : Service} {presetId : Int} {preset : Preset}

theorem presetSnapshot_of_live {live : Snapshot}
    (hpreset : service.library.getPreset presetId = .ok preset)
    (hlive : Snapshot.ofSite service.site = .ok live) :
    service.presetSnapshot presetId = .ok
      (Snapshot.ofItems live (preset.items.map StoredItem.item),
        Snapshot.unknown live (preset.items.map StoredItem.item)) := by
  unfold presetSnapshot snapshot
  rw [hpreset, ok_bind, ofStore_eq_ok.2 hlive]
  rfl

/-- The request of a preview that overrides the exclusions. -/
def overriding (user : Option Int) (exclusions : List Key) : ApplyRequest :=
  { user, simulate := true, override := true, exclusions }

/-- Where a preview reports, the settings of its preset can be had, and agree with the report. -/
theorem exists_agrees (hsound : service.library.Sound) {user : Option Int} {exclusions : List Key}
    {timeout : Option Int} {report : ApplyReport}
    (hreport : (service.apply presetId (overriding user exclusions) timeout).1 = .ok report) :
    ∃ preset live chosen unknown, service.library.getPreset presetId = .ok preset ∧
      service.snapshot = .ok live ∧ service.presetSnapshot presetId = .ok (chosen, unknown) ∧
        Apply.Agrees live (preset.items.map StoredItem.item) chosen unknown report := by
  obtain ⟨preset, reported, progress, hpreset, -, hrun, -, hrecord⟩ :=
    run_of_apply (Prod.ext hreport rfl)
  obtain ⟨live, hlive, -⟩ := bind_eq_ok.1 hrun
  obtain rfl := Apply.progress_run rfl hrun
  rw [record_of_nil rfl] at hrecord
  obtain rfl := Except.ok.inj (Prod.mk.inj hrecord).1
  exact ⟨preset, live, _, _, hpreset, ofStore_eq_ok.2 hlive, presetSnapshot_of_live hpreset hlive,
    Apply.agrees_run rfl rfl rfl hlive
      (hsound preset (Library.mem_of_getPreset hpreset)).keys_nodup hrun⟩

theorem presetSnapshot_error_iff (hlock : service.locked = false) (presetId : Int)
    (user : Option Int) (exclusions : List Key) (timeout : Option Int) (error : Error) :
    (service.apply presetId (overriding user exclusions) timeout).1 = .error error ↔
      service.presetSnapshot presetId = .error error := by
  cases hpreset : service.library.getPreset presetId with
  | error missing =>
    have happly : service.apply presetId (overriding user exclusions) timeout =
        (.error missing, service) := by
      unfold apply
      rw [hpreset]
      rfl
    have hsettings : service.presetSnapshot presetId = .error missing := by
      unfold presetSnapshot
      rw [hpreset]
      rfl
    rw [happly, hsettings, Except.error.injEq, Except.error.injEq]
  | ok preset =>
    cases hlive : Snapshot.ofSite service.site with
    | error refusal =>
      have happly : service.apply presetId (overriding user exclusions) timeout =
          (ofStore (.error refusal), service) := by
        unfold apply Apply.run
        rw [hpreset, ok_bind, checkLock_eq_ok.2 hlock, ok_bind, hlive]
        rfl
      have hsettings : service.presetSnapshot presetId = ofStore (.error refusal) := by
        unfold presetSnapshot snapshot
        rw [hpreset, ok_bind, hlive]
        rfl
      rw [happly, hsettings]
      exact ⟨fun h => congrArg _ (Except.error.inj h), fun h => congrArg _ (Except.error.inj h)⟩
    | ok live =>
      obtain ⟨report, after, happly⟩ : ∃ report after,
          service.apply presetId (overriding user exclusions) timeout = (.ok report, after) :=
        exists_report hpreset hlock ⟨live, hlive⟩ (.inl rfl)
      rw [happly, presetSnapshot_of_live hpreset hlive]
      exact iff_of_false (fun h => nomatch h) fun h => nomatch h

/-- The settings of a preset can be had whenever a preview reports, and agree with what it reports. A preview
that finds the lock free fails only where the settings cannot be had, for the same reason. -/
theorem presetSnapshot_agrees (hsound : service.library.Sound) (presetId : Int) (user : Option Int)
    (exclusions : List Key) (timeout : Option Int) :
    (∀ report, (service.apply presetId (overriding user exclusions) timeout).1 = .ok report →
      ∃ preset live chosen unknown, service.library.getPreset presetId = .ok preset ∧
        service.snapshot = .ok live ∧ service.presetSnapshot presetId = .ok (chosen, unknown) ∧
          Apply.Agrees live (preset.items.map StoredItem.item) chosen unknown report) ∧
      (service.locked = false → ∀ error,
        (service.apply presetId (overriding user exclusions) timeout).1 = .error error ↔
          service.presetSnapshot presetId = .error error) := by
  exact ⟨fun report hreport => exists_agrees hsound hreport,
    fun hlock error => presetSnapshot_error_iff hlock presetId user exclusions timeout error⟩

end Service

namespace SmallSite

theorem quiet_foretold :
    (∃ report, (service.apply 2 (Service.overriding none [notice]) none).1 = .ok report ∧
      ∃ preset live chosen unknown, service.library.getPreset 2 = .ok preset ∧
        service.snapshot = .ok live ∧ service.presetSnapshot 2 = .ok (chosen, unknown) ∧
          Apply.Agrees live (preset.items.map StoredItem.item) chosen unknown report) ∧
      ∀ error, (service.apply 2 (Service.overriding none [notice]) none).1 = .error error ↔
        service.presetSnapshot 2 = .error error := by
  obtain ⟨hagrees, herrors⟩ := Service.presetSnapshot_agrees library_sound 2 none [notice] none
  obtain ⟨report, hreport⟩ :
      ∃ report, (service.apply 2 (Service.overriding none [notice]) none).1 = .ok report := ⟨_, rfl⟩
  exact ⟨⟨report, hreport, hagrees report hreport⟩, herrors rfl⟩

end SmallSite

end SitePresets
