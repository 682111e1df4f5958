import SitePresets.Proofs.Apply.Plan
import SitePresets.Proofs.Descriptor.Alike
import SitePresets.Proofs.Descriptor.Cleaning
import SitePresets.Proofs.Grouping
import SitePresets.Proofs.Library.Saving
import SitePresets.Proofs.Service.Recording
import SitePresets.Proofs.Table
import SitePresets.Service.Exchange

/-!
# What is exported

An export stores the settings of a site, one item each. An item gives the setting back its value and its
facets, unless the value was none of the setting.
-/

namespace SitePresets

theorem Declaration.scope_ne_empty (declared : Declaration) : declared.scope ≠ "" := by
  unfold scope
  cases declared.plugin with
  | none => decide
  | some plugin =>
    show (if plugin = "" then siteScope else plugin) ≠ ""
    split
    · decide
    · assumption

theorem Site.arranged_of_read {site : Site} {declared : Declaration} {live : Descriptor}
    (h : site.read declared = .ok live) : live.Arranged := by
  obtain ⟨stored, -, h⟩ := bind_eq_ok.1 h
  obtain ⟨given, -, h⟩ := bind_eq_ok.1 h
  obtain rfl := Except.ok.inj h
  exact Descriptor.facetsOf_eq_filterMap _ _

namespace Snapshot

variable {site : Site} {snapshot after : Snapshot} {live : Descriptor}

theorem nodup_foldlM_add {declarations : List Declaration} (hnodup : snapshot.keys.Nodup)
    (h : declarations.foldlM (add site) snapshot = .ok after) : after.keys.Nodup := by
  induction declarations generalizing snapshot with
  | nil => exact Except.ok.inj h ▸ hnodup
  | cons declared rest ih =>
    rw [List.foldlM_cons] at h
    obtain ⟨next, hnext, hrest⟩ := bind_eq_ok.1 h
    refine ih ?_ hrest
    unfold add at hnext
    split at hnext
    · exact Except.ok.inj hnext ▸ hnodup
    · obtain ⟨setting, -, hnext⟩ := bind_eq_ok.1 hnext
      exact Except.ok.inj hnext ▸ Table.nodup_keys_put hnodup _ _

theorem nodup_keys (h : Snapshot.ofSite site = .ok snapshot) : snapshot.keys.Nodup := by
  have hempty : (Table.empty : Snapshot).keys.Nodup := List.nodup_nil
  exact nodup_foldlM_add hempty h

theorem mem_inOrder (h : Snapshot.ofSite site = .ok snapshot) :
    live ∈ snapshot.inOrder ↔ snapshot.get? live.key = some live := by
  unfold inOrder
  rw [Grouping.mem_grouped, List.mem_map]
  constructor
  · rintro ⟨⟨key, found⟩, hrow, rfl⟩
    have hget := (Table.mem_rows_iff (nodup_keys h)).1 hrow
    rw [(Apply.declared_of_get h hget).2]
    exact hget
  · intro hget
    exact ⟨(live.key, live), (Table.mem_rows_iff (nodup_keys h)).2 hget, rfl⟩

theorem read_of_mem (h : Snapshot.ofSite site = .ok snapshot) (hlive : live ∈ snapshot.inOrder) :
    ∃ declared, site.read declared = .ok live := by
  obtain ⟨declared, -, hread⟩ := read_of_get h ((mem_inOrder h).1 hlive)
  exact ⟨declared, hread⟩

/-- The settings of a site stand under their keys. -/
theorem map_key_rows (h : Snapshot.ofSite site = .ok snapshot) :
    (snapshot.rows.map Prod.snd).map Descriptor.key = snapshot.keys := by
  rw [List.map_map]
  refine List.map_congr_left fun row hrow => ?_
  exact (Apply.declared_of_get h ((Table.mem_rows_iff (nodup_keys h)).1 hrow)).2

/-- The settings of a site have different keys. -/
theorem nodup_inOrder (h : Snapshot.ofSite site = .ok snapshot) :
    (snapshot.inOrder.map Descriptor.key).Nodup := by
  refine Grouping.nodup_grouped ?_
  rw [map_key_rows h]
  exact nodup_keys h

end Snapshot

namespace Exchange

variable {request : ExportRequest} {exclusions : List Key} {site : Site} {snapshot : Snapshot}
  {live now : Descriptor}

theorem placed_exportItem (live : Descriptor) : (exportItem live).placed = exportItem live := by
  have hscope : (exportItem live).key.scope ≠ "" := live.declared.scope_ne_empty
  unfold Item.placed
  rw [if_neg hscope]

theorem placed_exportItems (request : ExportRequest) (exclusions : List Key) (snapshot : Snapshot) :
    (exportItems request exclusions snapshot).map Item.placed =
      exportItems request exclusions snapshot := by
  refine (List.map_congr_left fun item hitem => ?_).trans (List.map_id _)
  obtain ⟨live, -, rfl⟩ := List.mem_map.1 hitem
  exact placed_exportItem live

theorem exportItems_all (hall : request.selected = none) (hsensitive : request.includeSensitive)
    (snapshot : Snapshot) :
    exportItems request exclusions snapshot = snapshot.inOrder.map exportItem := by
  have hwanted : isWanted request exclusions = fun _ => true := by
    funext setting
    unfold isWanted
    rw [hall, hsensitive]
    rfl
  unfold exportItems
  rw [hwanted, List.filter_true]

theorem nodup_exportItems (h : Snapshot.ofSite site = .ok snapshot) :
    ((exportItems request exclusions snapshot).map Item.key).Nodup := by
  unfold exportItems
  rw [List.map_map]
  exact (Snapshot.nodup_inOrder h).sublist (List.filter_sublist.map Descriptor.key)

/-! ### Exported items -/

theorem nodup_attributes_exportItem (live : Descriptor) (hlive : live.Arranged) :
    ((exportItem live).attributes.map Prod.fst).Nodup := by
  have hfacets := hlive.nodup.map fun (first second : Facet)
    (h : first.variableOf live.declared.name = second.variableOf live.declared.name) =>
      (Facet.variableOf_inj h).1
  rw [List.map_map] at hfacets
  unfold exportItem
  rw [List.map_map]
  exact hfacets

/-- What an exported item says of a facet. -/
theorem find?_exported (live : Descriptor) (hlive : live.Arranged) (facet : Facet) :
    Table.find? (facet.variableOf live.declared.name) (exportItem live).attributes.reverse =
      (live.facet? facet).map fun on => some (Value.flagText on) := by
  have hinj {first second : Facet}
      (h : first.variableOf live.declared.name = second.variableOf live.declared.name) :
      first = second := (Facet.variableOf_inj h).1
  rw [Table.find?_reverse (nodup_attributes_exportItem live hlive)]
  exact Table.find?_map (f := fun facet : Facet => facet.variableOf live.declared.name)
    (fun on => some (Value.flagText on)) (fun _ => hinj) live.facets

/-- An exported item gives back the facets of the setting. -/
theorem facets_exportItem (h : live.Alike now) (hlive : live.Arranged) (raw : Option String) :
    (now.withStored raw (exportItem live).attributes).facets = live.facets := by
  rw [h.facets_withStored]
  refine hlive.facets_eq (Descriptor.arranged_withStored _ _ _) rfl fun facet hfacet => ?_
  rw [Descriptor.facet_withStored live raw _ hfacet, find?_exported live hlive]
  cases live.facet? facet with
  | none => rfl
  | some on => exact congrArg some (Value.textIsOn_flagText on)

/-- An exported item gives back the value of the setting, if it had one. -/
theorem value_exportItem (h : live.Alike now) (hraw : live.raw.isSome)
    (attributes : List (String × Option String)) :
    (now.withStored (exportItem live).value attributes).value = live.value := by
  rw [h.value_withStored]
  show live.rule.clean (some (live.value.getD (live.raw.getD ""))) = live.value
  obtain ⟨raw, hraw⟩ := Option.isSome_iff_exists.1 hraw
  cases hvalue : live.value with
  | none =>
    rw [Option.getD_none, hraw, Option.getD_some, ← hraw]
    exact hvalue
  | some value =>
    obtain ⟨source, -, hsource⟩ := Option.bind_eq_some_iff.1 hvalue
    exact ValueRule.cleanText_cleaned hsource

end Exchange

namespace Service

variable {service : Service} {request : ExportRequest} {snapshot : Snapshot}

def exportHeading (service : Service) (request : ExportRequest) : Heading where
  name := request.name
  comments := request.comments
  author := request.author
  user := request.user
  site := some service.identity.url
  release := some service.identity.release

/-- The document that an export makes of a site. -/
def exported (service : Service) (request : ExportRequest) (snapshot : Snapshot) : Document where
  name := request.name
  comments := request.comments
  author := request.author
  site := some service.identity.url
  release := some service.identity.release
  timeCreated := some service.clock
  items := Exchange.exportItems request service.exclusions snapshot

/-- A site that can be read is exported, if there is anything to export. -/
theorem exists_exportSite (hsnapshot : Snapshot.ofSite service.site = .ok snapshot)
    (hclock : fitsColumn service.clock) (huser : request.user.all fitsColumn)
    (hsome : (service.exported request snapshot).items ≠ []) :
    ∃ preset library, service.exportSite request = .ok (preset, service.withLibrary library) ∧
      preset.id = service.library.nextPresetId ∧
        preset.document = service.exported request snapshot := by
  have hzero : fitsColumn 0 := by decide
  have hfits : (service.exportHeading request).Fits service.clock :=
    ⟨hclock, hzero, hzero, rfl, huser⟩
  have hplaced : (service.exported request snapshot).items.map Item.placed =
      (service.exported request snapshot).items := Exchange.placed_exportItems _ _ _
  have hnodup : ((service.exported request snapshot).items.map fun item => item.placed.key).Nodup := by
    have hkeys : (((service.exported request snapshot).items.map Item.placed).map Item.key).Nodup := by
      rw [hplaced]
      exact Exchange.nodup_exportItems hsnapshot
    rwa [List.map_map] at hkeys
  obtain ⟨first, rows, library, hcreate, hadd, hrows⟩ :=
    @Library.exists_filled service.library _ _ _ hfits hnodup
  rw [hplaced] at hrows
  have hrest : rows ≠ [] := by
    rintro rfl
    exact hsome hrows.symm
  refine ⟨{ (service.exportHeading request).preset service.library.nextPresetId service.clock with
    items := rows }, library, ?_, rfl, ?_⟩
  · refine bind_eq_ok.2 ⟨snapshot, ofStore_eq_ok.2 hsnapshot, bind_eq_ok.2 ⟨_, hcreate, ?_⟩⟩
    exact bind_eq_ok.2 ⟨_, hadd, if_neg fun hempty => hrest (List.isEmpty_iff.1 hempty)⟩
  · show { service.exported request snapshot with items := rows.map StoredItem.item } = _
    rw [hrows]

/-- An export that succeeds has stored the wanted settings of the site. -/
theorem exportSite_eq_ok {preset : Preset} {after : Service}
    (h : service.exportSite request = .ok (preset, after)) :
    ∃ snapshot, Snapshot.ofSite service.site = .ok snapshot ∧
      preset.items.map StoredItem.item =
        Exchange.exportItems request service.exclusions snapshot := by
  obtain ⟨snapshot, hsnapshot, h⟩ := bind_eq_ok.1 h
  obtain ⟨⟨created, first⟩, hcreate, h⟩ := bind_eq_ok.1 h
  obtain ⟨⟨filled, second⟩, hitems, h⟩ := bind_eq_ok.1 h
  obtain ⟨⟨_, hcreated⟩, -⟩ := Library.create_eq_ok hcreate
  have hrows := Library.items_of_addItems hitems
  rw [hcreated, Exchange.placed_exportItems] at hrows
  refine ⟨snapshot, ofStore_eq_ok.1 hsnapshot, ?_⟩
  dsimp only at h
  split at h
  · cases h
  · rw [← (Prod.mk.inj (Except.ok.inj h)).1]
    exact hrows

theorem mem_exportItems {preset : Preset} {after : Service} {row : StoredItem}
    (h : service.exportSite request = .ok (preset, after)) (hrow : row ∈ preset.items) :
    ∃ snapshot, Snapshot.ofSite service.site = .ok snapshot ∧
      row.item ∈ Exchange.exportItems request service.exclusions snapshot := by
  obtain ⟨snapshot, hsnapshot, hitems⟩ := exportSite_eq_ok h
  exact ⟨snapshot, hsnapshot, hitems ▸ List.mem_map_of_mem hrow⟩

end Service

end SitePresets
