import SitePresets.Proofs.Service.Advance
import SitePresets.Proofs.Service.References

/-!
# The integrity of ledgers

Every application belongs to a preset that is there, and its rows refer to the items of that preset.
Each change is referred to once. All that can be done to a service preserves that.
-/

namespace SitePresets

/-- The items of presets have values, and the facets of declared settings are apart. -/
def Limits.textual : Limits where
  values value := value.isSome
  trees := Node.FacetsApart

/-- The changes that the ledgers of all applications refer to. -/
def Library.logIds (library : Library) : List Nat :=
  (library.applications.flatMap Application.rows).filterMap LedgerRow.logId?

namespace Service

/-- A service whose rows all belong to what is there. -/
structure Integral (service : Service) : Prop where
  apart : service.site.tree.FacetsApart
  /-- Each number stands for one preset, one item, one plugin row, or one application. -/
  orderly : service.library.Orderly .textual
  applications : (service.library.applications.map Application.id).Nodup
  /-- Every application belongs to a preset, and its rows refer to the items of that preset. -/
  owned : ∀ application ∈ service.library.applications, ∃ preset ∈ service.library.presets,
    preset.id = application.presetId ∧
      ∀ row ∈ application.rows, row.RefersIn service.site.store preset.items
  nonempty : ∀ application ∈ service.library.applications, application.rows ≠ []
  /-- No two rows refer to one change. -/
  logIds : service.library.logIds.Nodup

variable {service after : Service}

namespace Integral

theorem logId_lt (h : service.Integral) {logId : Nat} (hid : logId ∈ service.library.logIds) :
    logId < service.site.store.nextChangeId := by
  obtain ⟨row, hrow, hid⟩ := List.mem_filterMap.1 hid
  obtain ⟨application, happlication, hrow⟩ := List.mem_flatMap.1 hrow
  obtain ⟨preset, -, -, hrefers⟩ := h.owned application happlication
  exact (hrefers row hrow).lt hid

/-- What is there may become other things, as long as the changes of the log stay. -/
theorem evolves (h : service.Integral) {site : Site} (hsite : service.site.Evolves site) :
    Integral { service with site } where
  apart := (Site.Moves.of_evolves hsite).tree_eq ▸ h.apart
  orderly := h.orderly
  applications := h.applications
  owned application happlication := by
    obtain ⟨preset, hpreset, hid, hrefers⟩ := h.owned application happlication
    exact ⟨preset, hpreset, hid, fun row hrow =>
      (hrefers row hrow).mono (List.Subset.refl _) fun _ hlogs => hsite.logs hlogs⟩
  nonempty := h.nonempty
  logIds := h.logIds

theorem fills (h : service.Integral) {library : Library}
    (hlibrary : service.library.Fills .textual library) : (service.withLibrary library).Integral where
  apart := h.apart
  orderly := hlibrary.orderly h.orderly
  applications := by
    show (library.applications.map Application.id).Nodup
    rw [hlibrary.applications_eq]
    exact h.applications
  owned application happlication := by
    have happlication : application ∈ library.applications := happlication
    rw [hlibrary.applications_eq] at happlication
    obtain ⟨preset, hpreset, hid, hrefers⟩ := h.owned application happlication
    obtain ⟨stored, hstored, hextends, -⟩ := (hlibrary.grows h.orderly).kept preset hpreset
    exact ⟨stored, hstored, hextends.id_eq.trans hid, fun row hrow =>
      (hrefers row hrow).mono hextends.items_subset fun _ hlogs => hlogs⟩
  nonempty application happlication := by
    have happlication : application ∈ library.applications := happlication
    rw [hlibrary.applications_eq] at happlication
    exact h.nonempty application happlication
  logIds := by
    show library.logIds.Nodup
    unfold Library.logIds
    rw [hlibrary.applications_eq]
    exact h.logIds

theorem withApplication (h : service.Integral) {application : Application} {preset : Preset}
    (hpreset : preset ∈ service.library.presets)
    (hid : application.id = service.library.nextApplicationId)
    (hpresetId : application.presetId = preset.id) (hrows : application.rows ≠ [])
    (hrefers : ∀ row ∈ application.rows, row.RefersIn service.site.store preset.items)
    (hnodup : (application.rows.filterMap LedgerRow.logId?).Nodup)
    (hnew : ∀ logId ∈ application.rows.filterMap LedgerRow.logId?, logId ∉ service.library.logIds) :
    (service.withLibrary (service.library.withApplication application)).Integral where
  apart := h.apart
  orderly := h.orderly.of_sublist (.refl _)
  applications := by
    show ((service.library.applications ++ [application]).map Application.id).Nodup
    rw [List.map_append, List.nodup_append]
    refine ⟨h.applications, List.nodup_singleton _, fun id hold other hother heq => ?_⟩
    rw [heq, List.mem_singleton.1 hother, hid] at hold
    exact Numbering.next_not_mem _ hold
  owned other hother := by
    rcases List.mem_append.1 hother with hother | hother
    · exact h.owned other hother
    · obtain rfl := List.mem_singleton.1 hother
      exact ⟨preset, hpreset, hpresetId.symm, hrefers⟩
  nonempty other hother := by
    rcases List.mem_append.1 hother with hother | hother
    · exact h.nonempty other hother
    · exact List.mem_singleton.1 hother ▸ hrows
  logIds := by
    show (((service.library.applications ++ [application]).flatMap Application.rows).filterMap
      LedgerRow.logId?).Nodup
    rw [List.flatMap_append, List.flatMap_singleton, List.filterMap_append, List.nodup_append]
    exact ⟨h.logIds, hnodup, fun logId hold other hother heq => hnew other hother (heq ▸ hold)⟩

theorem applied (h : service.Integral) {preset : Preset} {request : ApplyRequest}
    {report : ApplyReport} {progress : Progress} (hpreset : preset ∈ service.library.presets)
    (hrun : Apply.run request service.site preset = .ok (report, progress)) :
    (service.record preset request.user report progress).2.Integral := by
  have hsite := h.evolves (Apply.evolves_run hrun)
  rcases service.record_cases preset request.user report progress with
    hafter | ⟨application, hnil, hid, hpresetId, hrows, hafter⟩
  · rw [hafter]
    exact hsite
  · rw [hafter]
    obtain ⟨hrefers, hnodup, hnew⟩ := Apply.refers_of_run hrun h.apart (h.orderly.sound preset hpreset)
      (h.orderly.values preset hpreset)
    have hperm : application.rows.Perm progress.rows := hrows ▸ LedgerRow.arrange_perm progress.rows
    refine (hsite.fills (Library.fills_stamped hpreset service.clock)).withApplication
      (Library.mem_replacePreset hpreset rfl) hid hpresetId ?_ ?_ ?_ ?_
    · exact fun heq => hnil (List.nil_perm.1 (heq ▸ hperm))
    · exact fun row hrow => hrefers row (hperm.subset hrow)
    · exact (hperm.filterMap _).nodup_iff.2 hnodup
    · intro logId hid hold
      have hlt := h.logId_lt hold
      have hle := hnew logId ((hperm.filterMap _).subset hid)
      omega

theorem advances (h : service.Integral) (hadvances : service.Advances .textual after) :
    after.Integral := by
  induction hadvances with
  | @settled service after hsite hlibrary =>
    obtain ⟨site, library, locked, clock, exclusions, identity, patience⟩ := after
    obtain rfl := hsite
    obtain rfl := hlibrary
    exact ⟨h.apart, h.orderly, h.applications, h.owned, h.nonempty, h.logIds⟩
  | declared htree => exact { h with apart := htree }
  | guarded => exact { h with apart := h.apart }
  | site hsite => exact h.evolves hsite
  | library hlibrary => exact h.fills hlibrary
  | applied hpreset hrun => exact h.applied hpreset hrun
  | trans _ _ hfirst hrest => exact hrest (hfirst h)

/-- Presets and applications may go, as long as no application stays behind without its preset. -/
theorem of_sublist (h : service.Integral) {library : Library}
    (hpresets : library.presets.Sublist service.library.presets)
    (happlications : library.applications.Sublist service.library.applications)
    (howned : ∀ application ∈ library.applications, ∀ preset ∈ service.library.presets,
      preset.id = application.presetId → preset ∈ library.presets) :
    (service.withLibrary library).Integral where
  apart := h.apart
  orderly := h.orderly.of_sublist hpresets
  applications := h.applications.sublist (happlications.map _)
  owned application happlication := by
    obtain ⟨preset, hpreset, hid, hrefers⟩ := h.owned application (happlications.subset happlication)
    exact ⟨preset, howned application happlication preset hpreset hid, hid, hrefers⟩
  nonempty application happlication := h.nonempty application (happlications.subset happlication)
  logIds := h.logIds.sublist ((happlications.flatMap _).filterMap _)

theorem without (h : service.Integral) (preset : Preset) :
    (service.withLibrary (service.library.without preset)).Integral := by
  refine h.of_sublist List.filter_sublist List.filter_sublist
    fun application happlication other hother hid => ?_
  have hne := (List.mem_filter.1 happlication).2
  rw [← hid] at hne
  exact List.mem_filter.2 ⟨hother, hne⟩

theorem keepRows (h : service.Integral) {application : Application} {rows : List LedgerRow}
    (happlication : application ∈ service.library.applications)
    (hrows : rows.Sublist application.rows) :
    (service.withLibrary (service.library.keepRows application rows)).Integral := by
  unfold Library.keepRows
  split
  · exact h.of_sublist (.refl _) List.filter_sublist fun _ _ _ hother _ => hother
  · rename_i hnil
    obtain ⟨front, back, happlications, hreplaced⟩ :=
      Library.exists_replaceApplication { application with rows } h.applications happlication rfl
    rw [hreplaced]
    have hold (other : Application) (hother : other ∈ front ++ { application with rows } :: back) :
        other = { application with rows } ∨ other ∈ service.library.applications := by
      rw [happlications]
      simp only [List.mem_append, List.mem_cons] at hother ⊢
      tauto
    exact {
      apart := h.apart
      orderly := h.orderly.of_sublist (.refl _)
      applications := by
        have hids := h.applications
        rw [happlications] at hids
        show ((front ++ { application with rows } :: back).map Application.id).Nodup
        simpa using hids
      owned := by
        intro other hother
        rcases hold other hother with rfl | hother
        · obtain ⟨preset, hpreset, hid, hrefers⟩ := h.owned application happlication
          exact ⟨preset, hpreset, hid, fun row hrow => hrefers row (hrows.subset hrow)⟩
        · exact h.owned other hother
      nonempty := by
        intro other hother
        rcases hold other hother with rfl | hother
        · exact hnil
        · exact h.nonempty other hother
      logIds := by
        have hids := h.logIds
        unfold Library.logIds at hids
        rw [happlications, List.flatMap_append, List.flatMap_cons] at hids
        show (((front ++ { application with rows } :: back).flatMap Application.rows).filterMap
          LedgerRow.logId?).Nodup
        rw [List.flatMap_append, List.flatMap_cons]
        refine hids.sublist (List.Sublist.filterMap _ ?_)
        exact (List.Sublist.refl _).append (hrows.append (.refl _)) }

theorem becomes (h : service.Integral) (hbecomes : service.Becomes .textual after) :
    after.Integral := by
  cases hbecomes with
  | advanced hadvances => exact h.advances hadvances
  | reduced hsite happlication hrows => exact (h.evolves hsite).keepRows happlication hrows
  | deleted => exact h.without _

end Integral

end Service

end SitePresets
