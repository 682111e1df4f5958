import SitePresets.Proofs.Apply.Restoring
import SitePresets.Proofs.Service.Retention

/-!
# Export and apply

An export keeps a site: whatever a session does to the values afterwards, applying the exported preset
brings back all that it could export.
-/

namespace SitePresets

namespace Service

variable {service : Service} {request : ExportRequest} {snapshot : Snapshot}

/-- An apply of an export restores the site. It succeeds, all settings of the export are known, and only
those fail whose values were none of them. If no value has changed, it changes nothing. -/
theorem exported_restores (hroot : service.site.tree.FacetsApart)
    (horderly : service.library.Orderly {}) (hsnapshot : Snapshot.ofSite service.site = .ok snapshot)
    (hsome : snapshot.inOrder ≠ []) (hclock : fitsColumn service.clock)
    (huser : request.user.all fitsColumn) (hroom : fitsColumn service.library.nextPresetId)
    (hall : request.selected = none) (hsensitive : request.includeSensitive) :
    ∃ preset library, service.exportSite request = .ok (preset, service.withLibrary library) ∧
      ∀ (steps : List Step) (after : Service) (again : ApplyRequest) (timeout : Option Int),
        (∀ step ∈ steps, step.Within (.sparing preset service.site.tree)) →
        ((service.withLibrary library).run steps).2 = after →
        service.site.store.SamePlugins after.site.store →
        after.locked = false → fitsColumn after.clock → Apply.Unhindered again after.site →
          ∃ report last, after.apply preset.id again timeout = (.ok report, last) ∧
            report.Restores snapshot after.site last.site ∧
              ((∀ key, after.site.store.get key = service.site.store.get key) →
                report.applied = [] ∧ last = after) := by
  have hitems : (service.exported request snapshot).items =
      snapshot.inOrder.map Exchange.exportItem := Exchange.exportItems_all hall hsensitive snapshot
  obtain ⟨preset, library, hexport, hid, hdocument⟩ := exists_exportSite hsnapshot hclock huser
    (by rw [hitems]; exact fun hnil => hsome (List.map_eq_nil_iff.1 hnil))
  refine ⟨preset, library, hexport, ?_⟩
  rintro steps after again timeout hsteps rfl hplugins hlock hclock' hunhindered
  have hopen : service.library.Open {} := fun _ _ => trivial
  obtain ⟨hadvances, hpreset⟩ := Advances.of_exportSite hopen (fun _ => trivial) hexport
  have horderly' := hadvances.orderly horderly
  have hretains : (service.withLibrary library).Retains preset service.site := {
    persists := .refl _
    stored := ⟨preset, hpreset, rfl, rfl, rfl⟩
    orderly := ⟨horderly'.presets, horderly'.items, horderly'.plugins, horderly'.sound,
      fun _ _ _ _ => trivial⟩ }
  have hretained := hretains.run hsteps
  obtain ⟨stored, hstored, hrows, hstates⟩ := hretained.exists_getPreset (hid ▸ hroom)
  have hpresetItems : preset.items.map StoredItem.item = snapshot.inOrder.map Exchange.exportItem :=
    (congrArg Document.items hdocument).trans hitems
  have hpresetPlugins : preset.plugins = [] :=
    List.map_eq_nil_iff.1 (congrArg Document.plugins hdocument)
  obtain ⟨report, progress, hrun, hrestores, hidle⟩ := Apply.run_exported hroot hretained.persists
    hplugins hsnapshot hunhindered (hrows ▸ hpresetItems) (hstates.trans hpresetPlugins)
  have hrecordable : Library.canRecord ((service.withLibrary library).run steps).2.clock again.user =
      true := Library.canRecord_iff.2 ⟨hclock', hunhindered.user⟩
  have happly : ((service.withLibrary library).run steps).2.apply preset.id again timeout = _ :=
    apply_of_run hstored hlock hrun fun _ => hrecordable
  by_cases hnil : progress.rows = []
  · rw [record_of_nil hnil] at happly
    refine ⟨report, _, happly, hrestores, fun hget => ?_⟩
    obtain ⟨happlied, rfl⟩ := hidle hget
    exact ⟨happlied, rfl⟩
  · obtain ⟨application, recorded, -, hrecord⟩ :=
      record_of_ne_nil stored report hnil hrecordable
        (Apply.fits_of_run_items hunhindered.real hrun (hstates.trans hpresetPlugins))
    rw [hrecord] at happly
    refine ⟨_, _, happly, hrestores.of_recorded _, fun hget => ?_⟩
    obtain ⟨-, rfl⟩ := hidle hget
    exact absurd rfl hnil

end Service

/-! ### A site with a value that is none -/

namespace SmallSite

def seats : Key := ⟨siteScope, "seats"⟩

/-- The small site with a number, which is set to something else. -/
def ratedService : Service where
  site := {
    store := .memory (.ofLists [(seats, some "many"), (comments, some "1")] [(chat, 1)])
    tree := .category "root" "" [.page "front" "" [
      .setting { name := "notice" },
      .setting { name := "seats", paramType := some "int" },
      .setting {
        name := "comments", settingClass := "admin_setting_configcheckbox_with_advanced" }]] }

def changes : List Step := [
  .site (.set notice (some "closed") none), .site (.set seats (some "5") none),
  .site (.set comments none none)]

theorem rated_restored :
    ∃ snapshot, Snapshot.ofSite ratedService.site = .ok snapshot ∧
      snapshot.inOrder.map (fun live => (live.key, live.value)) =
        [(notice, some ""), (seats, none), (comments, some "1")] ∧
      ∃ preset library,
        ratedService.exportSite { name := "All", includeSensitive := true } =
          .ok (preset, ratedService.withLibrary library) ∧
        ∃ report last, ((ratedService.withLibrary library).run changes).2.apply preset.id
            { override := true } none = (.ok report, last) ∧
          report.Restores snapshot ((ratedService.withLibrary library).run changes).2.site last.site := by
  have hsettings : (Snapshot.ofSite ratedService.site).map (fun snapshot =>
      snapshot.inOrder.map fun live => (live.key, live.value)) =
        .ok [(notice, some ""), (seats, none), (comments, some "1")] := by
    decide +kernel
  obtain ⟨snapshot, hsnapshot, hsettings⟩ := map_eq_ok.1 hsettings
  have hlibrary : ratedService.library.Orderly {} := Library.orderly_empty _
  have hsome : snapshot.inOrder ≠ [] := by
    intro hnil
    rw [hnil] at hsettings
    cases hsettings
  have hclock : fitsColumn 0 := by decide
  obtain ⟨preset, library, hexport, hrestores⟩ := @Service.exported_restores ratedService
    { name := "All", includeSensitive := true } snapshot (by decide) hlibrary hsnapshot hsome hclock rfl
    (by decide) rfl rfl
  refine ⟨snapshot, hsnapshot, hsettings, preset, library, hexport, ?_⟩
  obtain ⟨report, last, happly, hreport, -⟩ := hrestores changes _ { override := true } none
    (by simp [changes, Step.Within]) rfl ⟨fun _ => rfl, fun _ => .refl _⟩ rfl hclock
    ⟨rfl, rfl, rfl, rfl, rfl⟩
  exact ⟨report, last, happly, hreport⟩

/-- The small site over a database: all of its settings are exported, and one is changed after that. -/
def changedService : Service :=
  (newService.run [.library (.exportSite { name := "All", includeSensitive := true }),
    .site (.set notice (some "open") none)]).2

/-- All exported values are values of their settings. A database that has no place for the user of the apply
refuses to take the one back that was changed. -/
theorem not_restored_by_wide_user :
    (Snapshot.ofSite newService.site).map (fun snapshot =>
        snapshot.inOrder.map fun live => (live.key, live.value)) =
          .ok [(notice, some ""), (comments, some "0")] ∧
      (changedService.apply 3 { override := true, user := wideUser } none).1.map
        (fun report => (report.applied.map Entry.key, report.failed.map Entry.key)) =
          .ok ([], [notice]) ∧
        (changedService.apply 3 { override := true, user := wideUser } none).2.site.store.get notice =
          .ok (some "open") := by
  decide +kernel

end SmallSite

end SitePresets
