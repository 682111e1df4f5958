import SitePresets.Proofs.Service.Integrity

/-!
# Nothing is inherited

Numbers are given again after a deletion, but nothing that belonged to the old holder of a number comes
with it. So a session that starts with an empty library keeps its ledgers in order.
-/

namespace SitePresets

namespace Service

/-- What a step leaves has nothing of what was deleted before, though it may have its number. -/
structure InheritsNothing (service after : Service) : Prop where
  /-- A preset with a new number has new rows only, and new applications. -/
  newPreset : ∀ preset ∈ after.library.presets,
    preset.id ∉ service.library.presets.map Preset.id →
      (∀ row ∈ preset.items, row.id ∉ service.library.itemIds) ∧
        (∀ row ∈ preset.plugins, row.id ∉ service.library.pluginIds) ∧
          ∀ application ∈ after.library.applications, application.presetId = preset.id →
            application.id ∉ service.library.applications.map Application.id
  /-- An application with a new number refers to new changes only. -/
  newApplication : ∀ application ∈ after.library.applications,
    application.id ∉ service.library.applications.map Application.id →
      ∀ logId ∈ application.rows.filterMap LedgerRow.logId?,
        service.site.store.nextChangeId ≤ logId
  /-- Another preset keeps its rows, and those that it gets are new. -/
  preset : ∀ preset ∈ after.library.presets, ∀ old ∈ service.library.presets, old.id = preset.id →
    old.Extends service.library.nextItemId service.library.nextPluginId preset
  /-- Another application keeps its owner, and it gets no rows. -/
  application : ∀ application ∈ after.library.applications,
    ∀ old ∈ service.library.applications, old.id = application.id →
      application.presetId = old.presetId ∧ application.rows.Sublist old.rows

variable {service after : Service}

/-- The applications that an advance adds have new numbers and refer to new changes. -/
structure AddsApplications (service after : Service) : Prop where
  nextChangeId_le : service.site.store.nextChangeId ≤ after.site.store.nextChangeId
  applications : ∃ more, after.library.applications = service.library.applications ++ more ∧
    ∀ application ∈ more, service.library.nextApplicationId ≤ application.id ∧
      ∀ logId ∈ application.rows.filterMap LedgerRow.logId?,
        service.site.store.nextChangeId ≤ logId

namespace AddsApplications

theorem of_eq (hle : service.site.store.nextChangeId ≤ after.site.store.nextChangeId)
    (happlications : after.library.applications = service.library.applications) :
    service.AddsApplications after where
  nextChangeId_le := hle
  applications :=
    ⟨[], happlications.trans (List.append_nil _).symm, fun _ happlication => nomatch happlication⟩

theorem nextApplicationId_le (h : service.AddsApplications after) :
    service.library.nextApplicationId ≤ after.library.nextApplicationId := by
  obtain ⟨more, hmore, -⟩ := h.applications
  refine Numbering.next_mono ?_
  rw [hmore]
  exact List.map_subset _ (List.subset_append_left _ _)

theorem trans {middle : Service} (h : service.AddsApplications middle)
    (h' : middle.AddsApplications after) : service.AddsApplications after where
  nextChangeId_le := Nat.le_trans h.nextChangeId_le h'.nextChangeId_le
  applications := by
    obtain ⟨first, hfirst, hnew⟩ := h.applications
    obtain ⟨second, hsecond, hnew'⟩ := h'.applications
    refine ⟨first ++ second, by rw [hsecond, hfirst, List.append_assoc],
      fun application happlication => ?_⟩
    rcases List.mem_append.1 happlication with happlication | happlication
    · exact hnew application happlication
    · obtain ⟨hid, hlogs⟩ := hnew' application happlication
      exact ⟨Nat.le_trans h.nextApplicationId_le hid,
        fun logId hlogId => Nat.le_trans h.nextChangeId_le (hlogs logId hlogId)⟩

theorem of_advances (h : service.Integral) (hadvances : service.Advances .textual after) :
    service.AddsApplications after := by
  induction hadvances with
  | settled hsite hlibrary => exact of_eq (hsite ▸ Nat.le_refl _) (hlibrary ▸ rfl)
  | declared | guarded => exact of_eq (Nat.le_refl _) rfl
  | site hsite => exact of_eq hsite.nextChangeId_le rfl
  | library hlibrary => exact of_eq (Nat.le_refl _) hlibrary.applications_eq
  | @applied service preset request report progress hpreset hrun =>
    have hle := (Apply.evolves_run hrun).nextChangeId_le
    rcases service.record_cases preset request.user report progress with
      hafter | ⟨application, -, hid, -, hrows, hafter⟩
    · rw [hafter]
      exact of_eq hle rfl
    · rw [hafter]
      obtain ⟨-, -, hnew⟩ := Apply.refers_of_run hrun h.apart (h.orderly.sound preset hpreset)
        (h.orderly.values preset hpreset)
      refine ⟨hle, [application], rfl, fun other hother => ?_⟩
      obtain rfl := List.mem_singleton.1 hother
      refine ⟨Nat.le_of_eq hid.symm, fun logId hlogId => hnew logId ?_⟩
      rw [hrows] at hlogId
      exact ((LedgerRow.arrange_perm progress.rows).filterMap _).subset hlogId
  | trans hfirst _ ih ih' => exact (ih h).trans (ih' (h.advances hfirst))

end AddsApplications

namespace InheritsNothing

theorem of_advances (h : service.Integral) (hadvances : service.Advances .textual after) :
    service.InheritsNothing after := by
  have hgrows := hadvances.grows h.orderly
  have hintegral := h.advances hadvances
  obtain ⟨-, more, hmore, hnew⟩ := AddsApplications.of_advances h hadvances
  have hcases (application : Application) (happlication : application ∈ after.library.applications) :
      application ∈ service.library.applications ∨ application ∈ more := by
    rw [hmore] at happlication
    exact List.mem_append.1 happlication
  have hfresh (application : Application) (happlication : application ∈ more) :
      application.id ∉ service.library.applications.map Application.id := fun hold =>
    Nat.lt_irrefl _ (Nat.lt_of_lt_of_le (Numbering.lt_next hold) (hnew application happlication).1)
  have hid (preset stored : Preset) (hpreset : preset ∈ after.library.presets)
      (hstored : stored ∈ after.library.presets) (heq : preset.id = stored.id) : preset = stored :=
    List.inj_on_of_nodup_map hintegral.orderly.presets hpreset hstored heq
  exact {
    newPreset := by
      intro stored hstored hnewId
      obtain ⟨preset, hextends, hpreset | ⟨-, hitems, hplugins⟩⟩ := hgrows.origin stored hstored
      · exact absurd (hextends.id_eq ▸ List.mem_map_of_mem hpreset) hnewId
      · refine ⟨fun row hrow hold => ?_, fun row hrow hold => ?_,
          fun application happlication hown hold => ?_⟩
        · obtain ⟨rows, hrows, hlow⟩ := hextends.items
          rw [hrows, hitems] at hrow
          exact Nat.lt_irrefl _ (Nat.lt_of_lt_of_le (Numbering.lt_next hold) (hlow row hrow))
        · obtain ⟨rows, hrows, hlow⟩ := hextends.plugins
          rw [hrows, hplugins] at hrow
          exact Nat.lt_irrefl _ (Nat.lt_of_lt_of_le (Numbering.lt_next hold) (hlow row hrow))
        · rcases hcases application happlication with happlication | happlication
          · obtain ⟨owner, howner, hownerId, -⟩ := h.owned application happlication
            exact hnewId (hown ▸ hownerId ▸ List.mem_map_of_mem howner)
          · exact hfresh application happlication hold
    newApplication := by
      intro application happlication hnewId
      rcases hcases application happlication with happlication | happlication
      · exact absurd (List.mem_map_of_mem happlication) hnewId
      · exact (hnew application happlication).2
    preset := by
      intro stored hstored old hold heq
      obtain ⟨found, hfound, hextends, -⟩ := hgrows.kept old hold
      rwa [hid stored found hstored hfound (heq.symm.trans hextends.id_eq.symm)]
    application := by
      intro application happlication old hold heq
      rcases hcases application happlication with happlication | happlication
      · rw [List.inj_on_of_nodup_map h.applications hold happlication heq]
        exact ⟨rfl, .refl _⟩
      · exact absurd (heq ▸ List.mem_map_of_mem hold) (hfresh application happlication) }

/-- A step that only takes away leaves nothing new. -/
theorem of_taken (h : service.Integral)
    (hpresets : after.library.presets ⊆ service.library.presets)
    (happlications : ∀ application ∈ after.library.applications,
      ∃ old ∈ service.library.applications, old.id = application.id ∧
        application.presetId = old.presetId ∧ application.rows.Sublist old.rows) :
    service.InheritsNothing after where
  newPreset preset hpreset hnewId := absurd (List.mem_map_of_mem (hpresets hpreset)) hnewId
  newApplication application happlication hnewId := by
    obtain ⟨old, hold, hid, -⟩ := happlications application happlication
    exact absurd (hid ▸ List.mem_map_of_mem hold) hnewId
  preset preset hpreset old hold heq := by
    rw [List.inj_on_of_nodup_map h.orderly.presets hold (hpresets hpreset) heq]
    exact .refl _
  application application happlication old hold heq := by
    obtain ⟨found, hfound, hid, hsame⟩ := happlications application happlication
    rw [List.inj_on_of_nodup_map h.applications hold hfound (heq.trans hid.symm)]
    exact hsame

theorem of_becomes (h : service.Integral) (hbecomes : service.Becomes .textual after) :
    service.InheritsNothing after := by
  cases hbecomes with
  | advanced hadvances => exact of_advances h hadvances
  | @reduced site application rows hsite happlication hrows =>
    refine of_taken h ?_ fun other hother => ?_
    · show (service.library.keepRows application rows).presets ⊆ _
      rw [Library.presets_keepRows]
      exact List.Subset.refl _
    · have hother : other ∈ (service.library.keepRows application rows).applications := hother
      unfold Library.keepRows at hother
      split at hother
      · exact ⟨other, (List.mem_filter.1 hother).1, rfl, rfl, .refl _⟩
      · obtain ⟨found, hfound, rfl⟩ := List.mem_map.1 hother
        split
        · exact ⟨application, happlication, rfl, rfl, hrows⟩
        · exact ⟨found, hfound, rfl, rfl, .refl _⟩
  | deleted =>
    exact of_taken h (List.filter_subset_self _) fun other hother =>
      ⟨other, (List.mem_filter.1 hother).1, rfl, rfl, .refl _⟩

end InheritsNothing

/-! ### Sessions -/

theorem becomes_textual (service : Service) {step : Step} (hstep : step.Within .textual) :
    service.Becomes .textual (service.after step) :=
  .of_step (fun _ _ => trivial) (fun _ => rfl) hstep

theorem Integral.run (h : service.Integral) {steps : List Step}
    (hsteps : ∀ step ∈ steps, step.Within .textual) : (service.run steps).2.Integral := by
  induction steps generalizing service with
  | nil => exact h
  | cons step rest ih =>
    have hnext := h.becomes (service.becomes_textual (hsteps step List.mem_cons_self))
    exact ih hnext fun step hstep => hsteps step (List.mem_cons_of_mem _ hstep)

theorem Integral.of_empty (hlibrary : service.library = {})
    (hroot : service.site.tree.FacetsApart) : service.Integral where
  apart := hroot
  orderly := by
    rw [hlibrary]
    exact ⟨.nil, .nil, .nil, fun _ hpreset => absurd hpreset List.not_mem_nil,
      fun _ hpreset => absurd hpreset List.not_mem_nil⟩
  applications := by
    rw [hlibrary]
    exact .nil
  owned application happlication := by
    rw [hlibrary] at happlication
    exact absurd happlication List.not_mem_nil
  nonempty application happlication := by
    rw [hlibrary] at happlication
    exact absurd happlication List.not_mem_nil
  logIds := by
    rw [hlibrary]
    exact .nil

theorem stateOf_eq_applied (service : Service) (preset : Preset) :
    service.library.stateOf preset = .applied ↔
      ∃ application ∈ service.library.applications, application.presetId = preset.id := by
  unfold Library.stateOf
  simp

/-- A session that starts with an empty library keeps its ledgers in order: every application belongs to
a preset and refers to changes of its own, a preset is applied if it owns an application, and no step
hands down anything of what was deleted. -/
theorem ledgers_in_order {service : Service} (hlibrary : service.library = {})
    (hroot : service.site.tree.FacetsApart) {steps : List Step}
    (hsteps : ∀ step ∈ steps, step.Within .textual) :
    (service.run steps).2.Integral ∧
      (∀ preset ∈ (service.run steps).2.library.presets,
        (service.run steps).2.library.stateOf preset = .applied ↔
          ∃ application ∈ (service.run steps).2.library.applications,
            application.presetId = preset.id) ∧
        ∀ step : Step, step.Within .textual →
          (service.run steps).2.InheritsNothing ((service.run steps).2.after step) := by
  have hintegral := (Integral.of_empty hlibrary hroot).run hsteps
  refine ⟨hintegral, fun preset _ => stateOf_eq_applied _ preset, fun step hstep => ?_⟩
  exact .of_becomes hintegral (becomes_textual _ hstep)

end Service

namespace SmallSite

/-- The small site over a new database, without any presets. -/
def bareService : Service where
  site := { store := .rows { Rows.empty with plugins := .ofList [(chat, 1)] }, tree }

/-- A preset is stored, applied and deleted, and another one gets its number. -/
def turnover : List Step := [
  .library (.create { name := "Quiet" }),
  .library (.addItem 1 { key := notice, value := some "closed", attributes := [] }),
  .apply 1 {} none,
  .library (.delete 1),
  .library (.create { name := "Loud" }),
  .library (.addItem 1 { key := notice, value := some "open", attributes := [] }),
  .apply 1 {} none]

theorem turnover_in_order :
    (bareService.run turnover).2.Integral ∧
      (∀ preset ∈ (bareService.run turnover).2.library.presets,
        (bareService.run turnover).2.library.stateOf preset = .applied ↔
          ∃ application ∈ (bareService.run turnover).2.library.applications,
            application.presetId = preset.id) ∧
        ∀ step : Step, step.Within .textual →
          (bareService.run turnover).2.InheritsNothing ((bareService.run turnover).2.after step) :=
  Service.ledgers_in_order rfl tree_facetsApart
    (by simp [turnover, Step.Within, Limits.textual])

/-- The other preset has an application of its own, with the number of the first and the next change. -/
example : (bareService.run turnover).2.library.applications.map
    (fun application => (application.id, application.presetId, application.rows)) =
      [(1, 1, [.setting 2])] := by
  decide +kernel

end SmallSite

end SitePresets
