import SitePresets.Proofs.Apply.Plugins
import SitePresets.Proofs.Service.Recording

/-!
# Previews

A preview and the real run from the same state report the same. Both judge by the snapshot at the
start, so what the real run has written by then decides nothing; and each plugin is looked at before
it is set.
-/

namespace SitePresets

/-! ### What only a real run has -/

def FacetChange.unnumbered (change : FacetChange) : FacetChange :=
  { change with logId := none }

/-- The entry without numbers of the log. -/
def Entry.unnumbered (entry : Entry) : Entry :=
  { entry with
    logId := none, facets := entry.facets.map fun (name, change) => (name, change.unnumbered) }

namespace ApplyReport

/-- The report of a preview that says the same. -/
def asPreview (report : ApplyReport) : ApplyReport where
  presetId := report.presetId
  applicationId := none
  simulated := true
  cancelled := report.cancelled
  applied := report.applied.map Entry.unnumbered
  skipped := report.skipped.map Entry.unnumbered
  notApplicable := report.notApplicable.map Entry.unnumbered
  failed := report.failed.map Entry.unnumbered
  plugins := report.plugins.map Entry.unnumbered

theorem asPreview_add (report : ApplyReport) (entry : Entry) :
    (report.add entry).asPreview = report.asPreview.add entry.unnumbered := by
  have hstatus : entry.unnumbered.status = entry.status := rfl
  unfold add
  rw [hstatus]
  cases entry.status <;> simp [asPreview]

end ApplyReport

def ApplyRequest.preview (request : ApplyRequest) : ApplyRequest :=
  { request with simulate := true }

/-- Whether it depends on the writes so far when a run is cancelled. -/
def Cancellation.CountsWrites : Cancellation → Prop
  | .afterWrites _ => True
  | _ => False

theorem Cancellation.isDue_eq {cancellation : Cancellation} (h : ¬ cancellation.CountsWrites)
    (index writes other : Nat) :
    cancellation.isDue index writes = cancellation.isDue index other := by
  cases cancellation with
  | afterWrites count => exact absurd trivial h
  | _ => rfl

namespace Apply

open Progress

variable {request : ApplyRequest} {snapshot : Snapshot} {start progress : Progress}

/-! ### Items -/

theorem preview_writeFacets (hreal : request.simulate = false) (live : Descriptor)
    {facets : List (Facet × Bool)} (entry : Entry)
    (hwritable : progress.site.Writable request.user
      (facets.map fun (facet, on) => ⟨live, some facet, some (Value.flagText on)⟩)) :
    writeFacets request.preview live entry.unnumbered start facets =
      ((writeFacets request live entry progress facets).1.unnumbered, start) := by
  induction facets generalizing entry progress with
  | nil => rfl
  | cons row rest ih =>
    obtain ⟨facet, on⟩ := row
    rw [List.map_cons] at hwritable
    have hfirst := hwritable.of_subset (List.cons_subset_cons _ (List.nil_subset _))
    rcases progress.write_cases request.user ⟨live, some facet, some (Value.flagText on)⟩ with
      ⟨refusal, -, hrefused⟩ | ⟨change, after, hwrite, hmade⟩
    · exact absurd hfirst hrefused
    · have hwrite : progress.write request.simulate
          (·.writeFacet live facet (some (Value.flagText on)) request.user)
          (.facet · live.key.name facet) = .ok (some change.id, after) := hreal ▸ hwrite
      have hpreview : start.write request.preview.simulate
          (·.writeFacet live facet (some (Value.flagText on)) request.preview.user)
          (.facet · live.key.name facet) = .ok (none, start) := rfl
      rw [writeFacets, writeFacets, hwrite, hpreview]
      have hrest := ih {
        entry with
        status := .applied, reason := none
        facets := entry.facets ++ [(facet.name, {
          old := (live.facet? facet).map Value.flagText, new := some (Value.flagText on)
          logId := some (Int.ofNat change.id) })] } (hmade.writable (hwritable.of_subset (List.subset_cons_self _ _)))
      simpa [Entry.unnumbered, FacetChange.unnumbered] using hrest

theorem preview_writeWanted (hreal : request.simulate = false) (live wanted : Descriptor)
    (entry : Entry) (hwritable : progress.site.Writable request.user (planWanted live wanted)) :
    writeWanted request.preview live wanted entry.unnumbered start =
      ((writeWanted request live wanted entry progress).1.unnumbered, start) := by
  unfold planWanted at hwritable
  unfold writeWanted
  split
  · rename_i hequals
    rw [if_pos hequals] at hwritable
    exact preview_writeFacets hreal live { entry with reason := some Reason.unchanged } hwritable
  · rename_i hdiffers
    rw [if_neg hdiffers] at hwritable
    have hvalue := hwritable.of_subset (List.cons_subset_cons _ (List.nil_subset _))
    rcases progress.write_cases request.user ⟨live, none, wanted.value⟩ with
      ⟨refusal, -, hrefused⟩ | ⟨change, after, hwrite, hmade⟩
    · exact absurd hvalue hrefused
    · have hwrite : progress.write request.simulate (·.write live wanted.value request.user)
          .setting = .ok (some change.id, after) := hreal ▸ hwrite
      have hpreview : start.write request.preview.simulate
          (·.write live wanted.value request.preview.user) .setting = .ok (none, start) := rfl
      dsimp only
      rw [hwrite, hpreview]
      exact preview_writeFacets hreal live
        { entry with
          new := wanted.value, status := .applied, logId := some (Int.ofNat change.id) }
        (hmade.writable (hwritable.of_subset (List.subset_cons_self _ _)))

theorem preview_applyItem (hreal : request.simulate = false) (item : Item)
    (hwritable : progress.site.Writable request.user (plan request snapshot item)) :
    applyItem request.preview snapshot item start =
      ((applyItem request snapshot item progress).1.unnumbered, start) := by
  have hjudge : judge request.preview snapshot item = judge request snapshot item := rfl
  unfold plan at hwritable
  unfold applyItem
  rw [hjudge]
  cases h : judge request snapshot item with
  | wanted live wanted =>
    rw [h] at hwritable
    exact preview_writeWanted hreal live wanted
      { key := item.key, status := .unchanged, new := item.value
        visibleName := some live.declared.label, old := live.value } hwritable
  | _ => rfl

theorem asPreview_foldl_add (items : List Item) (report : ApplyReport) :
    (items.foldl (fun report item => report.add (cancelledEntry item)) report).asPreview =
      items.foldl (fun report item => report.add (cancelledEntry item)) report.asPreview := by
  induction items generalizing report with
  | nil => rfl
  | cons item rest ih =>
    rw [List.foldl_cons, List.foldl_cons, ih, ApplyReport.asPreview_add]
    rfl

theorem preview_applyItems (hreal : request.simulate = false)
    (hcancellation : ¬ request.cancellation.CountsWrites) {items : List Item} (index : Nat)
    (report : ApplyReport)
    (hwritable : progress.site.Writable request.user (items.flatMap (plan request snapshot))) :
    applyItems request.preview snapshot index report.asPreview start items =
      ((applyItems request snapshot index report progress items).1.asPreview, start) := by
  induction items generalizing index report progress with
  | nil => rfl
  | cons item rest ih =>
    have hdue : request.preview.cancellation.isDue index start.writes =
        request.cancellation.isDue index progress.writes :=
      Cancellation.isDue_eq hcancellation _ _ _
    rw [List.flatMap_cons] at hwritable
    rw [applyItems_cons, applyItems_cons, hdue]
    split
    · exact congrArg (·, start)
        (asPreview_foldl_add (item :: rest) { report with cancelled := true }).symm
    · have hitem := hwritable.of_subset (List.subset_append_left _ _)
      have hperforms : progress.Performs request.user (plan request snapshot item) _ :=
        performs_applyItem hreal item progress
      obtain ⟨writes, hmade, -, -⟩ := hperforms
      have hrest := hmade.writable (hwritable.of_subset (List.subset_append_right _ _))
      rw [preview_applyItem hreal item hitem]
      dsimp only
      rw [← ApplyReport.asPreview_add]
      exact ih (index + 1) _ hrest

/-! ### Plugins -/

theorem preview_applyPlugin (hreal : request.simulate = false) {row : StoredPlugin}
    (hsame : progress.site.store.plugin? row.plugin = start.site.store.plugin? row.plugin)
    (hpinned : progress.site.pinned = []) (hfits : progress.site.store.holds row.enabled) :
    applyPlugin request.preview start row =
      ((applyPlugin request progress row).1.unnumbered, start) := by
  unfold applyPlugin
  rw [hsame]
  cases hcurrent : start.site.store.plugin? row.plugin with
  | none => rfl
  | some current =>
    dsimp only
    split
    · rfl
    · have hnot : row.plugin ∉ progress.site.pinned := by
        rw [hpinned]
        exact List.not_mem_nil
      obtain ⟨after, hset⟩ : ∃ after,
          progress.setPlugin request.simulate row.plugin row.enabled = .ok after := by
        rw [hreal]
        exact ⟨_, bind_eq_ok.2 ⟨_, Site.setPlugin_eq_ok.2
          ⟨hnot, hsame.trans hcurrent, hfits, rfl⟩, rfl⟩⟩
      rw [hset]
      rfl

theorem plugin_applyPlugin (hreal : request.simulate = false) (row : StoredPlugin) {other : Plugin}
    (hother : other ≠ row.plugin) :
    (applyPlugin request progress row).2.site.store.plugin? other =
        progress.site.store.plugin? other := by
  unfold applyPlugin
  dsimp only
  rw [hreal]
  split
  · rfl
  · split
    · rfl
    · split
      · rfl
      · rename_i after hset
        obtain ⟨⟨old, site⟩, hsite, h⟩ := bind_eq_ok.1 hset
        obtain rfl := Except.ok.inj h
        exact (Site.plugin_of_setPlugin hsite other).trans (if_neg hother)

theorem preview_applyPlugins (hreal : request.simulate = false) {plugins : List StoredPlugin}
    (hnodup : (plugins.map StoredPlugin.plugin).Nodup)
    (hsame : ∀ row ∈ plugins,
      progress.site.store.plugin? row.plugin = start.site.store.plugin? row.plugin)
    (hpinned : progress.site.pinned = [])
    (hfits : ∀ row ∈ plugins, progress.site.store.holds row.enabled) (entries : List Entry) :
    applyPlugins request.preview (entries.map Entry.unnumbered) start plugins =
      ((applyPlugins request entries progress plugins).1.map Entry.unnumbered, start) := by
  induction plugins generalizing entries progress with
  | nil => rfl
  | cons row rest ih =>
    rw [List.map_cons, List.nodup_cons] at hnodup
    obtain ⟨rows, hrow⟩ := switched_applyPlugin hreal progress row
    rw [applyPlugins_cons, applyPlugins_cons, preview_applyPlugin hreal (hsame row List.mem_cons_self) hpinned
      (hfits row List.mem_cons_self)]
    have hsame' : ∀ other ∈ rest, (applyPlugin request progress row).2.site.store.plugin? other.plugin =
        start.site.store.plugin? other.plugin := by
      intro other hother
      rw [plugin_applyPlugin hreal row]
      · exact hsame other (List.mem_cons_of_mem _ hother)
      · rintro heq
        exact hnodup.1 (heq ▸ List.mem_map_of_mem hother)
    have hpinned' := hrow.switches.pinned_eq.trans hpinned
    have hfits' : ∀ other ∈ rest,
        (applyPlugin request progress row).2.site.store.holds other.enabled := by
      intro other hother
      rw [hrow.switches.values.holds_eq]
      exact hfits other (List.mem_cons_of_mem _ hother)
    simpa using ih hnodup.2 hsame' hpinned' hfits'
      (entries ++ [(applyPlugin request progress row).1])

/-! ### A preview changes nothing -/

theorem progress_writeFacets (hpreview : request.simulate = true) (live : Descriptor)
    (facets : List (Facet × Bool)) (entry : Entry) (progress : Progress) :
    (writeFacets request live entry progress facets).2 = progress := by
  induction facets generalizing entry with
  | nil => rfl
  | cons row rest ih =>
    have hwrite : progress.write request.simulate
        (·.writeFacet live row.1 (some (Value.flagText row.2)) request.user)
        (.facet · live.key.name row.1) = .ok (none, progress) := by
      rw [hpreview]
      rfl
    rw [writeFacets, hwrite]
    exact ih _

theorem progress_applyItem (hpreview : request.simulate = true) (item : Item) (progress : Progress) :
    (applyItem request snapshot item progress).2 = progress := by
  unfold applyItem
  cases judge request snapshot item with
  | wanted live wanted =>
    have hwrite : progress.write request.simulate (·.write live wanted.value request.user)
        .setting = .ok (none, progress) := by
      rw [hpreview]
      rfl
    dsimp only
    unfold writeWanted
    split
    · exact progress_writeFacets hpreview _ _ _ _
    · dsimp only
      rw [hwrite]
      exact progress_writeFacets hpreview _ _ _ _
  | _ => rfl

theorem progress_applyItems (hpreview : request.simulate = true) (items : List Item) (index : Nat)
    (report : ApplyReport) (progress : Progress) :
    (applyItems request snapshot index report progress items).2 = progress := by
  induction items generalizing index report with
  | nil => rfl
  | cons item rest ih =>
    rw [applyItems_cons]
    split
    · rfl
    · rw [progress_applyItem hpreview]
      exact ih _ _

theorem progress_applyPlugin (hpreview : request.simulate = true) (row : StoredPlugin)
    (progress : Progress) : (applyPlugin request progress row).2 = progress := by
  unfold applyPlugin
  dsimp only
  rw [hpreview]
  split
  · rfl
  · split <;> rfl

/-- A preview looks at each plugin as it was at the start. -/
theorem applyPlugins_of_preview (hpreview : request.simulate = true) (plugins : List StoredPlugin)
    (entries : List Entry) (progress : Progress) :
    applyPlugins request entries progress plugins =
      (entries ++ plugins.map fun row => (applyPlugin request progress row).1, progress) := by
  induction plugins generalizing entries with
  | nil => rw [List.map_nil, List.append_nil]; rfl
  | cons row rest ih =>
    rw [applyPlugins_cons, progress_applyPlugin hpreview, ih, List.append_assoc]
    rfl

theorem progress_applyPlugins (hpreview : request.simulate = true) (plugins : List StoredPlugin)
    (entries : List Entry) (progress : Progress) :
    (applyPlugins request entries progress plugins).2 = progress := by
  rw [applyPlugins_of_preview hpreview]

theorem progress_run {site : Site} {preset : Preset} {report : ApplyReport}
    (hpreview : request.simulate = true)
    (hrun : run request site preset = .ok (report, progress)) : progress = { site } := by
  obtain ⟨snapshot, hsnapshot, -⟩ := bind_eq_ok.1 hrun
  have hitems : (overItems request snapshot site preset).2 = { site } :=
    progress_applyItems hpreview _ _ _ _
  cases hcancelled : (overItems request snapshot site preset).1.cancelled with
  | true =>
    rw [run_of_cancelled hsnapshot hcancelled] at hrun
    rw [← (Prod.mk.inj (Except.ok.inj hrun)).2, hitems]
  | false =>
    rw [run_of_not_cancelled hsnapshot hcancelled] at hrun
    rw [← (Prod.mk.inj (Except.ok.inj hrun)).2, progress_applyPlugins hpreview, hitems]

/-! ### Whole runs -/

theorem preview_overItems {site : Site} (hreal : request.simulate = false)
    (hcancellation : ¬ request.cancellation.CountsWrites) (preset : Preset)
    (hwritable : site.Writable request.user
      ((preset.items.map StoredItem.item).flatMap (plan request snapshot))) :
    overItems request.preview snapshot site preset =
      ((overItems request snapshot site preset).1.asPreview, { site }) := by
  have hreport : ApplyReport.asPreview { presetId := preset.id, simulated := request.simulate } =
      { presetId := preset.id, simulated := request.preview.simulate } := rfl
  unfold overItems
  rw [← hreport]
  exact preview_applyItems hreal hcancellation 0 _ hwritable

theorem preview_run {site : Site} {preset : Preset} (hreal : request.simulate = false)
    (hcancellation : ¬ request.cancellation.CountsWrites)
    (hsnapshot : Snapshot.ofSite site = .ok snapshot)
    (hprotected : site.readOnly = []) (hpinned : site.pinned = []) (huser : request.user.all fitsColumn)
    (hnodup : (preset.plugins.map StoredPlugin.plugin).Nodup)
    (hfits : ∀ row ∈ preset.plugins, site.store.holds row.enabled) :
    run request.preview site preset =
      (run request site preset).map fun result => (result.1.asPreview, { site }) := by
  have hwritable : site.Writable request.user
      ((preset.items.map StoredItem.item).flatMap (plan request snapshot)) :=
    writable_plan hsnapshot hprotected (Store.accepts_of_fits huser _) _
  have hover := preview_overItems hreal hcancellation preset hwritable
  cases hcancelled : (overItems request snapshot site preset).1.cancelled with
  | true =>
    have hpreview : (overItems request.preview snapshot site preset).1.cancelled = true := by
      rw [hover]
      exact hcancelled
    rw [run_of_cancelled hsnapshot hcancelled, run_of_cancelled hsnapshot hpreview, hover]
    simp [Except.map, ApplyReport.asPreview, Entry.unnumbered, pluginEntry, Function.comp_def]
  | false =>
    have hpreview : (overItems request.preview snapshot site preset).1.cancelled = false := by
      rw [hover]
      exact hcancelled
    obtain ⟨reached, -, ⟨writes, hmade, -, -⟩, -⟩ : ∃ reached, reached <+: _ ∧
        Progress.Performs { site } request.user (reached.flatMap (plan request snapshot))
          (overItems request snapshot site preset).2 ∧ _ :=
      performs_applyItems hreal _ _ _ _
    have hkeeps := hmade.wrote.keeps
    have hfits' : ∀ row ∈ preset.plugins,
        (overItems request snapshot site preset).2.site.store.holds row.enabled := by
      intro row hrow
      rw [hkeeps.holds_eq]
      exact hfits row hrow
    have hplugins : applyPlugins request.preview [] { site } preset.plugins =
        ((applyPlugins request [] (overItems request snapshot site preset).2
          preset.plugins).1.map Entry.unnumbered, { site }) :=
      preview_applyPlugins hreal hnodup (fun row _ => hkeeps.plugin_eq row.plugin)
        (hkeeps.pinned_eq.trans hpinned) hfits' []
    rw [run_of_not_cancelled hsnapshot hcancelled, run_of_not_cancelled hsnapshot hpreview, hover,
      hplugins]
    rfl

/-- A preview leaves everything as it is. -/
theorem apply_preview_eq_self (service : Service) (presetId : Int) (request : ApplyRequest)
    (timeout : Option Int) : (service.apply presetId request.preview timeout).2 = service := by
  rcases service.apply_cases presetId request.preview timeout with
    ⟨error, happly⟩ | ⟨preset, report, progress, -, -, hrun, -, happly⟩ |
      ⟨preset, progress, -, -, -, hbegins, -⟩
  · rw [happly]
  · obtain rfl := progress_run rfl hrun
    rw [happly, Service.record_of_nil rfl]
  · obtain ⟨begun, -, -, report, hrun⟩ := hbegins.run_eq
    obtain rfl := progress_run rfl hrun
    exact absurd rfl hbegins.rows_ne_nil

/-- A preview tells the truth: it leaves everything as it is, and the real apply from the same state
reports the same, except for the numbers that only a real run has. -/
theorem preview_tells_truth (service : Service) (presetId : Int) {request : ApplyRequest}
    (timeout : Option Int) (hreal : request.simulate = false)
    (hcancellation : ¬ request.cancellation.CountsWrites)
    (hsound : service.library.Sound)
    (hdistinct : ∀ preset, service.library.getPreset presetId = .ok preset →
      (preset.plugins.map StoredPlugin.plugin).Nodup)
    (hprotected : service.site.readOnly = []) (hpinned : service.site.pinned = [])
    (huser : request.user.all fitsColumn) (hclock : fitsColumn service.clock)
    (hstates : ∀ preset, service.library.getPreset presetId = .ok preset →
      preset.StatesFit service.site.store) :
    (service.apply presetId request.preview timeout).2 = service ∧
      (service.apply presetId request.preview timeout).1 =
        (service.apply presetId request timeout).1.map ApplyReport.asPreview := by
  refine ⟨apply_preview_eq_self service presetId request timeout, ?_⟩
  cases hpreset : service.library.getPreset presetId with
  | error error =>
    unfold Service.apply
    rw [hpreset]
    rfl
  | ok preset =>
    cases hlocked : service.locked with
    | true =>
      have hlock : ∃ error, service.checkLock timeout = .error error := by
        unfold Service.checkLock
        rw [hlocked]
        exact ⟨_, rfl⟩
      obtain ⟨error, hlock⟩ := hlock
      unfold Service.apply
      rw [hpreset, ok_bind, hlock]
      rfl
    | false =>
      cases hsnapshot : Snapshot.ofSite service.site with
      | error refusal =>
        unfold Service.apply run
        rw [hpreset, ok_bind, Service.checkLock_eq_ok.2 hlocked, ok_bind, hsnapshot]
        rfl
      | ok snapshot =>
        have hfits : ∀ row ∈ preset.plugins, service.site.store.holds row.enabled := by
          intro row hrow
          exact Store.holds_of_fits
            ((hsound preset (Library.mem_of_getPreset hpreset)).plugins row hrow) _
        have hpreview := preview_run hreal hcancellation hsnapshot hprotected hpinned huser
          (hdistinct preset hpreset) hfits
        obtain ⟨report, middle, progress, reached, rows, hrun, -⟩ :=
          exists_ran hreal hsnapshot preset
        rw [hrun] at hpreview
        have hrecord := Library.canRecord_iff.2 ⟨hclock, huser⟩
        rw [Service.apply_of_run hpreset hlocked hrun fun _ => hrecord,
          Service.apply_of_run hpreset hlocked hpreview fun _ => hrecord, Service.record_of_nil rfl]
        by_cases hnil : progress.rows = []
        · rw [Service.record_of_nil hnil]
          rfl
        · have hrows := fits_of_run hreal hrun
            (hsound preset (Library.mem_of_getPreset hpreset)).plugins (hstates preset hpreset)
          obtain ⟨application, library, -, hrecord⟩ :=
            Service.record_of_ne_nil preset report hnil hrecord hrows
          rw [hrecord]
          rfl

end Apply

namespace SmallSite

theorem preview_of_quiet :
    (service.apply 2 (ApplyRequest.preview {}) none).2 = service ∧
      (service.apply 2 (ApplyRequest.preview {}) none).1 =
        (service.apply 2 {} none).1.map ApplyReport.asPreview := by
  have hpreset : service.library.getPreset 2 = .ok (preset 2 [⟨1, chat, 0⟩]) := by decide
  have hdistinct (stored : Preset) (h : service.library.getPreset 2 = .ok stored) :
      (stored.plugins.map StoredPlugin.plugin).Nodup := by
    rw [← Except.ok.inj (hpreset.symm.trans h)]
    decide
  have hstates (stored : Preset) (h : service.library.getPreset 2 = .ok stored) :
      stored.StatesFit service.site.store :=
    Except.ok.inj (hpreset.symm.trans h) ▸ preset_statesFit
  exact Apply.preview_tells_truth service 2 none rfl id library_sound hdistinct rfl rfl rfl rfl
    hstates

/-- A preview writes nothing for its user. The apply that follows writes for one whom the database has no
place for, and fails at what was previewed as applied. -/
theorem preview_of_wide_user :
    (newService.apply 1 (ApplyRequest.preview { user := wideUser }) none).1.map
        (fun report => (report.applied.map Entry.key, report.failed.map Entry.key)) =
          .ok ([notice, comments], []) ∧
      (newService.apply 1 { user := wideUser } none).1.map
        (fun report => (report.applied.map Entry.key, report.failed.map Entry.key)) =
          .ok ([], [notice, comments]) := by
  decide +kernel

end SmallSite

end SitePresets
