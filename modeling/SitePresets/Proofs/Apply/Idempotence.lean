import SitePresets.Proofs.Apply.Again

/-!
# A second apply

An apply is done once: the same apply after it applies nothing and leaves everything as it is. It reports
what the first one applied as unchanged, and all else as the first one did.
-/

namespace SitePresets

theorem Cancellation.isDue_mono {cancellation : Cancellation} {index writes more : Nat}
    (hle : writes ≤ more) (h : cancellation.isDue index writes) : cancellation.isDue index more := by
  cases cancellation with
  | never => exact h
  | afterWrites count =>
    have hcount : count ≤ writes := of_decide_eq_true h
    exact decide_eq_true (Nat.le_trans hcount hle)
  | beforeRow stop => exact h

namespace Apply

variable {request : ApplyRequest} {snapshot later : Snapshot}

/-! ### Items -/

/-- A run over items that writes no more for each of them than another one is cancelled no sooner. -/
theorem applyItems_uncancelled (hreal : request.simulate = false) {site after : Site}
    {items : List Item} {index : Nat} {report : ApplyReport} (other : ApplyReport)
    {progress start : Progress} (hkeeps : site.Keeps progress.site) (hkeeps' : after.Keeps start.site)
    (hread : ∀ planned ∈ items.flatMap (plan request snapshot),
      ∃ old, progress.site.store.get planned.key = .ok old)
    (hread' : ∀ planned ∈ items.flatMap (plan request later),
      ∃ old, start.site.store.get planned.key = .ok old)
    (hle : start.writes ≤ progress.writes)
    (hfewer : ∀ item ∈ items,
      ((plan request later item).takeWhile (after.permits request.user)).length ≤
        ((plan request snapshot item).takeWhile (site.permits request.user)).length)
    (huncancelled :
      (applyItems request snapshot index report progress items).1.cancelled = false) :
    (applyItems request later index other start items).1.cancelled = other.cancelled := by
  induction items generalizing index report other progress start with
  | nil => rfl
  | cons item rest ih =>
    rw [applyItems_cons] at huncancelled ⊢
    rw [List.flatMap_cons, List.forall_mem_append] at hread hread'
    split at huncancelled
    · rw [(foldl_add_cancelled _ _).1] at huncancelled
      cases huncancelled
    · rename_i hdue
      rw [if_neg fun h => hdue (Cancellation.isDue_mono hle h)]
      obtain ⟨-, -, writes, hmade, hwrites⟩ := carries_applyItem hreal item progress hread.1
      obtain ⟨-, -, more, hmore, hmores⟩ := carries_applyItem hreal item start hread'.1
      have hcount := hfewer item List.mem_cons_self
      rw [← hkeeps.permits_eq, ← hkeeps'.permits_eq, ← hwrites, ← hmores, List.length_map,
        List.length_map] at hcount
      refine (ih (other.add _) (hkeeps.trans hmade.wrote.keeps) (hkeeps'.trans hmore.wrote.keeps)
        (fun planned hplanned => hmade.wrote.staysReadable _ (hread.2 planned hplanned))
        (fun planned hplanned => hmore.wrote.staysReadable _ (hread'.2 planned hplanned)) ?_
        (fun item hitem => hfewer item (List.mem_cons_of_mem _ hitem)) huncancelled).trans
          (cancelled_add _ _)
      rw [hmade.writes_eq, hmore.writes_eq]
      exact Nat.add_le_add hle hcount

/-- A run over the items of another one, over what that has made of the site. -/
theorem Carried.applyItems_again {site after : Site} {items : List Item}
    {writes : List (Planned × Change)} (h : Carried request site snapshot items after writes)
    (hreal : request.simulate = false) (hlater : Snapshot.ofSite after = .ok later)
    {report : ApplyReport} (other : ApplyReport)
    (huncancelled : (applyItems request snapshot 0 report { site } items).1.cancelled = false)
    (hother : other.cancelled = false) :
    (applyItems request later 0 other { site := after } items).1.cancelled = false ∧
      ∃ more entries,
        Progress.Made { site := after } more
          (applyItems request later 0 other { site := after } items).2 ∧
        (more.map Prod.fst).map Planned.brief =
          (items.flatMap (lapsed request snapshot site)).map Planned.brief ∧
        other.Files entries (applyItems request later 0 other { site := after } items).1 ∧
        entries.map Entry.brief =
          items.map fun item => (item.key, outcomeAgain request snapshot site item) := by
  have hsettles (item : Item) (hitem : item ∈ items) := h.settles hlater hitem
  have hfewer (item : Item) (hitem : item ∈ items) :
      ((plan request later item).takeWhile (after.permits request.user)).length ≤
        ((plan request snapshot item).takeWhile (site.permits request.user)).length := by
    have hlength := congrArg List.length (hsettles item hitem).2
    rw [List.length_map, List.length_map] at hlength
    exact hlength.trans_le (List.length_filter_le _ _)
  have hcancelled :
      (applyItems request later 0 other { site := after } items).1.cancelled = false :=
    (applyItems_uncancelled hreal other (.refl site) (.refl after)
      (fun planned => readable_plan h.reads) (fun planned => readable_plan hlater) (Nat.le_refl 0)
      hfewer huncancelled).trans hother
  obtain ⟨more, entries, hmore, hmores, hfiles, hentries⟩ := outcome_of_applyItems hreal
    (.refl after) (fun planned => readable_plan hlater) hcancelled
  refine ⟨hcancelled, more, entries, hmore, ?_, hfiles, ?_⟩
  · rw [hmores, List.map_flatMap, List.map_flatMap]
    exact List.flatMap_congr fun item hitem => (hsettles item hitem).2
  · rw [hentries]
    exact List.map_congr_left fun item hitem => congrArg (item.key, ·) (hsettles item hitem).1

/-! ### Plugins -/

theorem applyPlugin_idle (hreal : request.simulate = false) {progress : Progress} {row : StoredPlugin}
    (h : (applyPlugin request progress row).1.status ≠ .applied) :
    (applyPlugin request progress row).2 = progress ∧
      ∀ other : Progress, progress.site.SameState other.site row.plugin →
        applyPlugin request other row = ((applyPlugin request progress row).1, other) := by
  unfold applyPlugin at h ⊢
  rw [hreal] at h ⊢
  cases hcurrent : progress.site.store.plugin? row.plugin with
  | none =>
    refine ⟨rfl, fun other hother => ?_⟩
    rw [hother.plugin_eq, hcurrent]
  | some current =>
    rw [hcurrent] at h
    dsimp only at h ⊢
    by_cases hstate : 0 < current ↔ 0 < row.enabled
    · rw [if_pos hstate]
      refine ⟨rfl, fun other hother => ?_⟩
      rw [hother.plugin_eq, hcurrent]
      dsimp only
      rw [if_pos hstate]
    · rw [if_neg hstate] at h ⊢
      cases hset : progress.site.setPlugin row.plugin row.enabled with
      | ok result =>
        have hplugin : ∃ after, progress.setPlugin false row.plugin row.enabled = .ok after := by
          unfold Progress.setPlugin
          rw [if_neg Bool.false_ne_true, hset]
          exact ⟨_, rfl⟩
        obtain ⟨after, hplugin⟩ := hplugin
        rw [hplugin] at h
        exact absurd rfl h
      | error refusal =>
        have hrefused (other : Progress) (hother : progress.site.SameState other.site row.plugin) :
            other.setPlugin false row.plugin row.enabled = .error refusal := by
          unfold Progress.setPlugin
          rw [Site.setPlugin_eq_error, ← hother.pluginRefusal_eq, ← Site.setPlugin_eq_error] at hset
          rw [if_neg Bool.false_ne_true, hset]
          rfl
        rw [hrefused progress ⟨rfl, rfl, rfl⟩]
        refine ⟨rfl, fun other hother => ?_⟩
        rw [hother.plugin_eq, hcurrent]
        dsimp only
        rw [if_neg hstate, hrefused other hother]

theorem mem_applyPlugins {entry : Entry} (plugins : List StoredPlugin) (progress : Progress)
    {entries : List Entry} (h : entry ∈ entries) :
    entry ∈ (applyPlugins request entries progress plugins).1 := by
  induction plugins generalizing entries progress with
  | nil => exact h
  | cons row rest ih => exact ih _ (List.mem_append_left _ h)

/-- A run over plugins that has set none depends on the site only, and leaves it as it is. -/
theorem applyPlugins_idle (hreal : request.simulate = false) {plugins : List StoredPlugin}
    {entries : List Entry} {progress : Progress}
    (h : ∀ entry ∈ (applyPlugins request entries progress plugins).1, entry.status ≠ .applied) :
    (applyPlugins request entries progress plugins).2 = progress ∧
      ∀ other : Progress, (∀ plugin, progress.site.SameState other.site plugin) →
        applyPlugins request entries other plugins =
          ((applyPlugins request entries progress plugins).1, other) := by
  induction plugins generalizing entries with
  | nil => exact ⟨rfl, fun _ _ => rfl⟩
  | cons row rest ih =>
    rw [applyPlugins_cons] at h ⊢
    obtain ⟨hsame, hother⟩ := applyPlugin_idle hreal
      (h _ (mem_applyPlugins rest _ (List.mem_append_right _ List.mem_cons_self)))
    rw [hsame] at h ⊢
    obtain ⟨hrest, hothers⟩ := ih h
    refine ⟨hrest, fun other hsite => ?_⟩
    rw [applyPlugins_cons, hother other (hsite row.plugin)]
    exact hothers other hsite

end Apply

/-! ### The second report -/

/-- A report that says again what a first one said, except that what was applied is unchanged now. -/
structure ApplyReport.Repeats (report again : ApplyReport) : Prop where
  applied_eq : again.applied = []
  skipped_perm : (again.skipped.map Entry.brief).Perm (report.skipped.map Entry.brief ++
    report.applied.map fun entry => (entry.key, .unchanged, some Reason.unchanged))
  notApplicable_eq : again.notApplicable.map Entry.brief = report.notApplicable.map Entry.brief
  failed_eq : again.failed.map Entry.brief = report.failed.map Entry.brief
  plugins_eq : again.plugins = report.plugins
  cancelled_eq : again.cancelled = false
  applicationId_eq : again.applicationId = none

namespace Apply

/-- What an entry says the second time. -/
def settledBrief (brief : Key × Status × Option String) : Key × Status × Option String :=
  (brief.1, settled brief.2)

theorem settledBrief_of_applied {brief : Key × Status × Option String} (h : brief.2.1 = .applied) :
    settledBrief brief = (brief.1, .unchanged, some Reason.unchanged) := by
  unfold settledBrief settled
  rw [if_pos h]

theorem settledBrief_of_not_applied {brief : Key × Status × Option String}
    (h : brief.2.1 ≠ .applied) : settledBrief brief = brief := by
  unfold settledBrief settled
  rw [if_neg h]

theorem settledBrief_ne_applied (brief : Key × Status × Option String) :
    (settledBrief brief).2.1 ≠ .applied := by
  by_cases hbrief : brief.2.1 = .applied
  · rw [settledBrief_of_applied hbrief]
    exact fun h => nomatch h
  · rwa [settledBrief_of_not_applied hbrief]

theorem filter_settled {test : Status → Bool} (happlied : test .applied = false)
    (hunchanged : test .unchanged = false) (briefs : List (Key × Status × Option String)) :
    (briefs.map settledBrief).filter (fun brief => test brief.2.1) =
      briefs.filter fun brief => test brief.2.1 := by
  induction briefs with
  | nil => rfl
  | cons brief rest ih =>
    rw [List.map_cons, List.filter_cons, List.filter_cons, ih]
    by_cases hbrief : brief.2.1 = .applied
    · rw [settledBrief_of_applied hbrief, hbrief, happlied, hunchanged]
      rfl
    · rw [settledBrief_of_not_applied hbrief]

theorem filter_isSkipped_settled (briefs : List (Key × Status × Option String)) :
    ((briefs.map settledBrief).filter fun brief => brief.2.1.isSkipped).Perm
      ((briefs.filter fun brief => brief.2.1.isSkipped) ++
        (briefs.filter fun brief => brief.2.1 = .applied).map settledBrief) := by
  induction briefs with
  | nil => rfl
  | cons brief rest ih =>
    rw [List.map_cons, List.filter_cons, List.filter_cons, List.filter_cons]
    by_cases hbrief : brief.2.1 = .applied
    · rw [settledBrief_of_applied hbrief, hbrief]
      simpa [Status.isSkipped, settledBrief_of_applied hbrief] using
        (ih.cons _).trans List.perm_middle.symm
    · rw [settledBrief_of_not_applied hbrief, decide_eq_false hbrief]
      split
      · exact ih.cons brief
      · exact ih

theorem repeats_of_tells {report again : ApplyReport} {briefs : List (Key × Status × Option String)}
    (htells : report.Tells briefs) (hagain : again.Tells (briefs.map settledBrief))
    (hplugins : again.plugins = report.plugins) (hcancelled : again.cancelled = false)
    (hid : again.applicationId = none) : report.Repeats again where
  applied_eq := by
    rw [← List.map_eq_nil_iff (f := Entry.brief), hagain.applied, List.filter_eq_nil_iff]
    intro brief hbrief
    obtain ⟨first, -, rfl⟩ := List.mem_map.1 hbrief
    simpa using settledBrief_ne_applied first
  skipped_perm := by
    have hunchanged : (report.applied.map fun entry =>
        (entry.key, Status.unchanged, some Reason.unchanged)) =
          (briefs.filter fun brief => brief.2.1 = .applied).map settledBrief := by
      rw [← htells.applied, List.map_map]
      refine List.map_congr_left fun entry hentry => ?_
      have hbrief : entry.brief ∈ report.applied.map Entry.brief := List.mem_map_of_mem hentry
      rw [htells.applied] at hbrief
      exact (settledBrief_of_applied (of_decide_eq_true (List.mem_filter.1 hbrief).2)).symm
    rw [hagain.skipped, htells.skipped, hunchanged]
    exact filter_isSkipped_settled briefs
  notApplicable_eq := by
    rw [hagain.notApplicable, htells.notApplicable]
    exact @filter_settled (fun status => decide (status = .notApplicable)) rfl rfl briefs
  failed_eq := by
    rw [hagain.failed, htells.failed]
    exact @filter_settled (fun status => decide (status = .failed)) rfl rfl briefs
  plugins_eq := hplugins
  cancelled_eq := hcancelled
  applicationId_eq := hid

variable {request : ApplyRequest} {site : Site} {preset : Preset} {report : ApplyReport}
  {progress : Progress}

/-- What a second run of a preset comes to over what the first one has left, if that set no plugins. -/
structure Reran (request : ApplyRequest) (snapshot : Snapshot) (site : Site) (preset : Preset)
    (report : ApplyReport) (progress : Progress) (writes more : List (Planned × Change))
    (again : ApplyReport) (last : Progress) : Prop where
  carried : Carried request site snapshot (preset.items.map StoredItem.item) progress.site writes
  made : Progress.Made { site } writes progress
  remade : Progress.Made { site := progress.site } more last
  rewrites : (more.map Prod.fst).map Planned.brief =
    ((preset.items.map StoredItem.item).flatMap (lapsed request snapshot site)).map Planned.brief
  tells : report.Tells ((preset.items.map StoredItem.item).map fun item =>
    (item.key, outcome request snapshot site item))
  tells_again : again.Tells ((preset.items.map StoredItem.item).map fun item =>
    (item.key, outcomeAgain request snapshot site item))
  plugins_eq : again.plugins = report.plugins
  cancelled_eq : again.cancelled = false
  applicationId_eq : again.applicationId = none

/-- What a run over the items of a preset has made of a site if it was not cancelled. -/
theorem exists_carried (hreal : request.simulate = false) (hroot : site.tree.FacetsApart)
    (hkeys : ((preset.items.map StoredItem.item).map Item.key).Nodup) {snapshot : Snapshot}
    (hsnapshot : Snapshot.ofSite site = .ok snapshot)
    (huncancelled : (overItems request snapshot site preset).1.cancelled = false) :
    ∃ writes, Progress.Made { site } writes (overItems request snapshot site preset).2 ∧
      Carried request site snapshot (preset.items.map StoredItem.item)
        (overItems request snapshot site preset).2.site writes ∧
      ∀ plugins, ApplyReport.Tells { (overItems request snapshot site preset).1 with plugins }
        ((preset.items.map StoredItem.item).map fun item =>
          (item.key, outcome request snapshot site item)) := by
  obtain ⟨writes, entries, hmade, hwrites, hfiles, hentries⟩ := outcome_of_applyItems hreal
    (.refl site) (fun planned => readable_plan hsnapshot) huncancelled
  have hmade : Progress.Made { site } writes (overItems request snapshot site preset).2 := hmade
  refine ⟨writes, hmade, ?_, fun plugins => hentries ▸ (hfiles.withPlugins plugins).tells rfl⟩
  exact {
    reads := hsnapshot
    apart := hroot
    keys := hkeys
    wrote := hmade.wrote
    fulfils := hmade.fulfils
    writes_eq := hwrites }

/-- A run of a preset that set no plugins can be followed by a second one. -/
theorem exists_rerun (stamped : Preset) (hreal : request.simulate = false) (hroot : site.tree.FacetsApart)
    (hkeys : ((preset.items.map StoredItem.item).map Item.key).Nodup) {snapshot : Snapshot}
    (hsnapshot : Snapshot.ofSite site = .ok snapshot)
    (hrun : run request site preset = .ok (report, progress)) (huncancelled : report.cancelled = false)
    (hplugins : ∀ entry ∈ report.plugins, entry.status ≠ .applied)
    (hitems : stamped.items = preset.items) (hstates : stamped.plugins = preset.plugins) :
    ∃ writes more again last, run request progress.site stamped = .ok (again, last) ∧
      Reran request snapshot site preset report progress writes more again last := by
  obtain ⟨hitemsrun, rfl, hprogress⟩ := run_uncancelled hsnapshot hrun huncancelled
  obtain ⟨hidle, hothers⟩ := applyPlugins_idle hreal hplugins
  rw [hidle] at hprogress
  subst hprogress
  obtain ⟨writes, hmade, hcarried, htells⟩ := exists_carried hreal hroot hkeys hsnapshot hitemsrun
  obtain ⟨later, hlater⟩ := hmade.wrote.keeps.exists_ofSite hmade.wrote.staysReadable hsnapshot
  obtain ⟨hcancelled, more, others, hmore, hrewrites, hrefiles, hothersbriefs⟩ :=
    hcarried.applyItems_again hreal hlater
      { presetId := stamped.id, simulated := request.simulate } hitemsrun rfl
  rw [← hitems] at hcancelled hmore hrefiles
  have hmore : Progress.Made { site := (overItems request snapshot site preset).2.site } more
      (overItems request later (overItems request snapshot site preset).2.site stamped).2 := hmore
  have hagain := run_of_not_cancelled hlater hcancelled
  rw [hstates, hothers _ hmore.wrote.keeps.sameState] at hagain
  exact ⟨writes, more, _, _, hagain, {
    carried := hcarried
    made := hmade
    remade := hmore
    rewrites := hrewrites
    tells := htells _
    tells_again := hothersbriefs ▸ (hrefiles.withPlugins _).tells rfl
    plugins_eq := rfl
    cancelled_eq := hcancelled
    applicationId_eq := applicationId_applyItems _ _ _ _ }⟩

/-- A second run of a preset over what the first one has left writes nothing. -/
theorem run_again (stamped : Preset) (hreal : request.simulate = false) (hroot : site.tree.FacetsApart)
    (hkeys : ((preset.items.map StoredItem.item).map Item.key).Nodup)
    (hvalues : ∀ row ∈ preset.items, row.item.value.isSome)
    (hrun : run request site preset = .ok (report, progress))
    (huncancelled : report.cancelled = false)
    (hplugins : ∀ entry ∈ report.plugins, entry.status ≠ .applied)
    (hitems : stamped.items = preset.items) (hstates : stamped.plugins = preset.plugins) :
    ∃ again, run request progress.site stamped = .ok (again, { site := progress.site }) ∧
      report.Repeats again := by
  obtain ⟨snapshot, hsnapshot, -⟩ := bind_eq_ok.1 hrun
  obtain ⟨writes, more, again, last, hagain, hreran⟩ :=
    exists_rerun stamped hreal hroot hkeys hsnapshot hrun huncancelled hplugins hitems hstates
  have hlasts : ∀ item ∈ preset.items.map StoredItem.item, lapsed request snapshot site item = [] :=
    List.forall_mem_map.2 fun row hrow => lapsed_of_value (hvalues row hrow) site
  have hrewrites := hreran.rewrites
  rw [List.flatMap_eq_nil_iff.2 hlasts, List.map_nil, List.map_eq_nil_iff, List.map_eq_nil_iff] at hrewrites
  obtain rfl := (hrewrites ▸ hreran.remade).eq_of_nil
  refine ⟨again, hagain, repeats_of_tells hreran.tells ?_ hreran.plugins_eq hreran.cancelled_eq
    hreran.applicationId_eq⟩
  rw [List.map_map]
  refine List.map_congr_left (fun item hitem => ?_) ▸ hreran.tells_again
  unfold outcomeAgain
  rw [hlasts item hitem]
  rfl

end Apply

/-! ### The service -/

theorem ApplyReport.Repeats.of_recorded {report again : ApplyReport} (h : report.Repeats again)
    (id : Option Nat) : { report with applicationId := id }.Repeats again :=
  ⟨h.applied_eq, h.skipped_perm, h.notApplicable_eq, h.failed_eq, h.plugins_eq, h.cancelled_eq,
    h.applicationId_eq⟩

/-- A preset that was applied is found with the time of it. -/
theorem Library.getPreset_of_recordApplication {library after : Library} {id now : Int}
    {preset : Preset} {user : Option Int} {rows : List LedgerRow} {application : Application}
    (hpreset : library.getPreset id = .ok preset)
    (h : library.recordApplication now preset user rows = .ok (application, after)) :
    after.getPreset id = .ok { preset with timeApplied := now } := by
  obtain ⟨-, rfl⟩ := eq_of_recordApplication h
  exact getPreset_replacePreset { preset with timeApplied := now } hpreset rfl

/-- An apply whose run has made writes records them, if it has made any. -/
theorem Service.apply_of_made {service : Service} {request : ApplyRequest} {presetId : Int}
    {preset : Preset} {report : ApplyReport} {progress : Progress} {writes : List (Planned × Change)}
    {timeout : Option Int} (hpreset : service.library.getPreset presetId = .ok preset)
    (hlock : service.locked = false)
    (hrun : Apply.run request service.site preset = .ok (report, progress))
    (hmade : Progress.Made { site := service.site } writes progress) (hid : report.applicationId = none)
    (hrecord : writes ≠ [] → Library.canRecord service.clock request.user = true) :
    ∃ id after, service.apply presetId request timeout =
        (.ok { report with applicationId := id }, after) ∧
      after.site = progress.site ∧ (id = none ↔ writes = []) ∧ (writes = [] → after = service) := by
  have hrows : progress.rows = writes.map fun write => write.1.row write.2.id := hmade.rows_eq
  have hwrote (hne : progress.rows ≠ []) : writes ≠ [] := by
    rintro rfl
    exact hne hrows
  have happly : service.apply presetId request timeout = _ :=
    apply_of_run hpreset hlock hrun fun hne => hrecord (hwrote hne)
  by_cases hnil : writes = []
  · subst hnil
    obtain rfl := hmade.eq_of_nil
    rw [record_of_nil rfl] at happly
    refine ⟨none, service, ?_, rfl, iff_of_true rfl rfl, fun _ => rfl⟩
    rw [← hid]
    exact happly
  · have hne : progress.rows ≠ [] := by
      rw [hrows]
      exact fun heq => hnil (List.map_eq_nil_iff.1 heq)
    have hfits : ∀ row ∈ progress.rows, row.Fits := by
      intro row hrow
      rw [hrows] at hrow
      obtain ⟨write, -, rfl⟩ := List.mem_map.1 hrow
      exact write.1.fits_row write.2.id
    obtain ⟨application, library, -, hrecorded⟩ :=
      record_of_ne_nil preset report hne (hrecord hnil) hfits
    exact ⟨some application.id, _, happly.trans hrecorded, rfl,
      iff_of_false (Option.some_ne_none _) hnil, fun heq => absurd heq hnil⟩

namespace Apply

variable {request : ApplyRequest} {service after : Service} {presetId : Int} {preset : Preset}
  {report : ApplyReport} {timeout : Option Int}

/-- The same apply again. It applies nothing and leaves the service as it is; what the first one applied
it reports as unchanged, and everything else as the first one did. -/
theorem apply_again (hroot : service.site.tree.FacetsApart) (hsound : service.library.Sound)
    (hreal : request.simulate = false)
    (hpreset : service.library.getPreset presetId = .ok preset)
    (hvalues : ∀ row ∈ preset.items, row.item.value.isSome)
    (happly : service.apply presetId request timeout = (.ok report, after))
    (huncancelled : report.cancelled = false)
    (hplugins : ∀ entry ∈ report.plugins, entry.status ≠ .applied) :
    ∃ again, after.apply presetId request timeout = (.ok again, after) ∧ report.Repeats again := by
  have hkeys := (hsound preset (Library.mem_of_getPreset hpreset)).keys_nodup
  obtain ⟨found, first, progress, hfound, hlock, hrun, -, hrecord⟩ := Service.run_of_apply happly
  obtain rfl := Except.ok.inj (hfound.symm.trans hpreset)
  rcases Service.record_eq_ok hrecord with
    ⟨rfl, rfl⟩ | ⟨application, library, happlication, rfl, rfl⟩
  · obtain ⟨again, hagain, hrepeats⟩ := run_again found hreal hroot hkeys hvalues hrun
      huncancelled hplugins rfl rfl
    exact ⟨again, Service.apply_of_idle hpreset hlock hagain, hrepeats⟩
  · have hstamped := Library.getPreset_of_recordApplication hpreset happlication
    obtain ⟨again, hagain, hrepeats⟩ := run_again { found with timeApplied := service.clock }
      hreal hroot hkeys hvalues hrun huncancelled hplugins rfl rfl
    exact ⟨again, Service.apply_of_idle hstamped hlock hagain, hrepeats.of_recorded _⟩

end Apply

namespace SmallSite

theorem again_of_quiet :
    ∃ report after, service.apply 1 {} none = (.ok report, after) ∧
      report.applied.map Entry.key = [notice, comments] ∧
        ∃ again, after.apply 1 {} none = (.ok again, after) ∧ report.Repeats again := by
  have happlied : (service.apply 1 {} none).1.map (fun report =>
      (report.applied.map Entry.key, report.cancelled, report.plugins)) =
        .ok ([notice, comments], false, []) := by
    decide +kernel
  cases happly : service.apply 1 {} none with
  | mk result after =>
    rw [happly] at happlied
    cases result with
    | error error => cases happlied
    | ok report =>
      have happlied : (report.applied.map Entry.key, report.cancelled, report.plugins) = _ :=
        Except.ok.inj happlied
      obtain ⟨hentries, hrest⟩ := Prod.mk.inj happlied
      obtain ⟨huncancelled, hplugins⟩ := Prod.mk.inj hrest
      refine ⟨report, after, rfl, hentries, ?_⟩
      exact Apply.apply_again tree_facetsApart library_sound rfl rfl (by decide) happly huncancelled
        (by simp [hplugins])

end SmallSite

end SitePresets
