import SitePresets.Proofs.Apply.Barred
import SitePresets.Proofs.Descriptor.Facets
import SitePresets.Proofs.Library.Soundness
import SitePresets.Service.Basic

/-!
# Recording an apply

An apply fails before it has written anything, or its run is recorded: as a new application if it has
made rows of the ledger, and not at all if it has made none. If there is no place for an application, the
run is barred as soon as it has a row for it.
-/

namespace SitePresets

/-! ### Rows that fit -/

/-- The row of a value or a facet has a number in the log only. -/
theorem Planned.fits_row (planned : Planned) (logId : Nat) : (planned.row logId).Fits := by
  unfold row
  split <;> exact List.forall_mem_nil _

/-- The plugins that a preset sets are in states that a ledger has a place for. -/
def Preset.StatesFit (preset : Preset) (store : Store) : Prop :=
  ∀ row ∈ preset.plugins, ∀ state, store.plugin? row.plugin = some state → fitsColumn state

namespace Apply

variable {request : ApplyRequest} {progress : Progress}

theorem fits_applyPlugin (request : ApplyRequest) {row : StoredPlugin} (henabled : fitsColumn row.enabled)
    (hstate : ∀ state, progress.site.store.plugin? row.plugin = some state → fitsColumn state)
    (hrows : ∀ added ∈ progress.rows, added.Fits) :
    (∀ added ∈ (applyPlugin request progress row).2.rows, added.Fits) ∧ ∀ plugin state,
      (applyPlugin request progress row).2.site.store.plugin? plugin = some state →
        state = row.enabled ∨ progress.site.store.plugin? plugin = some state := by
  unfold applyPlugin
  dsimp only
  split
  · exact ⟨hrows, fun _ _ => .inr⟩
  · rename_i current hcurrent
    split
    · exact ⟨hrows, fun _ _ => .inr⟩
    · split
      · exact ⟨hrows, fun _ _ => .inr⟩
      · rename_i after hset
        unfold Progress.setPlugin at hset
        split at hset
        · obtain rfl := Except.ok.inj hset
          exact ⟨hrows, fun _ _ => .inr⟩
        · obtain ⟨⟨old, site⟩, hsite, hafter⟩ := bind_eq_ok.1 hset
          obtain rfl := Except.ok.inj hafter
          have hold : fitsColumn old := hstate old (Site.setPlugin_eq_ok.1 hsite).2.1
          refine ⟨List.forall_mem_append.2 ⟨hrows, fun added hadded z hz => ?_⟩,
            fun plugin state hstate => ?_⟩
          · rw [List.mem_singleton.1 hadded] at hz
            rcases List.mem_cons.1 hz with rfl | hz
            · exact henabled
            · exact List.mem_singleton.1 hz ▸ hold
          · dsimp only at hstate
            rw [Site.plugin_of_setPlugin hsite] at hstate
            split at hstate
            · exact .inl (Option.some.inj hstate).symm
            · exact .inr hstate

theorem fits_applyPlugins {plugins : List StoredPlugin} (entries : List Entry)
    (henabled : ∀ row ∈ plugins, fitsColumn row.enabled)
    (hstates : ∀ row ∈ plugins, ∀ state,
      progress.site.store.plugin? row.plugin = some state → fitsColumn state)
    (hrows : ∀ row ∈ progress.rows, row.Fits) :
    ∀ row ∈ (applyPlugins request entries progress plugins).2.rows, row.Fits := by
  induction plugins generalizing entries progress with
  | nil => exact hrows
  | cons row rest ih =>
    rw [List.forall_mem_cons] at henabled hstates
    obtain ⟨hfits, hset⟩ := fits_applyPlugin request henabled.1 hstates.1 hrows
    rw [applyPlugins_cons]
    refine ih _ henabled.2 (fun other hother state hstate => ?_) hfits
    rcases hset _ _ hstate with rfl | hstate
    · exact henabled.1
    · exact hstates.2 other hother state hstate

/-- What a run records fits the columns of the ledger if the states of the plugins do. -/
theorem fits_of_run {site : Site} {preset : Preset} {report : ApplyReport}
    (hreal : request.simulate = false) (hrun : run request site preset = .ok (report, progress))
    (henabled : ∀ row ∈ preset.plugins, fitsColumn row.enabled)
    (hstates : preset.StatesFit site.store) : ∀ row ∈ progress.rows, row.Fits := by
  obtain ⟨snapshot, hsnapshot, -⟩ := bind_eq_ok.1 hrun
  obtain ⟨reached, -, ⟨writes, hmade, -, -⟩, -⟩ : ∃ reached, reached <+: _ ∧
      Progress.Performs { site } request.user (reached.flatMap (plan request snapshot))
        (overItems request snapshot site preset).2 ∧ _ :=
    performs_applyItems hreal _ _ _ _
  have hitems : ∀ row ∈ (overItems request snapshot site preset).2.rows, row.Fits := by
    intro row hrow
    rw [hmade.rows_eq, List.nil_append] at hrow
    obtain ⟨write, -, rfl⟩ := List.mem_map.1 hrow
    exact write.1.fits_row write.2.id
  cases hcancelled : (overItems request snapshot site preset).1.cancelled with
  | true =>
    rw [run_of_cancelled hsnapshot hcancelled] at hrun
    obtain ⟨-, rfl⟩ := Prod.mk.inj (Except.ok.inj hrun)
    exact hitems
  | false =>
    rw [run_of_not_cancelled hsnapshot hcancelled] at hrun
    obtain ⟨-, rfl⟩ := Prod.mk.inj (Except.ok.inj hrun)
    refine fits_applyPlugins _ henabled (fun row hrow state hstate => ?_) hitems
    rw [hmade.wrote.keeps.plugin_eq] at hstate
    exact hstates row hrow state hstate

theorem fits_of_run_items {site : Site} {preset : Preset} {report : ApplyReport}
    (hreal : request.simulate = false) (hrun : run request site preset = .ok (report, progress))
    (hplugins : preset.plugins = []) : ∀ row ∈ progress.rows, row.Fits := by
  refine fits_of_run hreal hrun (hplugins ▸ List.forall_mem_nil _) ?_
  unfold Preset.StatesFit
  rw [hplugins]
  exact List.forall_mem_nil _

end Apply

namespace Service

variable {service : Service} {presetId : Int} {request : ApplyRequest} {timeout : Option Int}
  {preset : Preset} {user : Option Int} {report : ApplyReport} {progress : Progress}

theorem checkLock_eq_ok : service.checkLock timeout = .ok () ↔ service.locked = false := by
  unfold checkLock
  cases service.locked <;> simp

theorem ofStore_eq_ok {α : Type} {result : Except Refusal α} {a : α} :
    ofStore result = .ok a ↔ result = .ok a :=
  mapError_eq_ok

theorem apply_of_run (hpreset : service.library.getPreset presetId = .ok preset)
    (hlock : service.locked = false)
    (hrun : Apply.run request service.site preset = .ok (report, progress))
    (hrecord : progress.rows ≠ [] → Library.canRecord service.clock request.user = true) :
    service.apply presetId request timeout =
      service.record preset request.user report progress := by
  have hrun : Apply.run request service.site preset (Library.canRecord service.clock request.user) =
      .ok (report, progress) := by
    cases hcan : Library.canRecord service.clock request.user with
    | true => exact hrun
    | false =>
      rw [hcan] at hrecord
      rcases Apply.run_false hrun with ⟨-, hrun⟩ | ⟨hrows, -⟩
      · exact hrun
      · exact absurd (hrecord hrows) Bool.false_ne_true
  unfold apply
  rw [hpreset, ok_bind, checkLock_eq_ok.2 hlock, ok_bind, ofStore_eq_ok.2 hrun]
  rfl

theorem apply_of_run_eq_error {refusal : Refusal}
    (hpreset : service.library.getPreset presetId = .ok preset) (hlock : service.locked = false)
    (hrun : Apply.run request service.site preset = .error refusal) :
    service.apply presetId request timeout = (.error (.refused refusal), service) := by
  have hrun : Apply.run request service.site preset (Library.canRecord service.clock request.user) =
      .error refusal := by
    cases Library.canRecord service.clock request.user with
    | true => exact hrun
    | false => exact Apply.run_eq_error hrun
  unfold apply
  rw [hpreset, ok_bind, checkLock_eq_ok.2 hlock, ok_bind, hrun]
  rfl

/-- A run that cannot be recorded stays written. -/
theorem record_of_unfit (preset : Preset) (report : ApplyReport) (hrows : progress.rows ≠ [])
    (hunfit : Library.canRecord service.clock user = true → ¬ ∀ row ∈ progress.rows, row.Fits) :
    service.record preset user report progress =
      (.error (.refused .numberTooLarge), { service with site := progress.site }) := by
  unfold record
  dsimp only
  rw [if_neg (by simpa using hrows), Library.recordApplication_of_unfit hunfit]

/-- A barred run stays written. -/
theorem apply_of_barred (hpreset : service.library.getPreset presetId = .ok preset)
    (hlock : service.locked = false) (hrecord : Library.canRecord service.clock request.user = false)
    (hrun : Apply.run request service.site preset false = .ok (report, progress))
    (hrows : progress.rows ≠ []) :
    service.apply presetId request timeout =
      (.error (.refused .numberTooLarge), { service with site := progress.site }) := by
  unfold apply
  rw [hpreset, ok_bind, checkLock_eq_ok.2 hlock, ok_bind, hrecord, ofStore_eq_ok.2 hrun]
  exact record_of_unfit preset report hrows fun hcan => absurd (hrecord.symm.trans hcan) nofun

/-- A run has a place in the library, unless it has rows and the library no place for them. -/
theorem canRecord_or_barred (service : Service) (user : Option Int) (rows : List LedgerRow) :
    (rows ≠ [] → Library.canRecord service.clock user = true) ∨
      rows ≠ [] ∧ Library.canRecord service.clock user = false := by
  by_cases hnil : rows = []
  · exact .inl (absurd hnil)
  · exact (Bool.eq_false_or_eq_true _).imp (fun hcan _ => hcan) fun hcannot => ⟨hnil, hcannot⟩

/-- A run is recorded, or it is barred. -/
theorem apply_of_ran (hpreset : service.library.getPreset presetId = .ok preset)
    (hlock : service.locked = false)
    (hrun : Apply.run request service.site preset = .ok (report, progress)) (timeout : Option Int) :
    (progress.rows ≠ [] → Library.canRecord service.clock request.user = true) ∧
        service.apply presetId request timeout =
          service.record preset request.user report progress ∨
      Library.canRecord service.clock request.user = false ∧
        ∃ barred, Apply.Begins request service.site preset barred ∧
          service.apply presetId request timeout =
            (.error (.refused .numberTooLarge), { service with site := barred.site }) := by
  rcases service.canRecord_or_barred request.user progress.rows with hrecord | ⟨hrows, hrecord⟩
  · exact .inl ⟨hrecord, apply_of_run hpreset hlock hrun hrecord⟩
  · obtain ⟨-, other, barred, hbarred, hbegins⟩ :=
      (Apply.run_false hrun).resolve_left fun hnil => hrows hnil.1
    exact .inr ⟨hrecord, barred, hbegins,
      apply_of_barred hpreset hlock hrecord hbarred hbegins.rows_ne_nil⟩

/-- An apply fails as it is, or it records a run, or its run is barred. -/
theorem apply_cases (service : Service) (presetId : Int) (request : ApplyRequest)
    (timeout : Option Int) :
    (∃ error, service.apply presetId request timeout = (.error error, service)) ∨
      (∃ preset report progress, service.library.getPreset presetId = .ok preset ∧
        service.locked = false ∧
          Apply.run request service.site preset = .ok (report, progress) ∧
            (progress.rows ≠ [] → Library.canRecord service.clock request.user = true) ∧
              service.apply presetId request timeout =
                service.record preset request.user report progress) ∨
        ∃ preset progress, service.library.getPreset presetId = .ok preset ∧
          service.locked = false ∧ Library.canRecord service.clock request.user = false ∧
            Apply.Begins request service.site preset progress ∧
              service.apply presetId request timeout =
                (.error (.refused .numberTooLarge), { service with site := progress.site }) := by
  cases hpreset : service.library.getPreset presetId with
  | error error =>
    refine .inl ⟨error, ?_⟩
    unfold apply
    rw [hpreset]
    rfl
  | ok preset =>
    cases hlock : service.checkLock timeout with
    | error error =>
      refine .inl ⟨error, ?_⟩
      unfold apply
      rw [hpreset, ok_bind, hlock]
      rfl
    | ok result =>
      have hlock := checkLock_eq_ok.1 hlock
      cases hrun : Apply.run request service.site preset with
      | error refusal =>
        exact .inl ⟨.refused refusal, apply_of_run_eq_error hpreset hlock hrun⟩
      | ok result =>
        obtain ⟨report, progress⟩ := result
        rcases apply_of_ran hpreset hlock hrun timeout with
          ⟨hrecord, happly⟩ | ⟨hrecord, barred, hbegins, happly⟩
        · exact .inr (.inl ⟨preset, report, progress, rfl, hlock, hrun, hrecord, happly⟩)
        · exact .inr (.inr ⟨preset, barred, rfl, hlock, hrecord, hbegins, happly⟩)

/-- An apply that reports has recorded its run. -/
theorem run_of_apply {after : Service}
    (h : service.apply presetId request timeout = (.ok report, after)) :
    ∃ preset ran progress, service.library.getPreset presetId = .ok preset ∧ service.locked = false ∧
      Apply.run request service.site preset = .ok (ran, progress) ∧
        (progress.rows ≠ [] → Library.canRecord service.clock request.user = true) ∧
          service.record preset request.user ran progress = (.ok report, after) := by
  rcases service.apply_cases presetId request timeout with
    ⟨error, hfailed⟩ | ⟨preset, ran, progress, hpreset, hlock, hrun, hrecord, happly⟩ |
      ⟨preset, progress, -, -, -, -, hbarred⟩
  · rw [hfailed] at h
    cases h
  · exact ⟨preset, ran, progress, hpreset, hlock, hrun, hrecord, happly.symm.trans h⟩
  · rw [hbarred] at h
    cases h

theorem record_of_nil (hrows : progress.rows = []) :
    service.record preset user report progress =
      (.ok report, { service with site := progress.site }) := by
  unfold record
  rw [hrows]
  rfl

theorem record_of_ne_nil (preset : Preset) (report : ApplyReport) (hrows : progress.rows ≠ [])
    (hrecord : Library.canRecord service.clock user = true)
    (hfits : ∀ row ∈ progress.rows, row.Fits) :
    ∃ application library,
      service.library.recordApplication service.clock preset user progress.rows =
        .ok (application, library) ∧
      service.record preset user report progress =
        (.ok { report with applicationId := some application.id },
          { service with site := progress.site, library }) := by
  obtain ⟨application, library, hrecorded⟩ :=
    Library.exists_recordApplication hrecord hfits service.library preset
  refine ⟨application, library, hrecorded, ?_⟩
  unfold record
  dsimp only
  rw [if_neg (by simpa using hrows), hrecorded]
  rfl

/-- A real apply reports if the site can be read and what it writes can be recorded. -/
theorem exists_apply_of_fits (hpreset : service.library.getPreset presetId = .ok preset)
    (hlock : service.locked = false) (hreal : request.simulate = false)
    (hread : ∃ snapshot, Snapshot.ofSite service.site = .ok snapshot)
    (huser : request.user.all fitsColumn) (hclock : fitsColumn service.clock)
    (henabled : ∀ row ∈ preset.plugins, fitsColumn row.enabled)
    (hstates : preset.StatesFit service.site.store) (timeout : Option Int) :
    ∃ report after, service.apply presetId request timeout = (.ok report, after) := by
  obtain ⟨snapshot, hsnapshot⟩ := hread
  obtain ⟨report, progress, hrun⟩ := Apply.exists_run hsnapshot request preset
  have hrecord := Library.canRecord_iff.2 ⟨hclock, huser⟩
  rw [apply_of_run hpreset hlock hrun fun _ => hrecord]
  by_cases hnil : progress.rows = []
  · exact ⟨_, _, record_of_nil hnil⟩
  · obtain ⟨application, library, -, hrecorded⟩ := record_of_ne_nil preset report hnil hrecord
      (Apply.fits_of_run hreal hrun henabled hstates)
    exact ⟨_, _, hrecorded⟩

theorem record_eq_ok_of_ne_nil {recorded : ApplyReport} {after : Service} (hrows : progress.rows ≠ [])
    (h : service.record preset user report progress = (.ok recorded, after)) :
    ∃ application library,
      service.library.recordApplication service.clock preset user progress.rows =
        .ok (application, library) ∧
      recorded = { report with applicationId := some application.id } ∧
        after = { service with site := progress.site, library } := by
  unfold record at h
  dsimp only at h
  rw [if_neg (by simpa using hrows)] at h
  split at h
  · rename_i application library hrecord
    obtain ⟨hreport, rfl⟩ := Prod.mk.inj h
    exact ⟨application, library, hrecord, (Except.ok.inj hreport).symm, rfl⟩
  · cases h

theorem record_eq_ok {recorded : ApplyReport} {after : Service}
    (h : service.record preset user report progress = (.ok recorded, after)) :
    recorded = report ∧ after = { service with site := progress.site } ∨
      ∃ application library,
        service.library.recordApplication service.clock preset user progress.rows =
          .ok (application, library) ∧
        recorded = { report with applicationId := some application.id } ∧
          after = { service with site := progress.site, library } := by
  by_cases hnil : progress.rows = []
  · rw [record_of_nil hnil] at h
    obtain ⟨hreport, rfl⟩ := Prod.mk.inj h
    exact .inl ⟨(Except.ok.inj hreport).symm, rfl⟩
  · exact .inr (record_eq_ok_of_ne_nil hnil h)

theorem site_record (service : Service) (preset : Preset) (user : Option Int)
    (report : ApplyReport) (progress : Progress) :
    (service.record preset user report progress).2.site = progress.site := by
  unfold record
  dsimp only
  split
  · rfl
  · split <;> rfl

theorem apply_of_idle (hpreset : service.library.getPreset presetId = .ok preset)
    (hlock : service.locked = false)
    (hrun : Apply.run request service.site preset = .ok (report, { site := service.site })) :
    service.apply presetId request timeout = (.ok report, service) := by
  rw [apply_of_run hpreset hlock hrun (absurd rfl), record_of_nil rfl]

end Service

namespace LedgerRow

theorem filter_isSetting_arrange (rows : List LedgerRow) :
    (arrange rows).filter isSetting = rows.filter isSetting := by
  unfold arrange
  simp only [List.filter_append, List.filter_filter]
  have hfacet (row : LedgerRow) : (row.isSetting && row.isFacet) = false := by cases row <;> rfl
  have hplugin (row : LedgerRow) : (row.isSetting && row.isPlugin) = false := by cases row <;> rfl
  simp [hfacet, hplugin]

theorem filter_isFacet_arrange (rows : List LedgerRow) :
    (arrange rows).filter isFacet = rows.filter isFacet := by
  unfold arrange
  simp only [List.filter_append, List.filter_filter]
  have hsetting (row : LedgerRow) : (row.isFacet && row.isSetting) = false := by cases row <;> rfl
  have hplugin (row : LedgerRow) : (row.isFacet && row.isPlugin) = false := by cases row <;> rfl
  simp [hsetting, hplugin]

end LedgerRow

/-! ### A small site

A site with a text, and with a flag that has a facet, on which the theorems about applies and
rollbacks are tried. One of its presets assigns only values, the other disables a plugin too.
-/

namespace SmallSite

def tree : Node :=
  .category "root" "" [.page "front" "" [
    .setting { name := "notice" },
    .setting { name := "comments", settingClass := "admin_setting_configcheckbox_with_advanced" }]]

def notice : Key := ⟨siteScope, "notice"⟩

def comments : Key := ⟨siteScope, "comments"⟩

def chat : Plugin := ⟨"mod", "chat"⟩

def preset (id : Nat) (plugins : List StoredPlugin) : Preset where
  id
  name := "Quiet"
  comments := none
  author := none
  user := none
  site := none
  release := none
  core := 0
  timeCreated := 0
  timeImported := 0
  timeApplied := 0
  items := [
    ⟨1, { key := notice, value := some "closed", attributes := [] }⟩,
    ⟨2, { key := comments, value := some "0", attributes := [("comments_adv", some "1")] }⟩]
  plugins

def service : Service where
  site := { store := .memory (.ofLists [(comments, some "1")] [(chat, 1)]), tree }
  library := { presets := [preset 1 [], preset 2 [⟨1, chat, 0⟩]] }

/-- The small site over a new database, in which a plugin is installed. -/
def newService : Service where
  site := { store := .rows { Rows.empty with plugins := .ofList [(chat, 1)] }, tree }
  library := service.library

/-- A user whose number the columns of a database have no place for. -/
def wideUser : Option Int := some 9223372036854775808

theorem tree_facetsApart : tree.FacetsApart := by
  decide

theorem library_sound : service.library.Sound := by
  have hpreset (id : Nat) (enabled : List StoredPlugin) (h : ∀ row ∈ enabled, fitsColumn row.enabled) :
      (preset id enabled).Sound := ⟨(by decide : [notice, comments].Nodup), h⟩
  intro stored hstored
  rcases List.mem_cons.1 hstored with rfl | hstored
  · exact hpreset 1 [] (by decide)
  · rw [List.mem_singleton.1 hstored]
    exact hpreset 2 _ (by decide)

theorem preset_statesFit : (preset 2 [⟨1, chat, 0⟩]).StatesFit service.site.store := by
  intro row hrow state hstate
  rw [List.mem_singleton.1 hrow] at hstate
  have hchat : service.site.store.plugin? chat = some 1 := by decide
  obtain rfl := Option.some.inj (hchat.symm.trans hstate)
  decide

end SmallSite

end SitePresets
