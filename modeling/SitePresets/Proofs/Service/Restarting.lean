import SitePresets.Http.App
import SitePresets.Proofs.Service.Operating
import SitePresets.Proofs.Table
import SitePresets.Service.Step

/-!
# Starting again

A site that has been installed once can be installed again at any time, and nothing of it changes. The
plugins that it starts with stay installed through every step but their own removal, whatever becomes of
their states; and while there is a core preset, none is stored and none is applied.
-/

namespace SitePresets

namespace Store

variable {store middle after : Store}

/-- What is installed stays installed. -/
def Retains (store after : Store) : Prop :=
  ∀ plugin, store.pluginTable.contains plugin → after.pluginTable.contains plugin

namespace Retains

theorem refl (store : Store) : store.Retains store :=
  fun _ => id

theorem trans (h : store.Retains middle) (h' : middle.Retains after) : store.Retains after :=
  fun plugin hplugin => h' plugin (h plugin hplugin)

theorem of_eq (h : after.pluginTable = store.pluginTable) : store.Retains after :=
  fun _ hplugin => h ▸ hplugin

end Retains

theorem contains_addPlugins (store : Store) (plugins : List (Plugin × Int)) (plugin : Plugin) :
    (store.addPlugins plugins).pluginTable.contains plugin ↔
      store.pluginTable.contains plugin ∨ plugin ∈ plugins.map Prod.fst := by
  unfold addPlugins
  rw [pluginTable_withPlugins]
  unfold Table.contains Table.get?
  rw [Table.find?_isSome_iff, Table.find?_isSome_iff, List.map_append, List.mem_append]

theorem addPlugins_nil (store : Store) : store.addPlugins [] = store := by
  unfold addPlugins withPlugins pluginTable
  cases store <;> simp

theorem missing_eq_nil {plugins : List (Plugin × Int)} :
    store.missing plugins = [] ↔ ∀ row ∈ plugins, store.pluginTable.contains row.1 := by
  simp [missing, List.filter_eq_nil_iff]

end Store

theorem Site.Operates.retains {site after : Site} {changes : List Change}
    (h : site.Operates changes after) : site.store.Retains after.store :=
  fun plugin hplugin => (h.installed_eq plugin).trans hplugin

namespace Service

variable {service after : Service} {answer : Answer}

/-! ### Installing -/

theorem installPlugins_eq_ok {plugins : List (Plugin × Int)}
    (hok : service.installPlugins plugins = .ok after) :
    after = service.withStore
      (service.site.store.addPlugins (service.site.store.missing plugins)) := by
  obtain ⟨_, -, hok⟩ := bind_eq_ok.1 hok
  split at hok
  · exact (Except.ok.inj hok).symm
  · cases hok

theorem retains_installPlugins {plugins : List (Plugin × Int)}
    (hok : service.installPlugins plugins = .ok after) :
    service.site.store.Retains after.site.store ∧
      ∀ row ∈ plugins, after.site.store.pluginTable.contains row.1 := by
  obtain rfl := installPlugins_eq_ok hok
  refine ⟨fun plugin hplugin => ?_, fun row hrow => ?_⟩
  · exact (Store.contains_addPlugins _ _ _).2 (.inl hplugin)
  · refine (Store.contains_addPlugins _ _ _).2 ?_
    by_cases hhas : service.site.store.pluginTable.contains row.1
    · exact .inl hhas
    · exact .inr (List.mem_map_of_mem (List.mem_filter.2 ⟨hrow, by simpa using hhas⟩))

theorem retains_seed {exclusions : List Key} {default : String}
    (hok : service.seed exclusions default = .ok after) :
    service.site.store.Retains after.site.store := by
  unfold seed at hok
  split at hok
  · obtain rfl := Except.ok.inj hok
    exact .refl _
  · obtain ⟨⟨created, library⟩, -, hok⟩ := bind_eq_ok.1 hok
    dsimp only at hok
    split at hok
    · rename_i preset hpreset
      obtain ⟨⟨report, next⟩, hcommit, hok⟩ := bind_eq_ok.1 hok
      obtain rfl := Except.ok.inj hok
      obtain ⟨changes, happly⟩ :=
        (service.withLibrary library).operates_apply preset.id { exclusions } none
      generalize (service.withLibrary library).apply preset.id { exclusions } none = applied
        at hcommit happly
      obtain ⟨result, last⟩ := applied
      cases result with
      | error error => cases hcommit
      | ok report =>
        obtain ⟨-, rfl⟩ := Prod.mk.inj (Except.ok.inj hcommit)
        exact happly.retains
    · obtain rfl := Except.ok.inj hok
      exact .refl _

theorem retains_install {exclusions : List Key} {seeded : Bool} {default : String}
    (hok : service.install exclusions seeded default = .ok after) :
    service.site.store.Retains after.site.store ∧
      ∀ row ∈ Stock.plugins, after.site.store.pluginTable.contains row.1 := by
  obtain ⟨middle, hplugins, hok⟩ := bind_eq_ok.1 hok
  obtain ⟨hfirst, hstock⟩ := retains_installPlugins (leaving_eq_ok.1 hplugins)
  split at hok
  · have hseed := retains_seed hok
    exact ⟨hfirst.trans hseed, fun row hrow => hseed _ (hstock row hrow)⟩
  · obtain rfl := Except.ok.inj hok
    exact ⟨hfirst, hstock⟩

/-! ### Steps -/

theorem site_unchanged {ε : Type} {found : Answer}
    (hok : (service.unchanged found : Except ε _) = .ok (answer, after)) : after.site = service.site :=
  (Prod.mk.inj (Except.ok.inj hok)).2 ▸ rfl

theorem retains_of_site (h : after.site = service.site) :
    service.site.store.Retains after.site.store :=
  .of_eq (congrArg (fun site => site.store.pluginTable) h)

theorem retains_ofWrite {result : Except Refusal (Change × Site)}
    (hwrote : ∀ change site, result = .ok (change, site) → service.site.Wrote change site)
    (hok : service.ofWrite result = .ok (answer, after)) :
    service.site.store.Retains after.site.store := by
  obtain ⟨⟨change, site⟩, hresult, hok⟩ := bind_eq_ok.1 hok
  obtain ⟨-, rfl⟩ := Prod.mk.inj (Except.ok.inj hok)
  exact .of_eq (hwrote change site (asking_eq_ok.1 hresult)).keeps.pluginTable_eq

theorem retains_write {key : Key} {facet value : Option String} {user : Option Int}
    (hok : service.write key facet value user = .ok (answer, after)) :
    service.site.store.Retains after.site.store := by
  obtain ⟨found, -, hok⟩ := bind_eq_ok.1 hok
  cases found with
  | none => cases hok
  | some live =>
    dsimp only at hok
    split at hok
    · exact retains_ofWrite (fun _ _ hwrite => (Site.wrote_of_write hwrite).1) hok
    · split at hok
      · exact retains_ofWrite (fun _ _ hwrite => (Site.wrote_of_set hwrite).1) hok
      · cases hok

theorem retains_siteStep {step : SiteStep} (hok : service.siteStep step = .ok (answer, after)) :
    service.site.store.Retains after.site.store := by
  cases step with
  | set key value user => exact retains_ofWrite (fun _ _ hset => (Site.wrote_of_set hset).1) hok
  | write key facet value user => exact retains_write hok
  | setPlugin plugin enabled =>
    obtain ⟨⟨old, site⟩, hset, hok⟩ := bind_eq_ok.1 hok
    obtain ⟨-, rfl⟩ := Prod.mk.inj (Except.ok.inj hok)
    exact (Site.Operates.of_setPlugin (asking_eq_ok.1 hset)).retains
  | setVisible component visible =>
    obtain ⟨-, rfl⟩ := Prod.mk.inj (Except.ok.inj hok)
    exact .of_eq (Store.pluginTable_setVisible _ _ _)
  | install seeded default =>
    obtain ⟨next, hinstall, hok⟩ := bind_eq_ok.1 hok
    obtain ⟨-, rfl⟩ := Prod.mk.inj (Except.ok.inj hok)
    exact (retains_install hinstall).1
  | installPlugins plugins =>
    obtain ⟨next, hplugins, hok⟩ := bind_eq_ok.1 hok
    obtain ⟨-, rfl⟩ := Prod.mk.inj (Except.ok.inj hok)
    exact (retains_installPlugins (leaving_eq_ok.1 hplugins)).1
  | get | log | read | settings | tree =>
    obtain ⟨_, -, hok⟩ := bind_eq_ok.1 hok
    exact retains_of_site (site_unchanged hok)
  | plugin | plugins | handlers | scopeAvailable | visible => exact retains_of_site (site_unchanged hok)

theorem site_importDocument {document : Document} {user : Option Int} {preset : Preset}
    (hok : service.importDocument document user = .ok (preset, after)) :
    after.site = service.site := by
  obtain ⟨snapshot, -, hok⟩ := bind_eq_ok.1 hok
  dsimp only at hok
  split at hok
  · cases hok
  · obtain ⟨⟨stored, library⟩, -, hok⟩ := bind_eq_ok.1 hok
    obtain ⟨-, rfl⟩ := Prod.mk.inj (Except.ok.inj hok)
    rfl

theorem site_exportSite {request : ExportRequest} {preset : Preset}
    (hok : service.exportSite request = .ok (preset, after)) : after.site = service.site := by
  obtain ⟨snapshot, -, hok⟩ := bind_eq_ok.1 hok
  obtain ⟨⟨created, first⟩, -, hok⟩ := bind_eq_ok.1 hok
  obtain ⟨⟨filled, second⟩, -, hok⟩ := bind_eq_ok.1 hok
  dsimp only at hok
  split at hok
  · cases hok
  · obtain ⟨-, rfl⟩ := Prod.mk.inj (Except.ok.inj hok)
    rfl

/-- A step on the library leaves the site alone. -/
theorem site_libraryStep {step : LibraryStep} (hok : service.libraryStep step = .ok (answer, after)) :
    after.site = service.site := by
  cases step with
  | create | save | update | delete | purge =>
    obtain ⟨result, -, hok⟩ := bind_eq_ok.1 hok
    obtain ⟨-, rfl⟩ := Prod.mk.inj (Except.ok.inj hok)
    rfl
  | addItem =>
    obtain ⟨preset, -, hok⟩ := bind_eq_ok.1 hok
    obtain ⟨result, -, hok⟩ := bind_eq_ok.1 hok
    obtain ⟨-, rfl⟩ := Prod.mk.inj (Except.ok.inj hok)
    rfl
  | addPlugin =>
    obtain ⟨preset, -, hok⟩ := bind_eq_ok.1 hok
    obtain ⟨whole, -, hok⟩ := bind_eq_ok.1 hok
    obtain ⟨result, -, hok⟩ := bind_eq_ok.1 hok
    obtain ⟨-, rfl⟩ := Prod.mk.inj (Except.ok.inj hok)
    rfl
  | exportSite request =>
    obtain ⟨⟨preset, next⟩, hexport, hok⟩ := bind_eq_ok.1 hok
    obtain ⟨-, rfl⟩ := Prod.mk.inj (Except.ok.inj hok)
    exact site_exportSite hexport
  | importXml text user name =>
    obtain ⟨⟨preset, next⟩, himport, hok⟩ := bind_eq_ok.1 hok
    obtain ⟨-, rfl⟩ := Prod.mk.inj (Except.ok.inj hok)
    obtain ⟨document, -, himport⟩ := bind_eq_ok.1 himport
    exact site_importDocument himport
  | importDocument document user =>
    obtain ⟨⟨preset, next⟩, himport, hok⟩ := bind_eq_ok.1 hok
    obtain ⟨-, rfl⟩ := Prod.mk.inj (Except.ok.inj hok)
    exact site_importDocument himport
  | preset | document | yaml | presetSettings | presetTree | application =>
    obtain ⟨_, -, hok⟩ := bind_eq_ok.1 hok
    exact site_unchanged hok
  | xml =>
    obtain ⟨_, -, hok⟩ := bind_eq_ok.1 hok
    obtain ⟨_, -, hok⟩ := bind_eq_ok.1 hok
    exact site_unchanged hok
  | applications preset => cases preset <;> exact site_unchanged hok
  | presets | find => exact site_unchanged hok

theorem retains_worldStep {step : WorldStep} (hstep : ∀ plugin, step ≠ .uninstall plugin)
    (hok : service.worldStep step = .ok (answer, after)) :
    service.site.store.Retains after.site.store := by
  cases step with
  | clock | exclude | unlock | declare | protect =>
    obtain ⟨-, rfl⟩ := Prod.mk.inj (Except.ok.inj hok)
    exact .refl _
  | lock =>
    obtain ⟨_, -, hok⟩ := bind_eq_ok.1 hok
    obtain ⟨-, rfl⟩ := Prod.mk.inj (Except.ok.inj hok)
    exact .refl _
  | truncateLog keep =>
    obtain ⟨-, rfl⟩ := Prod.mk.inj (Except.ok.inj hok)
    refine .of_eq ?_
    show (service.site.store.truncateLog keep).pluginTable = _
    cases service.site.store <;> rfl
  | poke key text =>
    obtain ⟨next, hpoke, hok⟩ := bind_eq_ok.1 hok
    obtain ⟨-, rfl⟩ := Prod.mk.inj (Except.ok.inj hok)
    unfold poke at hpoke
    split at hpoke
    · obtain rfl := Except.ok.inj hpoke
      exact .refl _
    · rename_i rows hstore
      split at hpoke
      · rename_i poked hinsert
        obtain rfl := Except.ok.inj hpoke
        refine .of_eq ?_
        unfold Rows.insertRaw at hinsert
        split at hinsert
        · cases hinsert
        · obtain rfl := Option.some.inj hinsert
          rw [hstore]
          rfl
      · cases hpoke
  | uninstall plugin => exact absurd rfl (hstep plugin)
  | raw | dump =>
    obtain ⟨_, -, hok⟩ := bind_eq_ok.1 hok
    exact retains_of_site (site_unchanged hok)
  | isLocked => exact retains_of_site (site_unchanged hok)

theorem retains_settle {α : Type} {result : Except (Failure Error Service) (α × Service)}
    (hok : ∀ found after, result = .ok (found, after) → service.site.store.Retains after.site.store)
    (herror : ∀ failure, result = .error failure →
      service.site.store.Retains failure.left.site.store) :
    service.site.store.Retains (settle result).2.site.store :=
  settle_induction (motive := fun after => service.site.store.Retains after.site.store) hok herror

theorem retains_of_siteStep_error {step : SiteStep} {failure : Failure Error Service}
    (h : service.siteStep step = .error failure) :
    service.site.store.Retains failure.left.site.store := by
  rcases left_of_siteStep_cases h with
    hleft | ⟨middle, hmiddle, hleft | ⟨library, preset, request, hleft⟩⟩
  · exact hleft ▸ .refl _
  · exact hleft ▸ (retains_installPlugins hmiddle).1
  · rw [hleft]
    obtain ⟨changes, happly⟩ := (middle.withLibrary library).operates_apply preset request none
    exact (retains_installPlugins hmiddle).1.trans happly.retains

theorem retains_attempt {step : Step} (hstep : ∀ plugin, step ≠ .world (.uninstall plugin)) :
    service.site.store.Retains (service.attempt step).2.site.store := by
  by_cases hoperation : step.IsOperation
  · obtain ⟨changes, hoperates⟩ := service.operates_attempt hoperation
    exact hoperates.retains
  · cases step with
    | apply | rollback => exact absurd trivial hoperation
    | site step =>
      exact retains_settle (fun _ _ hok => retains_siteStep hok)
        fun _ hfailed => retains_of_siteStep_error hfailed
    | library step =>
      exact retains_settle
        (fun _ _ hok => retains_of_site (site_libraryStep (leaving_eq_ok.1 hok)))
        fun _ hfailed => retains_of_site (congrArg site (left_of_leaving hfailed))
    | world step =>
      exact retains_settle
        (fun _ _ hok => retains_worldStep (fun plugin h => hstep plugin (congrArg _ h))
          (leaving_eq_ok.1 hok))
        fun _ hfailed => retains_of_site (congrArg site (left_of_leaving hfailed))

/-- A step that uninstalls nothing leaves everything installed, also if it fails. -/
theorem retains_step (service : Service) {step : Step}
    (hstep : ∀ plugin, step ≠ .world (.uninstall plugin)) :
    service.site.store.Retains (service.after step).site.store := by
  rcases service.site_after_cases step with hsite | hsite
  · exact retains_of_site hsite
  · rw [hsite]
    exact retains_attempt hstep

theorem retains_run (service : Service) {steps : List Step}
    (hsteps : ∀ step ∈ steps, ∀ plugin, step ≠ .world (.uninstall plugin)) :
    service.site.store.Retains (service.run steps).2.site.store := by
  induction steps generalizing service with
  | nil => exact .refl _
  | cons step rest ih =>
    have hstep := service.retains_step (hsteps step List.mem_cons_self)
    exact hstep.trans (ih _ fun step hstep => hsteps step (List.mem_cons_of_mem _ hstep))

/-! ### Installing again -/

theorem installPlugins_of_contains {plugins : List (Plugin × Int)}
    (h : ∀ row ∈ plugins, service.site.store.pluginTable.contains row.1) :
    service.installPlugins plugins = .ok service := by
  have hmissing := Store.missing_eq_nil.2 h
  unfold installPlugins
  rw [hmissing]
  simp [Library.checkNumbers, Store.addPlugins_nil, withStore]

theorem seed_of_core (h : service.library.hasCore) (exclusions : List Key) (default : String) :
    service.seed exclusions default = .ok service := by
  unfold seed
  rw [if_pos h]
  rfl

/-- Nothing changes when a site is started again: by an install, as a step of a session, and with the
program. -/
structure Settled (service : Service) : Prop where
  install_eq : ∀ exclusions seeded default, service.install exclusions seeded default = .ok service
  step_eq : ∀ seeded default, service.step (.site (.install seeded default)) = (.ok .done, service)
  startOver_eq : ∀ setup, Http.App.startOver setup service = .ok { setup, service }

/-- A site that has been installed is settled as long as it has a core preset, whatever steps come
between, unless they uninstall plugins. -/
theorem settled_of_install {service installed : Service} {exclusions : List Key} {seeded : Bool}
    {default : String} {steps : List Step}
    (hinstall : service.install exclusions seeded default = .ok installed)
    (hsteps : ∀ step ∈ steps, ∀ plugin, step ≠ .world (.uninstall plugin))
    (hcore : ∃ preset ∈ (installed.run steps).2.library.presets, preset.core = 1) :
    (installed.run steps).2.Settled := by
  have hretains := installed.retains_run hsteps
  obtain ⟨-, hstock⟩ := retains_install hinstall
  generalize (installed.run steps).2 = later at hretains hcore
  have hplugins : later.installPlugins Stock.plugins = .ok later :=
    installPlugins_of_contains fun row hrow => hretains _ (hstock row hrow)
  have hcore : later.library.hasCore := by
    obtain ⟨preset, hpreset, hcore⟩ := hcore
    exact List.any_eq_true.2 ⟨preset, hpreset, by simpa using hcore⟩
  have hagain (exclusions : List Key) (seeded : Bool) (default : String) :
      later.install exclusions seeded default = .ok later := by
    unfold install
    rw [leaving_eq_ok.2 hplugins, ok_bind]
    cases seeded with
    | false => rfl
    | true => exact later.seed_of_core hcore exclusions default
  refine ⟨hagain, fun seeded default => ?_, fun setup => ?_⟩
  · have hstep : later.siteStep (.install seeded default) = .ok (.done, later) := by
      rw [siteStep, hagain]
      rfl
    have hattempt : later.attempt (.site (.install seeded default)) = (.ok .done, later) :=
      congrArg settle hstep
    exact step_of_ok hattempt
  · unfold Http.App.startOver
    rw [hagain]
    rfl

end Service

namespace SmallSite

def useComments : Key := ⟨siteScope, "usecomments"⟩

/-- A site over a new database, with one option that the core presets know. -/
def newSite : Service where
  site := {
    store := .rows .empty
    tree := .category "root" "" [.page "front" "" [
      .setting { name := "usecomments", settingClass := "admin_setting_configcheckbox" }]] }

/-- The new site with the light preset. -/
def opened : Service :=
  (newSite.install [] true "lite").toOption.getD newSite

/-- The light preset is rolled back and deleted, the option set and the plugin switched on again. -/
def ownChoices : List Step := [
  .rollback 1 none .never none,
  .site (.set useComments (some "1") (some 7)),
  .site (.setPlugin chat 1),
  .library (.delete 1)]

theorem opened_settled :
    newSite.install [] true "lite" = .ok opened ∧
      (∃ preset ∈ (opened.run ownChoices).2.library.presets, preset.core = 1) ∧
        (opened.run ownChoices).2.Settled := by
  have hisSome : (newSite.install [] true "lite").toOption.isSome := by
    decide +kernel
  have hinstall : newSite.install [] true "lite" = .ok opened := by
    unfold opened
    cases h : newSite.install [] true "lite" with
    | ok service => rfl
    | error error =>
      rw [h] at hisSome
      cases hisSome
  have hcore : ∃ preset ∈ (opened.run ownChoices).2.library.presets, preset.core = 1 := by
    decide +kernel
  exact ⟨hinstall, hcore, Service.settled_of_install hinstall (by simp [ownChoices]) hcore⟩

end SmallSite

end SitePresets
