import SitePresets.Proofs.Library.Growth
import SitePresets.Proofs.Service.Moving
import SitePresets.Proofs.Table
import SitePresets.Service.Step

/-!
# What a step does to a service

All that a step of a session can do: it advances the service by writes, by new rows of the library and
by applications, or it takes rows out of one application, or it deletes a preset with its applications.
A step that fails does less than that.
-/

namespace SitePresets

namespace Site.Evolves

theorem of_setPlugin {site after : Site} {plugin : Plugin} {enabled old : Int}
    (h : site.setPlugin plugin enabled = .ok (old, after)) : site.Evolves after :=
  .switched (switches_of_setPlugin h) (statesFit_of_setPlugin h)

theorem of_withPlugins (site : Site) {table : Table Plugin Int}
    (hfit : site.store.StatesFit →
      ∀ plugin enabled, table.get? plugin = some enabled → site.store.holds enabled) :
    site.Evolves { site with store := site.store.withPlugins table } := by
  refine .switched ⟨.of_withPlugins _ _, rfl, rfl, rfl, rfl⟩ fun h plugin enabled hplugin => ?_
  rw [Store.plugin?, Store.pluginTable_withPlugins] at hplugin
  rw [Store.holds_withPlugins]
  exact hfit h plugin enabled hplugin

theorem of_setVisible (site : Site) (component : String) (visible : Bool) :
    site.Evolves { site with store := site.store.setVisible component visible } := by
  refine .switched ⟨.of_setVisible _ _ _, rfl, rfl, rfl, rfl⟩ fun h plugin enabled hplugin => ?_
  rw [Store.plugin?, Store.pluginTable_setVisible] at hplugin
  rw [Store.holds_setVisible]
  exact h plugin enabled hplugin

end Site.Evolves

/-- A setting that comes from XML has a value. -/
theorem Document.value_of_ofXml {text : String} {document : Document} (h : ofXml text = .ok document) :
    ∀ item ∈ document.items, ∃ value, item.value = some value := by
  intro item hitem
  unfold ofXml at h
  split at h
  · unfold ofElement at h
    split at h
    · cases h
    · split at h
      · cases h
      · obtain rfl := Except.ok.inj h
        dsimp only at hitem
        cases hsettings : Xml.Element.child? _ "ADMIN_SETTINGS" with
        | none =>
          rw [hsettings] at hitem
          cases hitem
        | some settings =>
          rw [hsettings] at hitem
          obtain ⟨child, -, hitem⟩ := List.mem_flatMap.1 hitem
          obtain ⟨element, -, rfl⟩ := List.mem_map.1 hitem
          exact ⟨element.text, rfl⟩
  · cases h

namespace Library

variable {limits : Limits} {library after : Library} {preset : Preset}

theorem fills_addCore {now : Int} {document : Document} (hopen : library.Open limits)
    (hvalues : ∀ item ∈ document.items, limits.values item.value)
    (h : library.addCore now document = .ok (preset, after)) :
    library.Fills limits after ∧ preset ∈ after.presets := by
  obtain ⟨⟨created, first⟩, hcreate, h⟩ := bind_eq_ok.1 h
  obtain ⟨⟨filled, second⟩, hitems, hplugins⟩ := bind_eq_ok.1 h
  exact fills_filled hopen hvalues hcreate hitems hplugins

theorem fills_addCores {now : Int} {documents : List Document} {presets : List Preset}
    (hopen : library.Open limits)
    (hvalues : ∀ document ∈ documents, ∀ item ∈ document.items, limits.values item.value)
    (h : library.addCores now documents = .ok (presets, after)) : library.Fills limits after := by
  induction documents generalizing library presets with
  | nil =>
    obtain ⟨-, rfl⟩ := Prod.mk.inj (Except.ok.inj h)
    exact .refl _
  | cons document rest ih =>
    obtain ⟨⟨preset, middle⟩, hcore, h⟩ := bind_eq_ok.1 h
    obtain ⟨⟨more, last⟩, hrest, h⟩ := bind_eq_ok.1 h
    obtain ⟨-, rfl⟩ := Prod.mk.inj (Except.ok.inj h)
    have hfirst := (fills_addCore hopen (hvalues document List.mem_cons_self) hcore).1
    exact .trans hfirst (ih (hfirst.isOpen hopen)
      (fun document hdocument => hvalues document (List.mem_cons_of_mem _ hdocument)) hrest)

/-- What is left of a library without a preset and its applications. -/
def without (library : Library) (preset : Preset) : Library where
  presets := library.presets.filter fun other => other.id ≠ preset.id
  applications := library.applications.filter fun application => application.presetId ≠ preset.id

def withApplication (library : Library) (application : Application) : Library :=
  { library with applications := library.applications ++ [application] }

/-- The library in which an application has only some rows left. It is gone if it has none. -/
def keepRows (library : Library) (application : Application) (rows : List LedgerRow) : Library :=
  if rows = [] then library.removeApplication application.id
  else library.replaceApplication { application with rows }

theorem presets_keepRows (library : Library) (application : Application) (rows : List LedgerRow) :
    (library.keepRows application rows).presets = library.presets := by
  unfold keepRows
  split <;> rfl

end Library

namespace Service

/-- How a service advances: nothing of what its library holds gets lost. -/
inductive Advances (limits : Limits) : Service → Service → Prop
  | settled {service after : Service} (hsite : after.site = service.site)
    (hlibrary : after.library = service.library) : Advances limits service after
  | declared {service : Service} {tree : Node} (htree : limits.trees tree) :
    Advances limits service { service with site := { service.site with tree } }
  | guarded {service : Service} {readOnly : List Key} {pinned : List Plugin}
    (hprotection : limits.protection) :
    Advances limits service { service with site := { service.site with readOnly, pinned } }
  | site {service : Service} {site : Site} (hsite : service.site.Evolves site) :
    Advances limits service { service with site }
  | library {service : Service} {library : Library} (hlibrary : service.library.Fills limits library) :
    Advances limits service (service.withLibrary library)
  | applied {service : Service} {preset : Preset} {request : ApplyRequest} {report : ApplyReport}
    {progress : Progress} (hpreset : preset ∈ service.library.presets)
    (hrun : Apply.run request service.site preset = .ok (report, progress)) :
    Advances limits service (service.record preset request.user report progress).2
  | trans {service middle after : Service} (hfirst : Advances limits service middle)
    (hrest : Advances limits middle after) : Advances limits service after

/-- What a step makes of a service. -/
inductive Becomes (limits : Limits) (service : Service) : Service → Prop
  | advanced {after : Service} (h : service.Advances limits after) : Becomes limits service after
  | reduced {site : Site} {application : Application} {rows : List LedgerRow}
    (hsite : service.site.Evolves site) (happlication : application ∈ service.library.applications)
    (hrows : rows.Sublist application.rows) :
    Becomes limits service
      { service with site, library := service.library.keepRows application rows }
  | deleted {preset : Preset} (hpreset : preset ∈ service.library.presets)
    (hallowed : limits.presets preset.id) :
    Becomes limits service (service.withLibrary (service.library.without preset))

end Service

/-- A step that keeps within limits. It does not touch the database behind the back of the service. -/
def Step.Within (limits : Limits) : Step → Prop
  | .world (.truncateLog _) | .world (.poke _ _) => False
  | .world (.declare tree) => limits.trees tree
  | .world (.protect _ _) => limits.protection
  | .library (.save document _ _) | .library (.importDocument document _) =>
    ∀ item ∈ document.items, limits.values item.value
  | .library (.addItem preset item) => limits.presets preset ∧ limits.values item.value
  | .library (.addPlugin preset _ _) | .library (.delete preset) => limits.presets preset
  | _ => True

namespace Service

variable {limits : Limits} {service after : Service} {answer : Answer}

/-- Recording a run takes over its site, and adds an application if it made rows of the ledger and the
library has room for it. -/
theorem record_cases (service : Service) (preset : Preset) (user : Option Int) (report : ApplyReport)
    (progress : Progress) :
    (service.record preset user report progress).2 = { service with site := progress.site } ∨
      ∃ application : Application, progress.rows ≠ [] ∧
        application.id = service.library.nextApplicationId ∧ application.presetId = preset.id ∧
          application.rows = LedgerRow.arrange progress.rows ∧
            (service.record preset user report progress).2 = { service with
              site := progress.site
              library := (service.library.replacePreset
                { preset with timeApplied := service.clock }).withApplication application } := by
  by_cases hnil : progress.rows = []
  · exact .inl (congrArg Prod.snd (record_of_nil hnil))
  · unfold record
    dsimp only
    rw [if_neg (by simpa using hnil)]
    split
    · rename_i application library hrecord
      obtain ⟨rfl, rfl⟩ := Library.eq_of_recordApplication hrecord
      exact .inr ⟨_, hnil, rfl, rfl, rfl, rfl⟩
    · exact .inl rfl

theorem evolves_installPlugins {plugins : List (Plugin × Int)}
    (hok : service.installPlugins plugins = .ok after) :
    service.site.Evolves after.site ∧ after = { service with site := after.site } := by
  obtain ⟨_, hcheck, hok⟩ := bind_eq_ok.1 hok
  split at hok
  · obtain rfl := Except.ok.inj hok
    refine ⟨.of_withPlugins _ fun hfit plugin enabled hplugin => ?_, rfl⟩
    have hplugin : Table.find? plugin (service.site.store.pluginTable.rows ++
      service.site.store.missing plugins) = some enabled := hplugin
    rw [Table.find?_append, Option.or_eq_some_iff] at hplugin
    rcases hplugin with hplugin | ⟨-, hplugin⟩
    · exact hfit plugin enabled hplugin
    · have hmem := List.mem_map_of_mem (f := Prod.snd) (Table.mem_of_find?_eq_some hplugin)
      exact Store.holds_of_fits (Library.checkNumbers_eq_ok.1 hcheck _ hmem) _
  · cases hok

namespace Advances

theorem refl (service : Service) : service.Advances limits service :=
  .settled rfl rfl

/-! ### Steps on the site -/

theorem of_unchanged {ε : Type} {found : Answer}
    (hok : (service.unchanged found : Except ε _) = .ok (answer, after)) : service.Advances limits after :=
  (Prod.mk.inj (Except.ok.inj hok)).2 ▸ refl service

theorem of_ofWrite {result : Except Refusal (Change × Site)}
    (hwrote : ∀ change site, result = .ok (change, site) → service.site.Wrote change site)
    (hok : service.ofWrite result = .ok (answer, after)) : service.Advances limits after := by
  obtain ⟨⟨change, site⟩, hresult, hok⟩ := bind_eq_ok.1 hok
  obtain ⟨-, rfl⟩ := Prod.mk.inj (Except.ok.inj hok)
  exact .site (.wrote (hwrote change site (asking_eq_ok.1 hresult)))

theorem of_write {key : Key} {facet value : Option String} {user : Option Int}
    (hok : service.write key facet value user = .ok (answer, after)) :
    service.Advances limits after := by
  obtain ⟨found, -, hok⟩ := bind_eq_ok.1 hok
  cases found with
  | none => cases hok
  | some live =>
    dsimp only at hok
    split at hok
    · exact of_ofWrite (fun _ _ hwrite => (Site.wrote_of_write hwrite).1) hok
    · split at hok
      · exact of_ofWrite (fun _ _ hwrite => (Site.wrote_of_set hwrite).1) hok
      · cases hok

theorem of_apply (service : Service) (presetId : Int) (request : ApplyRequest)
    (timeout : Option Int) :
    service.Advances limits (service.apply presetId request timeout).2 := by
  rcases service.apply_cases presetId request timeout with
    ⟨error, happly⟩ | ⟨preset, report, progress, hpreset, -, hrun, -, happly⟩ |
      ⟨preset, progress, -, -, -, hbegins, happly⟩
  · rw [happly]
    exact refl service
  · rw [happly]
    exact .applied (Library.mem_of_getPreset hpreset) hrun
  · obtain ⟨begun, -, -, report, hrun⟩ := hbegins.run_eq
    rw [happly]
    exact .site (Apply.evolves_run hrun)

theorem of_seed {exclusions : List Key} {default : String} (hopen : service.library.Open limits)
    (hvalues : ∀ text, limits.values (some text))
    (hok : service.seed exclusions default = .ok after) : service.Advances limits after := by
  unfold seed at hok
  split at hok
  · exact Except.ok.inj hok ▸ refl service
  · obtain ⟨⟨created, library⟩, hcores, hok⟩ := bind_eq_ok.1 hok
    have hcore : ∀ document ∈ Core.presets, ∀ item ∈ document.items, limits.values item.value := by
      have hsome : ∀ document ∈ Core.presets, ∀ item ∈ document.items, item.value.isSome := by
        decide
      intro document hdocument item hitem
      obtain ⟨text, htext⟩ := Option.isSome_iff_exists.1 (hsome document hdocument item hitem)
      exact htext ▸ hvalues text
    have hlibrary : service.Advances limits (service.withLibrary library) :=
      .library (Library.fills_addCores hopen hcore (leaving_eq_ok.1 hcores))
    dsimp only at hok
    split at hok
    · rename_i preset hpreset
      obtain ⟨⟨report, next⟩, hcommit, hok⟩ := bind_eq_ok.1 hok
      obtain rfl := Except.ok.inj hok
      have happly : (service.withLibrary library).Advances limits _ :=
        of_apply (service.withLibrary library) preset.id { exclusions } none
      generalize (service.withLibrary library).apply preset.id { exclusions } none = applied
        at hcommit happly
      obtain ⟨result, next⟩ := applied
      cases result with
      | error error => cases hcommit
      | ok report =>
        obtain ⟨-, rfl⟩ := Prod.mk.inj (Except.ok.inj hcommit)
        exact .trans hlibrary happly
    · exact Except.ok.inj hok ▸ hlibrary

theorem of_siteStep {step : SiteStep} (hopen : service.library.Open limits)
    (hvalues : ∀ text, limits.values (some text))
    (hok : service.siteStep step = .ok (answer, after)) : service.Advances limits after := by
  cases step with
  | set key value user => exact of_ofWrite (fun _ _ hset => (Site.wrote_of_set hset).1) hok
  | write key facet value user => exact of_write hok
  | setPlugin plugin enabled =>
    obtain ⟨⟨old, site⟩, hset, hok⟩ := bind_eq_ok.1 hok
    obtain ⟨-, rfl⟩ := Prod.mk.inj (Except.ok.inj hok)
    exact .site (.of_setPlugin (asking_eq_ok.1 hset))
  | setVisible component visible =>
    obtain ⟨-, rfl⟩ := Prod.mk.inj (Except.ok.inj hok)
    exact .site (.of_setVisible _ _ _)
  | install seeded default =>
    obtain ⟨next, hinstall, hok⟩ := bind_eq_ok.1 hok
    obtain ⟨-, rfl⟩ := Prod.mk.inj (Except.ok.inj hok)
    obtain ⟨middle, hplugins, hinstall⟩ := bind_eq_ok.1 hinstall
    obtain ⟨hevolves, hmiddle⟩ := evolves_installPlugins (leaving_eq_ok.1 hplugins)
    have hadvances : service.Advances limits middle := hmiddle ▸ .site hevolves
    have hlibrary : middle.library = service.library := by rw [hmiddle]
    split at hinstall
    · exact .trans hadvances (of_seed (hlibrary ▸ hopen) hvalues hinstall)
    · exact Except.ok.inj hinstall ▸ hadvances
  | installPlugins plugins =>
    obtain ⟨next, hplugins, hok⟩ := bind_eq_ok.1 hok
    obtain ⟨-, rfl⟩ := Prod.mk.inj (Except.ok.inj hok)
    obtain ⟨hevolves, hnext⟩ := evolves_installPlugins (leaving_eq_ok.1 hplugins)
    exact hnext ▸ .site hevolves
  | get | log | read | settings | tree =>
    obtain ⟨_, -, hok⟩ := bind_eq_ok.1 hok
    exact of_unchanged hok
  | plugin | plugins | handlers | scopeAvailable | visible => exact of_unchanged hok

/-! ### Steps on the library -/

theorem of_exportSite {request : ExportRequest} {preset : Preset}
    (hopen : service.library.Open limits) (hvalues : ∀ text, limits.values (some text))
    (hok : service.exportSite request = .ok (preset, after)) :
    service.Advances limits after ∧ preset ∈ after.library.presets := by
  obtain ⟨snapshot, -, hok⟩ := bind_eq_ok.1 hok
  obtain ⟨⟨created, first⟩, hcreate, hok⟩ := bind_eq_ok.1 hok
  obtain ⟨⟨filled, second⟩, hitems, hok⟩ := bind_eq_ok.1 hok
  dsimp only at hok
  split at hok
  · cases hok
  · obtain ⟨rfl, rfl⟩ := Prod.mk.inj (Except.ok.inj hok)
    have hplugins : second.addPlugins filled [] = .ok (filled, second) := rfl
    have hvalues : ∀ item ∈ Exchange.exportItems request service.exclusions snapshot,
        limits.values item.value := by
      intro item hitem
      obtain ⟨setting, -, rfl⟩ := List.mem_map.1 hitem
      exact hvalues _
    exact (Library.fills_filled hopen hvalues hcreate hitems hplugins).imp .library id

theorem of_importDocument {document : Document} {user : Option Int} {preset : Preset}
    (hopen : service.library.Open limits)
    (hvalues : ∀ item ∈ document.items, limits.values item.value)
    (hok : service.importDocument document user = .ok (preset, after)) :
    service.Advances limits after ∧ preset ∈ after.library.presets := by
  obtain ⟨snapshot, -, hok⟩ := bind_eq_ok.1 hok
  dsimp only at hok
  split at hok
  · cases hok
  · obtain ⟨⟨stored, library⟩, hsave, hok⟩ := bind_eq_ok.1 hok
    obtain ⟨rfl, rfl⟩ := Prod.mk.inj (Except.ok.inj hok)
    refine (Library.fills_save hopen (fun item hitem => ?_) hsave).imp .library id
    obtain ⟨source, hsource, hitem⟩ := List.mem_filterMap.1 hitem
    obtain ⟨live, -, rfl⟩ := Option.map_eq_some_iff.1 hitem
    exact hvalues source hsource

theorem of_importXml {text : String} {user : Option Int} {name : Option String} {preset : Preset}
    (hopen : service.library.Open limits) (hvalues : ∀ text, limits.values (some text))
    (hok : service.importXml text user name = .ok (preset, after)) :
    service.Advances limits after ∧ preset ∈ after.library.presets := by
  obtain ⟨document, hdocument, hok⟩ := bind_eq_ok.1 hok
  have hread : Document.ofXml text = .ok document := by
    cases hread : Document.ofXml text with
    | error fault =>
      rw [hread] at hdocument
      cases hdocument
    | ok read =>
      rw [hread] at hdocument
      exact congrArg Except.ok (Except.ok.inj hdocument)
  refine of_importDocument hopen (fun item hitem => ?_) hok
  obtain ⟨value, hvalue⟩ := Document.value_of_ofXml hread item hitem
  exact hvalue ▸ hvalues value

/-! ### Other steps -/

theorem of_worldStep {step : WorldStep} (hwithin : Step.Within limits (.world step))
    (hok : service.worldStep step = .ok (answer, after)) : service.Advances limits after := by
  cases step with
  | clock | exclude | unlock =>
    obtain ⟨-, rfl⟩ := Prod.mk.inj (Except.ok.inj hok)
    exact .settled rfl rfl
  | lock =>
    obtain ⟨_, -, hok⟩ := bind_eq_ok.1 hok
    obtain ⟨-, rfl⟩ := Prod.mk.inj (Except.ok.inj hok)
    exact .settled rfl rfl
  | declare tree =>
    obtain ⟨-, rfl⟩ := Prod.mk.inj (Except.ok.inj hok)
    exact .declared hwithin
  | protect readOnly pinned =>
    obtain ⟨-, rfl⟩ := Prod.mk.inj (Except.ok.inj hok)
    exact .guarded hwithin
  | uninstall plugin =>
    obtain ⟨-, rfl⟩ := Prod.mk.inj (Except.ok.inj hok)
    refine .site (.of_withPlugins _ fun hfit other enabled hplugin => ?_)
    rw [Table.get?_erase] at hplugin
    split at hplugin
    · cases hplugin
    · exact hfit other enabled hplugin
  | truncateLog | poke => exact hwithin.elim
  | raw | dump =>
    obtain ⟨_, -, hok⟩ := bind_eq_ok.1 hok
    exact of_unchanged hok
  | isLocked => exact of_unchanged hok

/-! ### Presets -/

theorem orderly (h : service.Advances limits after) (horderly : service.library.Orderly limits) :
    after.library.Orderly limits := by
  induction h with
  | settled _ hlibrary => exact hlibrary ▸ horderly
  | declared | guarded | site => exact horderly
  | library hlibrary => exact hlibrary.orderly horderly
  | @applied service preset request report progress hpreset =>
    rcases service.record_cases preset request.user report progress with
      hafter | ⟨application, -, -, -, -, hafter⟩
    · rw [hafter]
      exact horderly
    · rw [hafter]
      have hstamped : service.library.Fills limits _ := Library.fills_stamped hpreset service.clock
      exact (hstamped.orderly horderly).of_sublist (.refl _)
  | trans _ _ hfirst hrest => exact hrest (hfirst horderly)

theorem grows (h : service.Advances limits after) (horderly : service.library.Orderly limits) :
    service.library.Grows limits after.library := by
  induction h with
  | settled _ hlibrary => exact hlibrary ▸ .refl _
  | declared | guarded | site => exact .refl _
  | library hlibrary => exact hlibrary.grows horderly
  | @applied service preset request report progress hpreset =>
    rcases service.record_cases preset request.user report progress with
      hafter | ⟨application, -, -, -, -, hafter⟩
    · rw [hafter]
      exact .refl _
    · rw [hafter]
      have hstamped : service.library.Fills limits _ := Library.fills_stamped hpreset service.clock
      exact (hstamped.grows horderly).of_presets_eq rfl
  | trans hfirst _ ih ih' => exact (ih horderly).trans (ih' (hfirst.orderly horderly))

end Advances

namespace Becomes

theorem of_unchanged {ε : Type} {found : Answer}
    (hok : (service.unchanged found : Except ε _) = .ok (answer, after)) : service.Becomes limits after :=
  .advanced (.of_unchanged hok)

theorem of_ofLibrary {preset : Preset} {library : Library}
    (hlibrary : service.library.Fills limits library)
    (hok : (Except.ok (service.ofLibrary (preset, library)) : Except Error (Answer × Service)) =
      .ok (answer, after)) : service.Becomes limits after :=
  (Prod.mk.inj (Except.ok.inj hok)).2 ▸ .advanced (.library hlibrary)

theorem of_libraryStep {step : LibraryStep} (hopen : service.library.Open limits)
    (hvalues : ∀ text, limits.values (some text)) (hwithin : Step.Within limits (.library step))
    (hok : service.libraryStep step = .ok (answer, after)) : service.Becomes limits after := by
  cases step with
  | create heading =>
    obtain ⟨⟨preset, library⟩, hcreate, hok⟩ := bind_eq_ok.1 hok
    exact of_ofLibrary (Library.fills_create hcreate).1 hok
  | save document user timeImported =>
    obtain ⟨⟨preset, library⟩, hsave, hok⟩ := bind_eq_ok.1 hok
    exact of_ofLibrary (Library.fills_save hopen hwithin hsave).1 hok
  | update id name comments =>
    obtain ⟨⟨preset, library⟩, hupdate, hok⟩ := bind_eq_ok.1 hok
    exact of_ofLibrary (Library.fills_update hupdate) hok
  | addItem id item =>
    obtain ⟨preset, hpreset, hok⟩ := bind_eq_ok.1 hok
    obtain ⟨⟨row, stored, library⟩, hitem, hok⟩ := bind_eq_ok.1 hok
    obtain ⟨-, rfl⟩ := Prod.mk.inj (Except.ok.inj hok)
    have hallowed := Library.id_of_getPreset hpreset ▸ hwithin.1
    exact .advanced (.library
      (Library.fills_addItem (Library.mem_of_getPreset hpreset) hallowed hwithin.2 hitem).1)
  | addPlugin id plugin enabled =>
    obtain ⟨preset, hpreset, hok⟩ := bind_eq_ok.1 hok
    obtain ⟨whole, -, hok⟩ := bind_eq_ok.1 hok
    obtain ⟨⟨row, stored, library⟩, hplugin, hok⟩ := bind_eq_ok.1 hok
    obtain ⟨-, rfl⟩ := Prod.mk.inj (Except.ok.inj hok)
    have hallowed := Library.id_of_getPreset hpreset ▸ hwithin
    exact .advanced (.library
      (Library.fills_addPlugin (Library.mem_of_getPreset hpreset) hallowed hplugin).1)
  | delete id =>
    obtain ⟨library, hdelete, hok⟩ := bind_eq_ok.1 hok
    obtain ⟨-, rfl⟩ := Prod.mk.inj (Except.ok.inj hok)
    obtain ⟨preset, hpreset, hdelete⟩ := bind_eq_ok.1 hdelete
    obtain rfl := Except.ok.inj hdelete
    exact .deleted (Library.mem_of_getPreset hpreset) (Library.id_of_getPreset hpreset ▸ hwithin)
  | purge id =>
    obtain ⟨library, hpurge, hok⟩ := bind_eq_ok.1 hok
    obtain ⟨-, rfl⟩ := Prod.mk.inj (Except.ok.inj hok)
    obtain ⟨application, happlication, hpurge⟩ := bind_eq_ok.1 hpurge
    obtain rfl := Except.ok.inj hpurge
    have hreduced : service.Becomes limits
        (service.withLibrary (service.library.keepRows application [])) :=
      .reduced (.refl _) (Library.mem_of_getApplication happlication) (List.nil_sublist _)
    exact hreduced
  | exportSite request =>
    obtain ⟨⟨preset, next⟩, hexport, hok⟩ := bind_eq_ok.1 hok
    obtain ⟨-, rfl⟩ := Prod.mk.inj (Except.ok.inj hok)
    exact .advanced (Advances.of_exportSite hopen hvalues hexport).1
  | importXml text user name =>
    obtain ⟨⟨preset, next⟩, himport, hok⟩ := bind_eq_ok.1 hok
    obtain ⟨-, rfl⟩ := Prod.mk.inj (Except.ok.inj hok)
    exact .advanced (Advances.of_importXml hopen hvalues himport).1
  | importDocument document user =>
    obtain ⟨⟨preset, next⟩, himport, hok⟩ := bind_eq_ok.1 hok
    obtain ⟨-, rfl⟩ := Prod.mk.inj (Except.ok.inj hok)
    exact .advanced (Advances.of_importDocument hopen hwithin himport).1
  | preset | document | yaml | presetSettings | presetTree | application =>
    obtain ⟨_, -, hok⟩ := bind_eq_ok.1 hok
    exact of_unchanged hok
  | xml =>
    obtain ⟨_, -, hok⟩ := bind_eq_ok.1 hok
    obtain ⟨_, -, hok⟩ := bind_eq_ok.1 hok
    exact of_unchanged hok
  | applications preset => cases preset <;> exact of_unchanged hok
  | presets | find => exact of_unchanged hok

theorem of_rollback {applicationId : Int} {user : Option Int} {cancellation : Cancellation}
    {timeout : Option Int} {report : RollbackReport}
    (hok : service.rollback applicationId user cancellation timeout = .ok (report, after)) :
    service.Becomes limits after := by
  obtain ⟨application, happlication, hok⟩ := bind_eq_ok.1 hok
  obtain ⟨_, -, hok⟩ := bind_eq_ok.1 hok
  obtain ⟨state, hrun, hok⟩ := bind_eq_ok.1 hok
  obtain ⟨-, rfl⟩ := Prod.mk.inj (Except.ok.inj hok)
  have hrun := mapError_eq_ok.1 hrun
  obtain ⟨hsite, hrows⟩ := Rollback.evolves_run hrun
  have hdeleted : state.report.applicationDeleted = state.kept.isEmpty := by
    obtain ⟨_, -, hrun⟩ := bind_eq_ok.1 hrun
    obtain ⟨result, -, hrun⟩ := bind_eq_ok.1 hrun
    obtain rfl := Except.ok.inj hrun
    rfl
  have hlibrary : service.library.keepRows application state.kept =
      if state.report.applicationDeleted then service.library.removeApplication application.id
      else service.library.replaceApplication { application with rows := state.kept } := by
    unfold Library.keepRows
    rw [hdeleted]
    simp only [List.isEmpty_iff]
  have hreduced : service.Becomes limits _ :=
    .reduced hsite (Library.mem_of_getApplication (leaving_eq_ok.1 happlication)) hrows
  rwa [hlibrary] at hreduced

theorem of_attempt {step : Step} (hopen : service.library.Open limits)
    (hvalues : ∀ text, limits.values (some text)) (hwithin : step.Within limits)
    (h : service.attempt step = (.ok answer, after)) : service.Becomes limits after := by
  cases step with
  | site step => exact .advanced (.of_siteStep hopen hvalues (settle_eq_ok h))
  | library step => exact of_libraryStep hopen hvalues hwithin (leaving_eq_ok.1 (settle_eq_ok h))
  | world step => exact .advanced (.of_worldStep hwithin (leaving_eq_ok.1 (settle_eq_ok h)))
  | apply preset request timeout =>
    have hafter : (service.apply preset { request with exclusions := service.exclusions } timeout).2 =
        after := congrArg Prod.snd h
    exact hafter ▸ .advanced (.of_apply service _ _ _)
  | rollback application user cancellation timeout =>
    obtain ⟨⟨report, next⟩, hrollback, hok⟩ := bind_eq_ok.1 (settle_eq_ok h)
    obtain ⟨-, rfl⟩ := Prod.mk.inj (Except.ok.inj hok)
    exact of_rollback hrollback

theorem orderly (h : service.Becomes limits after) (horderly : service.library.Orderly limits) :
    after.library.Orderly limits := by
  cases h with
  | advanced h => exact h.orderly horderly
  | @reduced site application rows =>
    refine horderly.of_sublist ?_
    show (service.library.keepRows application rows).presets.Sublist _
    rw [Library.presets_keepRows]
  | deleted => exact horderly.of_sublist List.filter_sublist

theorem evolves_of_siteStep_error {step : SiteStep} {failure : Failure Error Service}
    (h : service.siteStep step = .error failure) : service.site.Evolves failure.left.site := by
  rcases left_of_siteStep_cases h with
    hleft | ⟨middle, hmiddle, hleft | ⟨library, preset, request, hleft⟩⟩
  · exact hleft ▸ .refl _
  · exact hleft ▸ (evolves_installPlugins hmiddle).1
  · rw [hleft]
    exact .trans (evolves_installPlugins hmiddle).1
      ((middle.withLibrary library).evolves_apply preset request none)

/-- All that a step that failed has done to the site are writes. -/
theorem evolves_of_failed {step : Step} {error : Error}
    (h : service.attempt step = (.error error, after)) : service.site.Evolves after.site := by
  by_cases hoperation : step.IsOperation
  · obtain ⟨changes, hoperates⟩ := service.operates_attempt hoperation
    rw [h] at hoperates
    exact .of_operates hoperates
  · cases step with
    | site step => exact evolves_of_siteStep_error (settle_eq_error h)
    | library step | world step => exact left_of_leaving (settle_eq_error h) ▸ .refl _
    | apply | rollback => exact absurd trivial hoperation

theorem of_step {step : Step} (hopen : service.library.Open limits)
    (hvalues : ∀ text, limits.values (some text)) (hwithin : step.Within limits) :
    service.Becomes limits (service.after step) := by
  unfold Service.after Service.step
  split
  · rename_i answer next hattempt
    exact of_attempt hopen hvalues hwithin hattempt
  · rename_i error next hattempt
    dsimp only
    unfold takeBack
    split
    · exact .advanced (.site (evolves_of_failed hattempt))
    · exact .advanced (.refl service)

end Becomes

end Service

end SitePresets
