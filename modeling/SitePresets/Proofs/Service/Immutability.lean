import Mathlib.Data.List.Pairwise
import SitePresets.Proofs.Apply.Preview
import SitePresets.Proofs.Library.Surviving
import SitePresets.Proofs.Service.History
import SitePresets.Proofs.Service.Inheritance

/-!
# Stored presets stay as they are

What a step leaves of the presets that are stored. Only an update names a preset anew, only an apply of it
stamps it, only what adds a row to it gives it one, and nothing changes the rest of it. A deletion takes the
preset with all that belongs to it, and no more.
-/

namespace SitePresets

/-- A step that adds an item or a plugin to the preset with a number. -/
def Step.AddsTo (id : Int) : Step → Prop
  | .library (.addItem preset _) | .library (.addPlugin preset _ _) => preset = id
  | _ => False

namespace Service

/-- A step that applies the preset with a number for real, and in doing so makes writes: it records an
application for them. -/
def Applies (service : Service) (step : Step) (id : Int) : Prop :=
  ∃ (request : ApplyRequest) (timeout : Option Int) (application : Application),
    step = .apply id request timeout ∧ request.simulate = false ∧
      application.presetId = id ∧ application.rows ≠ [] ∧
        (service.after step).library.applications = service.library.applications ++ [application]

/-- What a step leaves of a preset that it does not delete. -/
structure Spares (service : Service) (step : Step) (preset stored : Preset) : Prop where
  /-- Nothing else of the preset changes at all. -/
  stored_eq : stored = { preset with
    name := stored.name, comments := stored.comments, timeApplied := stored.timeApplied
    items := stored.items, plugins := stored.plugins }
  rows : ¬ step.AddsTo preset.id → stored.items = preset.items ∧ stored.plugins = preset.plugins
  named : stored.name = preset.name ∧ stored.comments = preset.comments ∨
    ∃ name comments, step = .library (.update preset.id name comments) ∧
      stored.name = name.getD preset.name ∧ stored.comments = comments.or preset.comments
  stamped : stored.timeApplied = preset.timeApplied ∨
    service.Applies step preset.id ∧ stored.timeApplied = service.clock

/-- What a deletion leaves of a service. Nothing but the library changes, and from that only the preset and
what belongs to it is gone. -/
structure Drops (service : Service) (preset : Preset) (after : Service) : Prop where
  after_eq : after = service.withLibrary after.library
  presets_eq : after.library.presets = service.library.presets.filter fun other => other ≠ preset
  applications_eq : after.library.applications =
    service.library.applications.filter fun application => application.presetId ≠ preset.id
  id : preset.id ∉ after.library.presets.map Preset.id
  items : ∀ row ∈ preset.items, row.id ∉ after.library.itemIds
  plugins : ∀ row ∈ preset.plugins, row.id ∉ after.library.pluginIds

variable {service after : Service} {step : Step} {preset : Preset} {answer : Answer}

/-! ### What an operation leaves of a preset -/

namespace Spares

theorem refl (preset : Preset) : service.Spares step preset preset :=
  ⟨rfl, fun _ => ⟨rfl, rfl⟩, .inl ⟨rfl, rfl⟩, .inl rfl⟩

theorem id_eq {stored : Preset} (h : service.Spares step preset stored) : stored.id = preset.id := by
  rw [h.stored_eq]

theorem exists_of_subset (hpreset : preset ∈ service.library.presets)
    (hsubset : service.library.presets ⊆ after.library.presets) :
    ∃ stored ∈ after.library.presets, service.Spares step preset stored :=
  ⟨preset, hsubset hpreset, refl preset⟩

/-- A preset that is put in the place of another spares all of them if it spares that one. -/
theorem exists_of_replaced {found stored : Preset} (horderly : service.library.Orderly {})
    (hpreset : preset ∈ service.library.presets) (hfound : found ∈ service.library.presets)
    (hafter : after.library.presets = (service.library.replacePreset stored).presets)
    (hspares : service.Spares step found stored) :
    ∃ stored ∈ after.library.presets, service.Spares step preset stored := by
  rw [hafter]
  by_cases hid : preset.id = found.id
  · obtain rfl := List.inj_on_of_nodup_map horderly.presets hpreset hfound hid
    exact ⟨stored, Library.mem_replacePreset hpreset hspares.id_eq, hspares⟩
  · refine ⟨preset, Library.mem_replacePreset_of_ne hpreset ?_, refl preset⟩
    rw [hspares.id_eq]
    exact hid

end Spares

/-! ### Operations that store presets -/

theorem presets_subset_exportSite {request : ExportRequest} {stored : Preset}
    (hok : service.exportSite request = .ok (stored, after)) :
    service.library.presets ⊆ after.library.presets := by
  obtain ⟨snapshot, -, hok⟩ := bind_eq_ok.1 hok
  obtain ⟨⟨created, first⟩, hcreate, hok⟩ := bind_eq_ok.1 hok
  obtain ⟨⟨filled, second⟩, hitems, hok⟩ := bind_eq_ok.1 hok
  dsimp only at hok
  split at hok
  · cases hok
  · obtain ⟨rfl, rfl⟩ := Prod.mk.inj (Except.ok.inj hok)
    exact ((Library.Adds.create (List.Subset.refl _) hcreate).addItems hitems).subset

theorem presets_subset_importDocument {document : Document} {user : Option Int} {stored : Preset}
    (hok : service.importDocument document user = .ok (stored, after)) :
    service.library.presets ⊆ after.library.presets := by
  obtain ⟨snapshot, -, hok⟩ := bind_eq_ok.1 hok
  dsimp only at hok
  split at hok
  · cases hok
  · obtain ⟨⟨saved, library⟩, hsave, hok⟩ := bind_eq_ok.1 hok
    obtain ⟨rfl, rfl⟩ := Prod.mk.inj (Except.ok.inj hok)
    exact (Library.Adds.save hsave).subset

/-- An apply leaves the library alone, or it stamps its preset and records an application for what it has
written. -/
theorem library_apply_cases (service : Service) (presetId : Int) (request : ApplyRequest)
    (timeout : Option Int) :
    (service.apply presetId request timeout).2.library = service.library ∨
      ∃ preset application, service.library.getPreset presetId = .ok preset ∧
        request.simulate = false ∧ application.presetId = preset.id ∧ application.rows ≠ [] ∧
          (service.apply presetId request timeout).2.library = (service.library.replacePreset
            { preset with timeApplied := service.clock }).withApplication application := by
  rcases service.apply_cases presetId request timeout with
    ⟨error, happly⟩ | ⟨preset, report, progress, hpreset, -, hrun, -, happly⟩ |
      ⟨_, _, -, -, -, -, happly⟩
  · rw [happly]
    exact .inl rfl
  · rw [happly]
    rcases service.record_cases preset request.user report progress with
      hafter | ⟨application, hwrote, -, howner, hrows, hafter⟩
    · rw [hafter]
      exact .inl rfl
    · refine .inr ⟨preset, application, hpreset, ?_, howner, ?_, by rw [hafter]⟩
      · -- A preview makes no progress, so it has no rows to record.
        cases hpreview : request.simulate with
        | false => rfl
        | true =>
          rw [Apply.progress_run hpreview hrun] at hwrote
          exact absurd rfl hwrote
      · intro hnil
        have hperm := LedgerRow.arrange_perm progress.rows
        rw [← hrows, hnil] at hperm
        exact hwrote hperm.nil_eq.symm
  · rw [happly]
    exact .inl rfl

theorem presets_subset_seed {exclusions : List Key} {default : String}
    (hok : service.seed exclusions default = .ok after) :
    service.library.presets ⊆ after.library.presets := by
  unfold seed at hok
  split at hok
  · obtain rfl := Except.ok.inj hok
    exact List.Subset.refl _
  · obtain ⟨⟨created, library⟩, hcores, hok⟩ := bind_eq_ok.1 hok
    obtain ⟨hsubset, hadds⟩ := Library.Adds.addCores (List.Subset.refl _) (leaving_eq_ok.1 hcores)
    dsimp only at hok
    split at hok
    · rename_i preset hpreset
      have hadds : service.library.Adds library preset := by
        unfold defaultPreset? at hpreset
        split at hpreset
        · cases hpreset
        · exact hadds preset (List.mem_of_find?_eq_some hpreset)
      obtain ⟨⟨report, next⟩, hcommit, hok⟩ := bind_eq_ok.1 hok
      obtain rfl : next = after := Except.ok.inj hok
      have hnext : next = ((service.withLibrary library).apply preset.id { exclusions } none).2 := by
        generalize (service.withLibrary library).apply preset.id { exclusions } none = applied
          at hcommit
        obtain ⟨result, other⟩ := applied
        cases result with
        | error error => cases hcommit
        | ok report => exact (Prod.mk.inj (Except.ok.inj hcommit)).2.symm
      rw [hnext]
      rcases (service.withLibrary library).library_apply_cases preset.id { exclusions } none with
        hlibrary | ⟨found, application, hfound, -, -, -, hlibrary⟩
      · rw [hlibrary]
        exact hsubset
      · rw [hlibrary]
        exact hadds.stamped hfound _
    · obtain rfl := Except.ok.inj hok
      exact hsubset

/-! ### Steps -/

theorem library_of_unchanged {ε : Type} {found : Answer}
    (hok : (service.unchanged found : Except ε _) = .ok (answer, after)) :
    after.library = service.library :=
  congrArg library (Prod.mk.inj (Except.ok.inj hok)).2.symm

theorem library_ofWrite {result : Except Refusal (Change × Site)}
    (hok : service.ofWrite result = .ok (answer, after)) : after.library = service.library := by
  obtain ⟨⟨change, site⟩, -, hok⟩ := bind_eq_ok.1 hok
  obtain ⟨-, rfl⟩ := Prod.mk.inj (Except.ok.inj hok)
  rfl

theorem library_write {key : Key} {facet value : Option String} {user : Option Int}
    (hok : service.write key facet value user = .ok (answer, after)) :
    after.library = service.library := by
  obtain ⟨found, -, hok⟩ := bind_eq_ok.1 hok
  cases found with
  | none => cases hok
  | some live =>
    dsimp only at hok
    split at hok
    · exact library_ofWrite hok
    · split at hok
      · exact library_ofWrite hok
      · cases hok

theorem library_installPlugins {plugins : List (Plugin × Int)}
    (hok : service.installPlugins plugins = .ok after) : after.library = service.library := by
  obtain ⟨_, -, hok⟩ := bind_eq_ok.1 hok
  split at hok
  · obtain rfl := Except.ok.inj hok
    rfl
  · cases hok

theorem presets_subset_siteStep {step : SiteStep} (hok : service.siteStep step = .ok (answer, after)) :
    service.library.presets ⊆ after.library.presets := by
  have hsame (h : after.library = service.library) :
      service.library.presets ⊆ after.library.presets := h ▸ List.Subset.refl _
  cases step with
  | set key value user => exact hsame (library_ofWrite hok)
  | write key facet value user => exact hsame (library_write hok)
  | setPlugin plugin enabled =>
    obtain ⟨⟨old, site⟩, -, hok⟩ := bind_eq_ok.1 hok
    obtain ⟨-, rfl⟩ := Prod.mk.inj (Except.ok.inj hok)
    exact hsame rfl
  | setVisible component visible =>
    obtain ⟨-, rfl⟩ := Prod.mk.inj (Except.ok.inj hok)
    exact hsame rfl
  | install seeded default =>
    obtain ⟨next, hinstall, hok⟩ := bind_eq_ok.1 hok
    obtain ⟨-, rfl⟩ := Prod.mk.inj (Except.ok.inj hok)
    obtain ⟨middle, hplugins, hinstall⟩ := bind_eq_ok.1 hinstall
    rw [← library_installPlugins (leaving_eq_ok.1 hplugins)]
    split at hinstall
    · exact presets_subset_seed hinstall
    · obtain rfl := Except.ok.inj hinstall
      exact List.Subset.refl _
  | installPlugins plugins =>
    obtain ⟨next, hplugins, hok⟩ := bind_eq_ok.1 hok
    obtain ⟨-, rfl⟩ := Prod.mk.inj (Except.ok.inj hok)
    exact hsame (library_installPlugins (leaving_eq_ok.1 hplugins))
  | get | log | read | settings | tree =>
    obtain ⟨_, -, hok⟩ := bind_eq_ok.1 hok
    exact hsame (library_of_unchanged hok)
  | plugin | plugins | handlers | scopeAvailable | visible =>
    exact hsame (library_of_unchanged hok)

theorem library_worldStep {step : WorldStep} (hok : service.worldStep step = .ok (answer, after)) :
    after.library = service.library := by
  cases step with
  | clock | exclude | unlock | declare | protect | uninstall | truncateLog =>
    obtain ⟨-, rfl⟩ := Prod.mk.inj (Except.ok.inj hok)
    rfl
  | lock =>
    obtain ⟨_, -, hok⟩ := bind_eq_ok.1 hok
    obtain ⟨-, rfl⟩ := Prod.mk.inj (Except.ok.inj hok)
    rfl
  | poke key text =>
    obtain ⟨next, hpoke, hok⟩ := bind_eq_ok.1 hok
    obtain ⟨-, rfl⟩ := Prod.mk.inj (Except.ok.inj hok)
    unfold poke at hpoke
    split at hpoke
    · obtain rfl := Except.ok.inj hpoke
      rfl
    · split at hpoke
      · obtain rfl := Except.ok.inj hpoke
        rfl
      · cases hpoke
  | raw | dump =>
    obtain ⟨_, -, hok⟩ := bind_eq_ok.1 hok
    exact library_of_unchanged hok
  | isLocked => exact library_of_unchanged hok

namespace Spares

theorem of_libraryStep {step : LibraryStep} (horderly : service.library.Orderly {})
    (hpreset : preset ∈ service.library.presets) (hstep : step ≠ .delete preset.id)
    (hok : service.libraryStep step = .ok (answer, after)) :
    ∃ stored ∈ after.library.presets, service.Spares (.library step) preset stored := by
  have hsame (h : after.library = service.library) :
      ∃ stored ∈ after.library.presets, service.Spares (.library step) preset stored :=
    exists_of_subset hpreset (h ▸ List.Subset.refl _)
  cases step with
  | create heading =>
    obtain ⟨⟨stored, library⟩, hcreate, hok⟩ := bind_eq_ok.1 hok
    obtain ⟨-, rfl⟩ := Prod.mk.inj (Except.ok.inj hok)
    exact exists_of_subset hpreset (Library.Adds.create (List.Subset.refl _) hcreate).subset
  | save document user timeImported =>
    obtain ⟨⟨stored, library⟩, hsave, hok⟩ := bind_eq_ok.1 hok
    obtain ⟨-, rfl⟩ := Prod.mk.inj (Except.ok.inj hok)
    exact exists_of_subset hpreset (Library.Adds.save hsave).subset
  | update id name comments =>
    obtain ⟨⟨stored, library⟩, hupdate, hok⟩ := bind_eq_ok.1 hok
    obtain ⟨-, rfl⟩ := Prod.mk.inj (Except.ok.inj hok)
    obtain ⟨found, hfound, hupdate⟩ := bind_eq_ok.1 hupdate
    obtain ⟨rfl, rfl⟩ := Prod.mk.inj (Except.ok.inj hupdate)
    obtain rfl := Library.id_of_getPreset hfound
    exact exists_of_replaced horderly hpreset (Library.mem_of_getPreset hfound) rfl
      ⟨rfl, fun _ => ⟨rfl, rfl⟩, .inr ⟨name, comments, rfl, rfl, rfl⟩, .inl rfl⟩
  | addItem id item =>
    obtain ⟨found, hfound, hok⟩ := bind_eq_ok.1 hok
    obtain ⟨⟨row, stored, library⟩, hitem, hok⟩ := bind_eq_ok.1 hok
    obtain ⟨-, rfl⟩ := Prod.mk.inj (Except.ok.inj hok)
    obtain ⟨-, -, rfl, rfl⟩ := Library.addItem_eq_ok hitem
    exact exists_of_replaced horderly hpreset (Library.mem_of_getPreset hfound) rfl
      ⟨rfl, fun hnot => absurd (Library.id_of_getPreset hfound).symm hnot, .inl ⟨rfl, rfl⟩, .inl rfl⟩
  | addPlugin id plugin enabled =>
    obtain ⟨found, hfound, hok⟩ := bind_eq_ok.1 hok
    obtain ⟨whole, -, hok⟩ := bind_eq_ok.1 hok
    obtain ⟨⟨row, stored, library⟩, hplugin, hok⟩ := bind_eq_ok.1 hok
    obtain ⟨-, rfl⟩ := Prod.mk.inj (Except.ok.inj hok)
    obtain ⟨-, -, rfl, rfl⟩ := Library.addPlugin_eq_ok hplugin
    exact exists_of_replaced horderly hpreset (Library.mem_of_getPreset hfound) rfl
      ⟨rfl, fun hnot => absurd (Library.id_of_getPreset hfound).symm hnot, .inl ⟨rfl, rfl⟩, .inl rfl⟩
  | delete id =>
    obtain ⟨library, hdelete, hok⟩ := bind_eq_ok.1 hok
    obtain ⟨-, rfl⟩ := Prod.mk.inj (Except.ok.inj hok)
    obtain ⟨found, hfound, hdelete⟩ := bind_eq_ok.1 hdelete
    obtain rfl := Except.ok.inj hdelete
    have hother : preset.id ≠ found.id := by
      intro hid
      rw [← Library.id_of_getPreset hfound, hid] at hstep
      exact hstep rfl
    exact ⟨preset, List.mem_filter.2 ⟨hpreset, decide_eq_true hother⟩, refl preset⟩
  | purge id =>
    obtain ⟨library, hpurge, hok⟩ := bind_eq_ok.1 hok
    obtain ⟨-, rfl⟩ := Prod.mk.inj (Except.ok.inj hok)
    obtain ⟨application, -, hpurge⟩ := bind_eq_ok.1 hpurge
    obtain rfl := Except.ok.inj hpurge
    exact exists_of_subset hpreset (List.Subset.refl _)
  | exportSite request =>
    obtain ⟨⟨stored, next⟩, hexport, hok⟩ := bind_eq_ok.1 hok
    obtain ⟨-, rfl⟩ := Prod.mk.inj (Except.ok.inj hok)
    exact exists_of_subset hpreset (presets_subset_exportSite hexport)
  | importXml text user name =>
    obtain ⟨⟨stored, next⟩, himport, hok⟩ := bind_eq_ok.1 hok
    obtain ⟨-, rfl⟩ := Prod.mk.inj (Except.ok.inj hok)
    obtain ⟨document, -, himport⟩ := bind_eq_ok.1 himport
    exact exists_of_subset hpreset (presets_subset_importDocument himport)
  | importDocument document user =>
    obtain ⟨⟨stored, next⟩, himport, hok⟩ := bind_eq_ok.1 hok
    obtain ⟨-, rfl⟩ := Prod.mk.inj (Except.ok.inj hok)
    exact exists_of_subset hpreset (presets_subset_importDocument himport)
  | preset | document | yaml | presetSettings | presetTree | application =>
    obtain ⟨_, -, hok⟩ := bind_eq_ok.1 hok
    exact hsame (library_of_unchanged hok)
  | xml =>
    obtain ⟨_, -, hok⟩ := bind_eq_ok.1 hok
    obtain ⟨_, -, hok⟩ := bind_eq_ok.1 hok
    exact hsame (library_of_unchanged hok)
  | applications preset => cases preset <;> exact hsame (library_of_unchanged hok)
  | presets | find => exact hsame (library_of_unchanged hok)

end Spares

theorem presets_rollback {applicationId : Int} {user : Option Int} {cancellation : Cancellation}
    {timeout : Option Int} {report : RollbackReport}
    (hok : service.rollback applicationId user cancellation timeout = .ok (report, after)) :
    after.library.presets = service.library.presets := by
  obtain ⟨application, -, hok⟩ := bind_eq_ok.1 hok
  obtain ⟨_, -, hok⟩ := bind_eq_ok.1 hok
  obtain ⟨state, -, hok⟩ := bind_eq_ok.1 hok
  obtain ⟨-, rfl⟩ := Prod.mk.inj (Except.ok.inj hok)
  dsimp only
  split <;> rfl

/-- A step leaves the library as it is, or it does not fail. -/
theorem library_after_cases (service : Service) (step : Step) :
    (service.after step).library = service.library ∨
      ∃ answer, service.attempt step = (.ok answer, service.after step) := by
  unfold Service.after Service.step
  split
  · rename_i answer next hattempt
    exact .inr ⟨answer, hattempt⟩
  · left
    dsimp only
    unfold takeBack
    split <;> rfl

theorem orderly_after (h : service.library.Orderly {}) (step : Step) :
    (service.after step).library.Orderly {} := by
  have hbecomes (hlogged : step.Logged) : (service.after step).library.Orderly {} :=
    (Becomes.of_step (fun _ _ => trivial) (fun _ => trivial) hlogged.within).orderly h
  cases step with
  | site | library | apply | rollback => exact hbecomes trivial
  | world step =>
    rcases service.library_after_cases (.world step) with hlibrary | ⟨answer, hattempt⟩
    · exact hlibrary ▸ h
    · exact library_worldStep (leaving_eq_ok.1 (settle_eq_ok hattempt)) ▸ h

/-- Whatever is done to a service that starts with an empty library, each number stands for one row. -/
theorem orderly_run (h : service.library.Orderly {}) (steps : List Step) :
    (service.run steps).2.library.Orderly {} := by
  induction steps generalizing service with
  | nil => exact h
  | cons step rest ih => exact ih (orderly_after h step)

theorem Spares.of_step (horderly : service.library.Orderly {})
    (hpreset : preset ∈ service.library.presets) (hstep : step ≠ .library (.delete preset.id)) :
    ∃ stored ∈ (service.after step).library.presets, service.Spares step preset stored := by
  rcases service.library_after_cases step with hlibrary | ⟨answer, hattempt⟩
  · exact exists_of_subset hpreset (hlibrary ▸ List.Subset.refl _)
  · cases step with
    | site step => exact exists_of_subset hpreset (presets_subset_siteStep (settle_eq_ok hattempt))
    | library step =>
      exact of_libraryStep horderly hpreset (fun heq => hstep (congrArg Step.library heq))
        (leaving_eq_ok.1 (settle_eq_ok hattempt))
    | world step =>
      have hlibrary := library_worldStep (leaving_eq_ok.1 (settle_eq_ok hattempt))
      exact exists_of_subset hpreset (hlibrary ▸ List.Subset.refl _)
    | rollback application user cancellation timeout =>
      obtain ⟨⟨report, next⟩, hrollback, hok⟩ := bind_eq_ok.1 (settle_eq_ok hattempt)
      obtain ⟨-, hnext⟩ := Prod.mk.inj (Except.ok.inj hok)
      rw [← hnext]
      exact exists_of_subset hpreset (presets_rollback hrollback ▸ List.Subset.refl _)
    | apply id request timeout =>
      have hafter : (service.apply id { request with exclusions := service.exclusions } timeout).2 =
          service.after (.apply id request timeout) := congrArg Prod.snd hattempt
      rcases service.library_apply_cases id { request with exclusions := service.exclusions } timeout
        with hlibrary | ⟨found, application, hfound, hreal, howner, hrows, hlibrary⟩
      · rw [hafter] at hlibrary
        exact exists_of_subset hpreset (hlibrary ▸ List.Subset.refl _)
      · rw [hafter] at hlibrary
        obtain rfl := Library.id_of_getPreset hfound
        have happlies : service.Applies (.apply found.id request timeout) found.id :=
          ⟨request, timeout, application, rfl, hreal, congrArg Int.ofNat howner, hrows, by
            rw [hlibrary]
            rfl⟩
        have hpresets : (service.after (.apply found.id request timeout)).library.presets =
            (service.library.replacePreset { found with timeApplied := service.clock }).presets := by
          rw [hlibrary]
          rfl
        exact exists_of_replaced horderly hpreset (Library.mem_of_getPreset hfound) hpresets
          ⟨rfl, fun _ => ⟨rfl, rfl⟩, .inl ⟨rfl, rfl⟩, .inr ⟨happlies, rfl⟩⟩

/-! ### Deletions -/

theorem step_delete {id : Int} (hpreset : service.library.getPreset id = .ok preset) :
    service.step (.library (.delete id)) =
      (.ok .done, service.withLibrary (service.library.without preset)) := by
  have hdelete : service.library.delete id = .ok (service.library.without preset) := by
    unfold Library.delete
    rw [hpreset]
    rfl
  have hstep : service.libraryStep (.delete id) =
      service.library.delete id >>= fun library => .ok (.done, service.withLibrary library) := rfl
  rw [hdelete, ok_bind] at hstep
  have hattempt : service.attempt (.library (.delete id)) =
      settle (leaving service (service.libraryStep (.delete id))) := rfl
  unfold Service.step
  rw [hattempt, hstep]
  rfl

theorem after_delete {id : Int} (hpreset : service.library.getPreset id = .ok preset) :
    service.after (.library (.delete id)) =
      service.withLibrary (service.library.without preset) :=
  congrArg Prod.snd (step_delete hpreset)

/-- Rows of different presets have different numbers, so with a preset the numbers of its rows are gone. -/
theorem not_mem_flatMap_of_nodup {α : Type} {f : α → List Nat} {rows kept : List α} {row : α} {id : Nat}
    (hnodup : (rows.flatMap f).Nodup) (hrow : row ∈ rows) (hid : id ∈ f row)
    (hkept : ∀ other ∈ kept, other ∈ rows ∧ other ≠ row) : id ∉ kept.flatMap f := by
  intro hmem
  obtain ⟨other, hother, hid'⟩ := List.mem_flatMap.1 hmem
  obtain ⟨hrows, hne⟩ := hkept other hother
  have hdisjoint : rows.Pairwise fun a b => List.Disjoint (f a) (f b) :=
    (List.nodup_flatMap.1 hnodup).2
  have hsymm : Std.Symm fun a b => List.Disjoint (f a) (f b) :=
    ⟨fun _ _ h _ hb ha => h ha hb⟩
  exact hdisjoint.forall hrows hrow hne hid' hid

theorem Drops.of_without (horderly : service.library.Orderly {})
    (hpreset : preset ∈ service.library.presets) :
    service.Drops preset (service.withLibrary (service.library.without preset)) := by
  have hsame (other : Preset) (hother : other ∈ service.library.presets) :
      other.id ≠ preset.id ↔ other ≠ preset :=
    not_congr ⟨List.inj_on_of_nodup_map horderly.presets hother hpreset, congrArg Preset.id⟩
  have hpresets : (service.library.without preset).presets =
      service.library.presets.filter fun other => other ≠ preset :=
    List.filter_congr fun other hother => decide_eq_decide.2 (hsame other hother)
  have hkept (other : Preset) (hother : other ∈ (service.library.without preset).presets) :
      other ∈ service.library.presets ∧ other ≠ preset := by
    rw [hpresets] at hother
    exact (List.mem_filter.1 hother).imp_right of_decide_eq_true
  exact {
    after_eq := rfl
    presets_eq := hpresets
    applications_eq := rfl
    id := by
      intro hid
      obtain ⟨other, hother, heq⟩ := List.mem_map.1 hid
      obtain ⟨hmem, hne⟩ := hkept other hother
      exact (hsame other hmem).2 hne heq
    items := fun row hrow => not_mem_flatMap_of_nodup horderly.items hpreset
      (List.mem_map_of_mem hrow) hkept
    plugins := fun row hrow => not_mem_flatMap_of_nodup horderly.plugins hpreset
      (List.mem_map_of_mem hrow) hkept }

/-- In a session that starts with an empty library, a stored preset stays as it is. Any step but its deletion
leaves it under its number: with another name or other comments only after its update, with another time of
application only after an apply of it that wrote something, with other rows only if it was given some, and
else without any change. Its deletion succeeds if its number fits a column; then the preset is gone with its
rows and its applications, and all else is as it was. -/
theorem presets_immutable {service : Service} (hlibrary : service.library = {}) (steps : List Step)
    {preset : Preset} (hpreset : preset ∈ (service.run steps).2.library.presets) :
    (∀ step : Step, step ≠ .library (.delete preset.id) →
      ∃ stored, ((service.run steps).2.after step).library.preset? preset.id = some stored ∧
        (service.run steps).2.Spares step preset stored) ∧
      (fitsColumn preset.id →
        ((service.run steps).2.step (.library (.delete preset.id))).1 = .ok .done ∧
          (service.run steps).2.Drops preset
            ((service.run steps).2.after (.library (.delete preset.id)))) := by
  have horderly : (service.run steps).2.library.Orderly {} :=
    orderly_run (hlibrary ▸ Library.orderly_empty {}) steps
  constructor
  · intro step hstep
    obtain ⟨stored, hstored, hspares⟩ := Spares.of_step horderly hpreset hstep
    refine ⟨stored, ?_, hspares⟩
    rw [← hspares.id_eq]
    exact (orderly_after horderly step).preset_of_mem hstored
  · intro hfits
    have hfound := Library.getPreset_of_preset hfits (horderly.preset_of_mem hpreset)
    refine ⟨congrArg Prod.fst (step_delete hfound), ?_⟩
    rw [after_delete hfound]
    exact .of_without horderly hpreset

end Service

namespace SmallSite

/-- What is stored when a preset was deleted and another one has got its number. -/
def loud : Preset where
  id := 1
  name := "Loud"
  comments := none
  author := none
  user := none
  site := none
  release := none
  core := 0
  timeCreated := 0
  timeImported := 0
  timeApplied := 0
  items := [⟨1, { key := notice, value := some "open", attributes := [] }⟩]
  plugins := []

theorem loud_immutable :
    (∀ step : Step, step ≠ .library (.delete loud.id) →
      ∃ stored, ((bareService.run turnover).2.after step).library.preset? loud.id = some stored ∧
        (bareService.run turnover).2.Spares step loud stored) ∧
      (fitsColumn loud.id →
        ((bareService.run turnover).2.step (.library (.delete loud.id))).1 = .ok .done ∧
          (bareService.run turnover).2.Drops loud
            ((bareService.run turnover).2.after (.library (.delete loud.id)))) :=
  Service.presets_immutable rfl turnover
    (by decide +kernel : loud ∈ (bareService.run turnover).2.library.presets)

end SmallSite

end SitePresets
