import SitePresets.Proofs.Apply.Accounting
import SitePresets.Proofs.Library.Saving
import SitePresets.Proofs.Service.Secrecy
import SitePresets.Service.Step

/-!
# What a site admits

A site admits of a document what it knows: the items of its settings, and of their attributes the facets
that the settings have. If it knows no item, nothing is stored. An apply finds all that was admitted.
-/

namespace SitePresets

open Exchange

/-- Whether a setting has a facet whose variable has a name. -/
def Descriptor.supports (live : Descriptor) (variableName : String) : Bool :=
  live.kind.facets.any fun facet => facet.variableOf live.declared.name = variableName

theorem Descriptor.isSome_facetOfVariable (live : Descriptor) (variableName : String) :
    (live.facetOfVariable? variableName).isSome = live.supports variableName := by
  unfold facetOfVariable? supports
  rw [Bool.eq_iff_iff, List.find?_isSome, List.any_eq_true]

namespace Snapshot

/-- What is stored for an item of a document: its value, and the attributes that the setting supports. -/
structure Admits (snapshot : Snapshot) (item stored : Item) : Prop where
  key_eq : stored.key = item.key
  value_eq : stored.value = item.value
  attributes_eq : ∃ live, snapshot.get? item.key = some live ∧
    stored.attributes = item.attributes.filter fun row => live.supports row.1

variable {snapshot : Snapshot} {site : Site} {items : List Item}

/-- The known items are admitted, in their order. -/
theorem admits_importItems (snapshot : Snapshot) (items : List Item) :
    List.Forall₂ snapshot.Admits (items.filter fun item => snapshot.contains item.key)
      (importItems snapshot items) := by
  induction items with
  | nil => exact .nil
  | cons item rest ih =>
    unfold importItems at ih ⊢
    rw [List.filter_cons, List.filterMap_cons]
    unfold Table.contains at ih ⊢
    cases hlive : snapshot.get? item.key with
    | none => exact ih
    | some live =>
      refine .cons ⟨rfl, rfl, live, hlive, ?_⟩ ih
      exact List.filter_congr fun row _ => live.isSome_facetOfVariable row.1

theorem importItems_eq_nil_iff :
    importItems snapshot items = [] ↔ ∀ item ∈ items, snapshot.get? item.key = none := by
  unfold importItems
  rw [List.filterMap_eq_nil_iff]
  simp only [Option.map_eq_none_iff]

theorem keys_of_admits {stored : List Item} (h : List.Forall₂ snapshot.Admits items stored) :
    stored.map Item.key = items.map Item.key := by
  induction h with
  | nil => rfl
  | cons hadmits _ ih => rw [List.map_cons, List.map_cons, hadmits.key_eq, ih]

/-- What is admitted can be applied: its setting is there, and supports its attributes. -/
theorem known_of_admits {stored : List Item} (h : List.Forall₂ snapshot.Admits items stored) :
    ∀ item ∈ stored, ∃ live, snapshot.get? item.key = some live ∧
      ∀ pair ∈ item.attributes, live.supports pair.1 := by
  induction h with
  | nil => exact fun _ hitem => nomatch hitem
  | cons hadmits _ ih =>
    refine List.forall_mem_cons.2 ⟨?_, ih⟩
    obtain ⟨live, hlive, hattributes⟩ := hadmits.attributes_eq
    rw [hadmits.key_eq, hattributes]
    exact ⟨live, hlive, fun pair hpair => (List.mem_filter.1 hpair).2⟩

/-- The keys of the items that a site knows, as often as there are items for them. -/
def knownKeys (snapshot : Snapshot) (items : List Item) : List Key :=
  (items.map Item.key).filter snapshot.contains

theorem keys_importItems (snapshot : Snapshot) (items : List Item) :
    (importItems snapshot items).map Item.key = snapshot.knownKeys items := by
  rw [keys_of_admits (admits_importItems snapshot items), knownKeys, List.filter_map]
  rfl

/-- What is admitted has a scope, so it is stored under its own key. -/
theorem placed_importItems (h : Snapshot.ofSite site = .ok snapshot) (items : List Item) :
    (importItems snapshot items).map Item.placed = importItems snapshot items := by
  conv => rhs; rw [← List.map_id (importItems snapshot items)]
  refine List.map_congr_left fun stored hstored => ?_
  obtain ⟨item, -, hstored⟩ := List.mem_filterMap.1 hstored
  obtain ⟨live, hlive, rfl⟩ := Option.map_eq_some_iff.1 hstored
  have hscope : item.key.scope ≠ "" := by
    rw [← (Apply.declared_of_get h hlive).2]
    exact live.declared.scope_ne_empty
  unfold Item.placed keepSupported
  exact congrArg (fun key => ({ item with key, attributes := _ } : Item)) (if_neg hscope)

theorem placedKeys_importItems (h : Snapshot.ofSite site = .ok snapshot) (items : List Item) :
    ((importItems snapshot items).map fun item => item.placed.key) = snapshot.knownKeys items := by
  show (importItems snapshot items).map (Item.key ∘ Item.placed) = _
  rw [← List.map_map, placed_importItems h, keys_importItems]

/-- What an import makes of a document: a preset with the head and the plugins of the document, and with what
is known of its items. -/
structure Imports (snapshot : Snapshot) (document : Document) (user : Option Int) (preset : Preset) :
    Prop where
  name_eq : preset.name = document.name
  comments_eq : preset.comments = document.comments
  author_eq : preset.author = document.author
  user_eq : preset.user = user
  site_eq : preset.site = document.site
  release_eq : preset.release = document.release
  items : List.Forall₂ snapshot.Admits (document.items.filter fun item => snapshot.contains item.key)
    (preset.items.map StoredItem.item)
  plugins_eq : preset.plugins.map (fun row => (row.plugin, row.enabled)) = document.plugins

end Snapshot

/-! ### Previews -/

namespace Apply

variable {request : ApplyRequest} {snapshot : Snapshot} {site : Site} {preset : Preset}
  {report : ApplyReport} {items : List Item} {entries : List Entry} {entry : Entry}

/-- A report of a preset of which everything is known: only a plugin that is not installed is not applicable,
and each attribute gives its setting a facet. -/
structure FindsAll (snapshot : Snapshot) (site : Site) (preset : Preset) (report : ApplyReport) : Prop where
  notApplicable_eq : report.notApplicable = []
  plugins : List.Forall₂ (fun (row : StoredPlugin) (entry : Entry) =>
    entry.status = .notApplicable ↔ site.store.plugin? row.plugin = none) preset.plugins report.plugins
  attributes : ∀ row ∈ preset.items, ∃ live, snapshot.get? row.item.key = some live ∧
    ∀ pair ∈ row.item.attributes, ∃ facet, live.facetOfVariable? pair.1 = some facet ∧
      (live.withStored row.item.value row.item.attributes).facet? facet =
        (Table.find? pair.1 row.item.attributes.reverse).join.map Value.textIsOn

theorem exists_classified (h : List.Forall₂ (Classified request snapshot) items entries)
    (hentry : entry ∈ entries) : ∃ item ∈ items, Classified request snapshot item entry := by
  induction h with
  | nil => cases hentry
  | @cons item _ _ _ hfirst _ ih =>
    rcases List.mem_cons.1 hentry with rfl | hentry
    · exact ⟨item, List.mem_cons_self, hfirst⟩
    · obtain ⟨other, hother, hclassified⟩ := ih hentry
      exact ⟨other, List.mem_cons_of_mem _ hother, hclassified⟩

theorem notApplicable_eq_nil (h : Accounts request snapshot site preset entries report)
    (hknown : ∀ row ∈ preset.items, snapshot.get? row.item.key ≠ none) : report.notApplicable = [] := by
  rw [h.notApplicable_eq, List.filter_eq_nil_iff]
  intro entry hentry hstatus
  have hstatus : entry.status = .notApplicable := of_decide_eq_true hstatus
  rw [← List.take_append_drop (reached request snapshot site preset) entries] at hentry
  rcases List.mem_append.1 hentry with hentry | hentry
  · obtain ⟨item, hitem, hclassified⟩ := exists_classified h.classified hentry
    obtain ⟨row, hrow, rfl⟩ := List.mem_map.1 (List.mem_of_mem_take hitem)
    exact hknown row hrow (hclassified.notApplicable_iff.1 hstatus).2
  · rw [h.rest_eq] at hentry
    obtain ⟨item, -, rfl⟩ := List.mem_map.1 hentry
    cases hstatus

theorem notApplicable_applyPlugin (progress : Progress) (row : StoredPlugin) :
    (applyPlugin request progress row).1.status = .notApplicable ↔
      progress.site.store.plugin? row.plugin = none := by
  unfold applyPlugin
  cases progress.site.store.plugin? row.plugin with
  | none => exact iff_of_true rfl rfl
  | some current =>
    refine iff_of_false (fun hstatus => ?_) (Option.some_ne_none current)
    dsimp only at hstatus
    split at hstatus
    · cases hstatus
    · split at hstatus <;> cases hstatus

/-- A preview that nobody cancels finds all that is known. -/
theorem exists_preview (hsnapshot : Snapshot.ofSite site = .ok snapshot)
    (hpreview : request.simulate = true) (hnever : request.cancellation = .never)
    (hknown : ∀ item ∈ preset.items.map StoredItem.item, ∃ live, snapshot.get? item.key = some live ∧
      ∀ pair ∈ item.attributes, live.supports pair.1) :
    ∃ report, run request site preset = .ok (report, { site }) ∧ FindsAll snapshot site preset report := by
  have hprogress : (overItems request snapshot site preset).2 = { site } :=
    progress_applyItems hpreview _ _ _ _
  have hrun := @run_of_not_cancelled request snapshot site preset true hsnapshot
    (cancelled_of_never hnever _ _ _ _)
  rw [hprogress, applyPlugins_of_preview hpreview, List.nil_append] at hrun
  obtain ⟨entries, haccounts⟩ := accounts_run hsnapshot hrun
  refine ⟨_, hrun, notApplicable_eq_nil haccounts fun row hrow => ?_, ?_, fun row hrow => ?_⟩
  · obtain ⟨live, hlive, -⟩ := hknown _ (List.mem_map_of_mem hrow)
    rw [hlive]
    exact Option.some_ne_none live
  · dsimp only
    rw [List.forall₂_map_right_iff, List.forall₂_same]
    exact fun row _ => notApplicable_applyPlugin { site } row
  · obtain ⟨live, hlive, hsupported⟩ := hknown _ (List.mem_map_of_mem hrow)
    refine ⟨live, hlive, fun pair hpair => ?_⟩
    have hsupports := hsupported pair hpair
    rw [← live.isSome_facetOfVariable, Option.isSome_iff_exists] at hsupports
    obtain ⟨facet, hfacet⟩ := hsupports
    obtain ⟨hmem, hname⟩ := Descriptor.facetOfVariable_eq_some.1 hfacet
    refine ⟨facet, hfacet, ?_⟩
    rw [hname]
    exact live.facet_withStored _ _ hmem

end Apply

/-! ### Imports -/

namespace Service

variable {service : Service} {snapshot : Snapshot} {document : Document} {user : Option Int}

theorem importDocument_of_unknown (hsnapshot : Snapshot.ofSite service.site = .ok snapshot)
    (hunknown : importItems snapshot document.items = []) (user : Option Int) :
    service.importDocument document user = .error (.invalidPreset .nothingKnown) := by
  unfold importDocument Service.snapshot
  rw [hsnapshot]
  show (if (importItems snapshot document.items).isEmpty then _ else _) = _
  rw [hunknown]
  rfl

theorem importDocument_of_known (hsnapshot : Snapshot.ofSite service.site = .ok snapshot)
    (hknown : importItems snapshot document.items ≠ []) (user : Option Int) :
    service.importDocument document user =
      (service.library.save service.clock { document with items := importItems snapshot document.items }
        user service.clock).map fun stored => (stored.1, service.withLibrary stored.2) := by
  unfold importDocument Service.snapshot
  rw [hsnapshot]
  show (if (importItems snapshot document.items).isEmpty then _ else _) = _
  rw [if_neg fun hempty => hknown (List.isEmpty_iff.1 hempty)]
  cases service.library.save service.clock _ user service.clock <;> rfl

/-- What is known of a document is stored as one more preset, if it has no two items for one key. -/
theorem exists_import (hsnapshot : Snapshot.ofSite service.site = .ok snapshot)
    (hknown : importItems snapshot document.items ≠ [])
    (hkeys : (snapshot.knownKeys document.items).Nodup)
    (hfits : document.Fits user service.clock) :
    ∃ preset, service.importDocument document user =
        .ok (preset, service.withLibrary (service.library.push preset)) ∧
      preset.id = service.library.nextPresetId ∧ snapshot.Imports document user preset := by
  rw [← Snapshot.placedKeys_importItems hsnapshot] at hkeys
  obtain ⟨preset, hsave, hstores⟩ := Library.save_of_nodup
    (hfits.withItems (importItems snapshot document.items)) service.library hkeys
  refine ⟨preset, ?_, hstores.id_eq, hstores.name_eq, hstores.comments_eq, hstores.author_eq,
    hstores.user_eq, hstores.site_eq, hstores.release_eq, ?_, hstores.plugins_eq⟩
  · rw [importDocument_of_known hsnapshot hknown, hsave]
    rfl
  · rw [hstores.items_eq]
    show List.Forall₂ _ _ ((importItems snapshot document.items).map Item.placed)
    rw [Snapshot.placed_importItems hsnapshot]
    exact Snapshot.admits_importItems snapshot document.items

theorem exists_step_preview {preset : Preset} {presetId : Int} {request : ApplyRequest}
    (hsnapshot : Snapshot.ofSite service.site = .ok snapshot)
    (hpreset : service.library.getPreset presetId = .ok preset) (hlock : service.locked = false)
    (hpreview : request.simulate = true) (hnever : request.cancellation = .never)
    (hknown : ∀ item ∈ preset.items.map StoredItem.item, ∃ live, snapshot.get? item.key = some live ∧
      ∀ pair ∈ item.attributes, live.supports pair.1) (timeout : Option Int) :
    ∃ report, service.step (.apply presetId request timeout) = (.ok (.report report), service) ∧
      Apply.FindsAll snapshot service.site preset report := by
  obtain ⟨report, hrun, hfinds⟩ := @Apply.exists_preview
    { request with exclusions := service.exclusions } _ _ _ hsnapshot hpreview hnever hknown
  refine ⟨report, ?_, hfinds⟩
  simp only [Service.step, attempt]
  rw [apply_of_idle hpreset hlock hrun]
  rfl

/-- A site keeps of a document exactly what it knows, and a preview finds all of that. If nothing is known,
nothing is stored. -/
theorem import_keeps_known (hsnapshot : Snapshot.ofSite service.site = .ok snapshot)
    (hkeys : (document.items.map Item.key).Nodup) (hfits : document.Fits user service.clock) :
    ((∃ fault, (service.step (.library (.importDocument document user))).1 =
          .error (.invalidPreset fault)) ↔
        ∀ item ∈ document.items, snapshot.get? item.key = none) ∧
      ((∀ item ∈ document.items, snapshot.get? item.key = none) →
        service.step (.library (.importDocument document user)) =
          (.error (.invalidPreset .nothingKnown), service)) ∧
      ((∃ item ∈ document.items, snapshot.get? item.key ≠ none) →
        ∃ preset after, after = service.withLibrary (service.library.push preset) ∧
          service.step (.library (.importDocument document user)) =
            (.ok (after.shown preset), after) ∧
          preset.id ∉ service.library.presets.map Preset.id ∧
          snapshot.Imports document user preset ∧
          (service.locked = false → fitsColumn service.library.nextPresetId → ∀ request timeout,
            request.simulate = true → request.cancellation = .never →
              ∃ report, after.step (.apply preset.id request timeout) = (.ok (.report report), after) ∧
                Apply.FindsAll snapshot after.site preset report)) := by
  have hnothing (hunknown : ∀ item ∈ document.items, snapshot.get? item.key = none) :
      service.step (.library (.importDocument document user)) =
        (.error (.invalidPreset .nothingKnown), service) := by
    rw [step_library, libraryStep,
      importDocument_of_unknown hsnapshot (Snapshot.importItems_eq_nil_iff.2 hunknown)]
    rfl
  have hsome (hknown : ¬ ∀ item ∈ document.items, snapshot.get? item.key = none) :
      ∃ preset, service.step (.library (.importDocument document user)) =
          (.ok ((service.withLibrary (service.library.push preset)).shown preset),
            service.withLibrary (service.library.push preset)) ∧
        preset.id = service.library.nextPresetId ∧ snapshot.Imports document user preset := by
    obtain ⟨preset, himport, hid, himports⟩ := exists_import hsnapshot
      (fun hnil => hknown (Snapshot.importItems_eq_nil_iff.1 hnil)) (hkeys.filter _) hfits
    refine ⟨preset, ?_, hid, himports⟩
    rw [step_library, libraryStep, himport]
    rfl
  refine ⟨⟨?_, fun hunknown => ⟨_, congrArg Prod.fst (hnothing hunknown)⟩⟩, hnothing, ?_⟩
  · rintro ⟨fault, hfault⟩
    by_contra hknown
    obtain ⟨preset, hstep, -⟩ := hsome hknown
    rw [hstep] at hfault
    cases hfault
  · rintro ⟨item, hitem, hlive⟩
    obtain ⟨preset, hstep, hid, himports⟩ := hsome fun hunknown => hlive (hunknown item hitem)
    have hnew : preset.id ∉ service.library.presets.map Preset.id := by
      rw [hid]
      exact Numbering.next_not_mem _
    refine ⟨preset, _, rfl, hstep, hnew, himports, fun hlock hroom request timeout hpreview hnever => ?_⟩
    have hsnapshot' : Snapshot.ofSite (service.withLibrary (service.library.push preset)).site =
        .ok snapshot := hsnapshot
    rw [← hid] at hroom
    exact exists_step_preview hsnapshot' (Library.getPreset_push hnew hroom) hlock hpreview hnever
      (Snapshot.known_of_admits himports.items) timeout

end Service

/-! ### A letter to the small site -/

namespace SmallSite

def ghost : Key := ⟨siteScope, "ghost"⟩

def wiki : Plugin := ⟨"mod", "wiki"⟩

/-- A document of which the small site does not know everything. -/
def letter (timeCreated : Option Int) : Document where
  name := "Letter"
  timeCreated
  items := [
    { key := comments, value := some "0", attributes := [("comments_adv", some "1"), ("comments_x", none)] },
    { key := ghost, value := none, attributes := [] },
    { key := notice, value := some "closed", attributes := [] }]
  plugins := [(chat, 0), (wiki, 1)]

theorem letter_imported :
    ∃ preset after,
      service.step (.library (.importDocument (letter none) none)) = (.ok (after.shown preset), after) ∧
      preset.items.map (fun row => row.item.key) = [comments, notice] ∧
      ∃ report, after.step (.apply preset.id { simulate := true, override := true } none) =
          (.ok (.report report), after) ∧ report.notApplicable = [] := by
  have hfound : (Snapshot.ofSite service.site).map (fun snapshot =>
      ((snapshot.get? comments).isSome, snapshot.knownKeys (letter none).items)) =
        .ok (true, [comments, notice]) := by
    decide +kernel
  obtain ⟨snapshot, hsnapshot, hfound⟩ := map_eq_ok.1 hfound
  obtain ⟨hcomments, hkept⟩ := Prod.mk.inj hfound
  obtain ⟨-, -, hstores⟩ := @Service.import_keeps_known service snapshot (letter none) none hsnapshot
    (by decide) ⟨by decide, rfl, rfl, by decide⟩
  obtain ⟨preset, after, -, hstep, -, himports, hpreviews⟩ :=
    hstores ⟨_, List.mem_cons_self, Option.isSome_iff_ne_none.1 hcomments⟩
  obtain ⟨report, hpreview, hfinds⟩ :=
    hpreviews rfl (by decide) { simulate := true, override := true } none rfl rfl
  have hkeys := Snapshot.keys_of_admits himports.items
  rw [← snapshot.keys_of_admits (snapshot.admits_importItems _), snapshot.keys_importItems, hkept,
    List.map_map] at hkeys
  exact ⟨preset, after, hstep, hkeys, report, hpreview, hfinds.notApplicable_eq⟩

/-- An import fails at a site with a password that cannot be decrypted, and with a number that does not fit.
And after one that does not fail, a preview reports a plugin that is not installed. -/
theorem letter_lost :
    (Document.items (letter none)).map Item.key = [comments, ghost, notice] ∧
      ((passworded (.plain "secret")).importDocument (letter none) none).map Prod.fst =
        .error (.refused (.undecryptable "password")) ∧
      (service.importDocument (letter (some (Nat.pow 2 63))) none).map Prod.fst =
        .error (.refused .numberTooLarge) ∧
      (service.importDocument (letter none) none).map (fun result =>
          (result.2.apply result.1.id { simulate := true, override := true } none).1.map fun report =>
            report.plugins.map fun entry => (entry.key.name, entry.status)) =
        .ok (.ok [("chat", .applied), ("wiki", .notApplicable)]) := by
  refine ⟨rfl, by decide +kernel, by decide +kernel, by decide +kernel⟩

end SmallSite

end SitePresets
