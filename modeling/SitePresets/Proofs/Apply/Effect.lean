import SitePresets.Proofs.Apply.Plugins
import SitePresets.Proofs.Service.Recording

/-!
# The effect of an apply

What an apply that is not cancelled leaves behind, told from the snapshot at its start: which keys
hold something else, what the log says about them, and which rows of the ledger stand for them.
-/

namespace SitePresets

namespace Apply

/-- What a preset makes a site hold under a key, other than before. The cleaned value of an item that
is applied, if it differs from the live one, and the flags that it gives to facets, if they do. -/
inductive Assigns (request : ApplyRequest) (snapshot : Snapshot) (items : List Item) :
    Key → Option String → Prop
  | value {item : Item} {live : Descriptor} (hitem : item ∈ items)
    (hkept : item.key ∉ request.exclusions ∨ request.override)
    (hlive : snapshot.get? item.key = some live)
    (hvalid : item.value = none ∨ live.rule.clean item.value ≠ none)
    (hdiffers : live.equals (live.rule.clean item.value) = false) :
    Assigns request snapshot items item.key (live.rule.clean item.value)
  | facet {item : Item} {live : Descriptor} {facet : Facet} {text : String} (hitem : item ∈ items)
    (hkept : item.key ∉ request.exclusions ∨ request.override)
    (hlive : snapshot.get? item.key = some live)
    (hvalid : item.value = none ∨ live.rule.clean item.value ≠ none)
    (hfacet : facet ∈ live.kind.facets)
    (htext : Table.find? (facet.variableOf item.key.name) item.attributes.reverse = some (some text))
    (hdiffers : live.facet? facet ≠ some (Value.textIsOn text)) :
    Assigns request snapshot items ⟨item.key.scope, facet.variableOf item.key.name⟩
      (some (Value.flagText (Value.textIsOn text)))

section Assigns

variable {request : ApplyRequest} {site : Site} {snapshot : Snapshot} {items : List Item}

theorem isValid_withStored (live : Descriptor) (item : Item) :
    (live.withStored item.value item.attributes).isValid ↔
      item.value = none ∨ live.rule.clean item.value ≠ none := by
  show (item.value.isNone || (live.rule.clean item.value).isSome) = true ↔ _
  rw [Bool.or_eq_true, Option.isNone_iff_eq_none, Option.isSome_iff_ne_none]

theorem facetEquals_flagText (live : Descriptor) (facet : Facet) (on : Bool) :
    live.facetEquals facet (some (Value.flagText on)) = false ↔ live.facet? facet ≠ some on := by
  unfold Descriptor.facetEquals
  cases live.facet? facet <;> simp

theorem mem_plan_iff_assigns (h : Snapshot.ofSite site = .ok snapshot) (key : Key)
    (value : Option String) :
    (∃ planned ∈ items.flatMap (plan request snapshot), planned.key = key ∧ planned.text = value) ↔
      Assigns request snapshot items key value := by
  constructor
  · rintro ⟨planned, hplanned, rfl, rfl⟩
    obtain ⟨item, hitem, hplanned⟩ := List.mem_flatMap.1 hplanned
    obtain ⟨live, wanted, hjudge, hplanned⟩ := mem_plan.1 hplanned
    obtain ⟨hkept, hlive, rfl, hvalid⟩ := judge_eq_wanted.1 hjudge
    have hvalid := (isValid_withStored live item).1 hvalid
    have hkey : live.key = item.key := (declared_of_get h hlive).2
    rcases mem_planWanted.1 hplanned with ⟨hdiffers, rfl⟩ | hplanned
    · show Assigns request snapshot items live.key (live.rule.clean item.value)
      rw [hkey]
      exact Assigns.value hitem hkept hlive hvalid hdiffers
    · obtain ⟨facet, on, hon, hdiffers, rfl⟩ := mem_planFacets.1 hplanned
      obtain ⟨hfacet, text, htext, hon⟩ := Descriptor.mem_facets_withStored.1 hon
      rw [hon] at hdiffers ⊢
      have hdiffers := (facetEquals_flagText _ _ _).1 hdiffers
      have htext : Table.find? (facet.variableOf live.key.name) item.attributes.reverse =
          some (some text) := htext
      show Assigns request snapshot items ⟨live.key.scope, facet.variableOf live.key.name⟩
        (some (Value.flagText (Value.textIsOn text)))
      rw [hkey] at htext ⊢
      exact Assigns.facet hitem hkept hlive hvalid hfacet htext hdiffers
  · intro hassigns
    cases hassigns with
    | @value item live hitem hkept hlive hvalid hdiffers =>
      have hjudge := judge_eq_wanted.2
        ⟨hkept, hlive, rfl, (isValid_withStored live item).2 hvalid⟩
      refine ⟨⟨live, none, live.rule.clean item.value⟩, List.mem_flatMap.2 ⟨item, hitem, ?_⟩,
        (declared_of_get h hlive).2, rfl⟩
      exact mem_plan.2 ⟨live, _, hjudge, mem_planWanted.2 (.inl ⟨hdiffers, rfl⟩)⟩
    | @facet item live facet text hitem hkept hlive hvalid hfacet htext hdiffers =>
      have hkey : live.key = item.key := (declared_of_get h hlive).2
      have hjudge := judge_eq_wanted.2
        ⟨hkept, hlive, rfl, (isValid_withStored live item).2 hvalid⟩
      rw [← hkey] at htext ⊢
      have hon := (@Descriptor.mem_facets_withStored facet _ live item.value item.attributes).2 ⟨hfacet, text, htext, rfl⟩
      refine ⟨⟨live, some facet, some (Value.flagText (Value.textIsOn text))⟩,
        List.mem_flatMap.2 ⟨item, hitem, ?_⟩, rfl, rfl⟩
      refine mem_plan.2 ⟨live, _, hjudge, mem_planWanted.2 (.inr (mem_planFacets.2 ?_))⟩
      exact ⟨facet, _, hon, (facetEquals_flagText _ _ _).2 hdiffers, rfl⟩

end Assigns

/-- What an apply has done to a service by its writes. -/
structure Effect (request : ApplyRequest) (snapshot : Snapshot) (items : List Item)
    (service after : Service) (writes : List (Planned × Change)) : Prop where
  /-- The writes are the planned ones, item by item, each value before its facets. -/
  plan_eq : writes.map Prod.fst = items.flatMap (plan request snapshot)
  /-- They are of the keys to which the preset assigns something, and of each only once. -/
  assigns_iff : ∀ key value, Assigns request snapshot items key value ↔
    ∃ write ∈ writes, write.2.key = key ∧ write.2.new = value
  keys_nodup : (writes.map fun write => write.2.key).Nodup
  old_eq : ∀ write ∈ writes, service.site.store.get write.2.key = .ok write.2.old
  get_of_assigns : ∀ key value, Assigns request snapshot items key value →
    after.site.store.get key = .ok value
  get_of_not_assigns : ∀ key, (∀ value, ¬ Assigns request snapshot items key value) →
    after.site.store.get key = service.site.store.get key
  /-- The log grows by their changes, which have numbers of their own. -/
  changes_eq : after.site.store.changes =
    service.site.store.changes ++ writes.map fun write => .ok write.2
  ids_eq : (writes.map fun write => write.2.id) =
    List.range' service.site.store.nextChangeId writes.length

/-- How the ledger stands for writes: with a row for the change of each value and a row for the change
of each facet, both in their order. -/
structure Ledger (writes : List (Planned × Change)) (rows : List LedgerRow) : Prop where
  settings_eq : rows.filter LedgerRow.isSetting =
    (writes.filter fun write => write.1.facet = none).map fun write => .setting write.2.id
  facets_eq : rows.filter LedgerRow.isFacet =
    (writes.filter fun write => write.1.facet ≠ none).map fun write => write.1.row write.2.id

/-- The writes of an apply stand in the ledger of its application. Without an application there were
none. -/
inductive Recorded (preset : Preset) (report : ApplyReport) (service after : Service)
    (writes : List (Planned × Change)) : Prop
  | nothing (hwrites : writes = []) (hreport : report.applicationId = none)
    (hlibrary : after.library = service.library)
  | application (application : Application) (hledger : Ledger writes application.rows)
    (hreport : report.applicationId = some application.id)
    (hid : application.id = service.library.nextApplicationId)
    (hpreset : application.presetId = preset.id)
    (happlications : after.library.applications = service.library.applications ++ [application])

theorem ledger_rows (writes : List (Planned × Change)) {rows : List LedgerRow}
    (hrows : ∀ row ∈ rows, ∃ plugin value old, row = .plugin plugin value old) :
    Ledger writes (LedgerRow.arrange
      ((writes.map fun write => write.1.row write.2.id) ++ rows)) := by
  have hnone (test : LedgerRow → Bool) (htest : ∀ plugin value old,
      test (.plugin plugin value old) = false) : rows.filter test = [] := by
    refine List.filter_eq_nil_iff.2 fun row hrow => ?_
    obtain ⟨plugin, value, old, rfl⟩ := hrows row hrow
    rw [htest]
    exact Bool.false_ne_true
  constructor
  · rw [LedgerRow.filter_isSetting_arrange, List.filter_append, hnone _ fun _ _ _ => rfl,
      List.append_nil, List.filter_map]
    simp only [Function.comp_def, Planned.isSetting_row]
    refine List.map_congr_left fun write hwrite => ?_
    have hfacet : write.1.facet = none := by simpa using (List.mem_filter.1 hwrite).2
    unfold Planned.row
    rw [hfacet]
  · rw [LedgerRow.filter_isFacet_arrange, List.filter_append, hnone _ fun _ _ _ => rfl,
      List.append_nil, List.filter_map]
    simp only [Function.comp_def, Planned.isFacet_row]

variable {request : ApplyRequest} {snapshot : Snapshot} {service after : Service}

theorem effect_of_made {items : List Item} {middle : Progress} {writes : List (Planned × Change)}
    (hsnapshot : Snapshot.ofSite service.site = .ok snapshot)
    (hroot : service.site.tree.FacetsApart) (hitems : (items.map Item.key).Nodup)
    (hmade : Progress.Made { site := service.site } writes middle)
    (hplan : writes.map Prod.fst = items.flatMap (plan request snapshot))
    (hafter : middle.site.store.SameValues after.site.store) :
    Effect request snapshot items service after writes := by
  have hpart : (writes.map Prod.fst).Sublist (items.flatMap (plan request snapshot)) :=
    hplan.symm ▸ List.Sublist.refl _
  have hnodup := nodup_keys hmade hsnapshot hroot hitems (List.prefix_refl _) hpart
  have hassigns (key : Key) (value : Option String) : Assigns request snapshot items key value ↔
      ∃ write ∈ writes, write.2.key = key ∧ write.2.new = value := by
    rw [← mem_plan_iff_assigns hsnapshot, ← hplan]
    constructor
    · rintro ⟨planned, hplanned, rfl, rfl⟩
      obtain ⟨write, hwrite, rfl⟩ := List.mem_map.1 hplanned
      exact ⟨write, hwrite, hmade.fulfils write hwrite⟩
    · rintro ⟨write, hwrite, rfl, rfl⟩
      obtain ⟨hkey, hnew⟩ := hmade.fulfils write hwrite
      exact ⟨write.1, List.mem_map_of_mem hwrite, hkey.symm, hnew.symm⟩
  exact {
    plan_eq := hplan
    assigns_iff := hassigns
    keys_nodup := by simpa only [List.map_map, Function.comp_def] using hnodup
    old_eq := fun write hwrite => hmade.wrote.old_of_mem hnodup (List.mem_map_of_mem hwrite)
    get_of_assigns := by
      intro key value hvalue
      obtain ⟨write, hwrite, rfl, rfl⟩ := (hassigns key value).1 hvalue
      rw [hafter.get_eq]
      exact hmade.wrote.get_of_mem hnodup (List.mem_map_of_mem hwrite)
    get_of_not_assigns := by
      intro key hkey
      rw [hafter.get_eq]
      refine hmade.wrote.get_of_not_mem fun hmem => ?_
      rw [List.map_map] at hmem
      obtain ⟨write, hwrite, rfl⟩ := List.mem_map.1 hmem
      exact hkey _ ((hassigns _ _).2 ⟨write, hwrite, rfl, rfl⟩)
    changes_eq := by
      rw [hafter.changes_eq, hmade.wrote.changes_eq, List.map_map]
      rfl
    ids_eq := by
      simpa only [List.map_map, List.length_map, Function.comp_def] using hmade.wrote.ids_eq }

/-- What a run over a whole preset has done, once it is recorded. -/
theorem effect_of_recorded {preset : Preset} {report recorded : ApplyReport} {progress : Progress}
    (hsnapshot : Snapshot.ofSite service.site = .ok snapshot)
    (hroot : service.site.tree.FacetsApart) (hpreset : preset.Sound)
    (hprotected : service.site.readOnly = []) (huser : service.site.store.accepts request.user)
    (hreal : request.simulate = false)
    (hrun : run request service.site preset = .ok (report, progress))
    (hcancelled : report.cancelled = false)
    (hrecord : service.record preset request.user report progress = (.ok recorded, after)) :
    ∃ writes, Effect request snapshot (preset.items.map StoredItem.item) service after writes ∧
      Recorded preset recorded service after writes := by
  obtain ⟨_, middle, _, reached, rows, hsame, hran⟩ := exists_ran hreal hsnapshot preset
  obtain ⟨rfl, rfl⟩ := Prod.mk.inj (Except.ok.inj (hrun.symm.trans hsame))
  obtain ⟨writes, hmade, -, hall⟩ := hran.performs
  obtain rfl := hran.reached_eq hcancelled
  have hsite : after.site = progress.site := by
    rw [← service.site_record preset request.user report progress, hrecord]
  have heffect : Effect request snapshot (preset.items.map StoredItem.item) service after writes := by
    refine effect_of_made hsnapshot hroot hpreset.keys_nodup hmade
      (hall (writable_plan hsnapshot hprotected huser _)) ?_
    rw [hsite]
    exact hran.switched.switches.values
  have hrows : progress.rows = (writes.map fun write => write.1.row write.2.id) ++ rows := by
    rw [hran.switched.rows_eq, hmade.rows_eq]
    rfl
  refine ⟨writes, heffect, ?_⟩
  by_cases hnil : progress.rows = []
  · rw [Service.record_of_nil hnil] at hrecord
    obtain ⟨hreport, rfl⟩ := Prod.mk.inj hrecord
    obtain rfl := Except.ok.inj hreport
    rw [hrows, List.append_eq_nil_iff, List.map_eq_nil_iff] at hnil
    exact .nothing hnil.1 hran.applicationId_eq rfl
  · obtain ⟨application, library, happlication, rfl, rfl⟩ :=
      Service.record_eq_ok_of_ne_nil hnil hrecord
    obtain ⟨hid, hpresetId, hledger, happlications, -⟩ :=
      Library.recordApplication_eq_ok happlication
    refine .application application ?_ rfl hid hpresetId happlications
    rw [hledger, hrows]
    refine ledger_rows writes fun row hrow => ?_
    obtain ⟨plugin, value, old, hrow, -⟩ := hran.switched.plugin row hrow
    exact ⟨plugin, value, old, hrow⟩

/-- The effect of an apply is exactly what the preset assigns, whatever the exclusions and the override, in
every store that takes what is written. Each write is one entry of the log and one row of the ledger. An
apply that nobody cancels is not cancelled, and it reports if what it writes can be recorded. -/
theorem apply_effect {presetId : Int} {timeout : Option Int} {preset : Preset}
    (hroot : service.site.tree.FacetsApart) (hsound : service.library.Sound)
    (hprotected : service.site.readOnly = []) (huser : service.site.store.accepts request.user)
    (hreal : request.simulate = false)
    (hpreset : service.library.getPreset presetId = .ok preset)
    (hsnapshot : Snapshot.ofSite service.site = .ok snapshot) :
    (∀ report after, service.apply presetId request timeout = (.ok report, after) →
      (request.cancellation = .never → report.cancelled = false) ∧
        (report.cancelled = false → ∃ writes,
          Effect request snapshot (preset.items.map StoredItem.item) service after writes ∧
            Recorded preset report service after writes)) ∧
      (service.locked = false → request.user.all fitsColumn → fitsColumn service.clock →
        preset.StatesFit service.site.store →
          ∃ report after, service.apply presetId request timeout = (.ok report, after)) := by
  have hstored := hsound preset (Library.mem_of_getPreset hpreset)
  constructor
  · intro recorded after happly
    obtain ⟨found, report, progress, hfound, -, hrun, -, hrecord⟩ := Service.run_of_apply happly
    obtain rfl := Except.ok.inj (hfound.symm.trans hpreset)
    have hcancelled : recorded.cancelled = report.cancelled := by
      rcases Service.record_eq_ok hrecord with ⟨rfl, -⟩ | ⟨_, _, -, rfl, -⟩ <;> rfl
    rw [hcancelled]
    exact ⟨fun hnever => uncancelled_of_never hnever hrun, fun hcancelled =>
      effect_of_recorded hsnapshot hroot hstored hprotected huser hreal hrun hcancelled hrecord⟩
  · intro hlock huser hclock hstates
    exact Service.exists_apply_of_fits hpreset hlock hreal ⟨snapshot, hsnapshot⟩ huser hclock
      hstored.plugins hstates timeout

end Apply

namespace SmallSite

theorem effect_of_quiet :
    ∃ snapshot, Snapshot.ofSite service.site = .ok snapshot ∧
      ∃ report after writes, service.apply 2 {} none = (.ok report, after) ∧
        report.cancelled = false ∧
          Apply.Effect {} snapshot ((preset 2 [⟨1, chat, 0⟩]).items.map StoredItem.item) service after
            writes ∧ Apply.Recorded (preset 2 [⟨1, chat, 0⟩]) report service after writes := by
  have hread : ∃ snapshot, Snapshot.ofSite service.site = .ok snapshot :=
    Snapshot.exists_ofSite fun _ _ _ => Site.exists_read ⟨_, rfl⟩ fun _ _ => ⟨_, rfl⟩
  obtain ⟨snapshot, hsnapshot⟩ := hread
  have hpreset : service.library.getPreset 2 = .ok (preset 2 [⟨1, chat, 0⟩]) := by decide
  have huser : service.site.store.accepts (ApplyRequest.user {}) := rfl
  obtain ⟨hall, hreports⟩ := Apply.apply_effect tree_facetsApart library_sound rfl huser rfl hpreset
    hsnapshot
  obtain ⟨report, after, happly⟩ := hreports rfl rfl rfl preset_statesFit
  obtain ⟨hnever, heffect⟩ := hall report after happly
  obtain ⟨writes, hwrites⟩ := heffect (hnever rfl)
  exact ⟨snapshot, hsnapshot, report, after, writes, happly, hnever rfl, hwrites⟩

end SmallSite

end SitePresets
