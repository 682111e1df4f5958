import SitePresets.Proofs.Apply.Effect
import SitePresets.Proofs.Service.Moving
import SitePresets.Proofs.Service.Secrecy

/-!
# What exclusions protect

An excluded setting is neither written by an apply nor stored by an export. A key that is a variable of a
facet of some other setting is not protected by being excluded: it goes with that setting, as a flag.
-/

namespace SitePresets

/-- Whether a key is the variable of a facet of a setting that is not excluded. -/
def Site.Exposes (site : Site) (exclusions : List Key) (key : Key) : Prop :=
  ∃ declared ∈ site.tree.declarations, declared.key ∉ exclusions ∧
    ∃ facet ∈ (Resolver.kindOf site.chain declared).facets,
      key = ⟨declared.scope, facet.variableOf declared.name⟩

theorem Snapshot.exposes {site : Site} {snapshot : Snapshot} {exclusions : List Key} {key : Key}
    {live : Descriptor} {facet : Facet} (h : Snapshot.ofSite site = .ok snapshot)
    (hlive : snapshot.get? key = some live) (hkept : key ∉ exclusions)
    (hfacet : facet ∈ live.kind.facets) :
    site.Exposes exclusions ⟨key.scope, facet.variableOf key.name⟩ := by
  obtain ⟨declared, hoffered, hread⟩ := read_of_get h hlive
  obtain ⟨hdeclared, rfl⟩ := Site.mem_of_offered hoffered
  refine ⟨declared, hdeclared, hkept, facet, ?_, rfl⟩
  rwa [← (Site.shows_of_read hread).kind_eq]

namespace Apply

/-- How items write a key that is none of theirs: one that is not excluded gives a facet of its setting
another flag than the live one. -/
inductive SetsFacet (request : ApplyRequest) (snapshot : Snapshot) (items : List Item) :
    Key → Bool → Prop
  | intro {item : Item} {live : Descriptor} {facet : Facet} {text : String} (hitem : item ∈ items)
    (hkept : item.key ∉ request.exclusions) (hlive : snapshot.get? item.key = some live)
    (hvalid : item.value = none ∨ live.rule.clean item.value ≠ none)
    (hfacet : facet ∈ live.kind.facets)
    (htext : Table.find? (facet.variableOf item.key.name) item.attributes.reverse = some (some text))
    (hdiffers : live.facet? facet ≠ some (Value.textIsOn text)) :
    SetsFacet request snapshot items ⟨item.key.scope, facet.variableOf item.key.name⟩
      (Value.textIsOn text)

variable {request : ApplyRequest} {snapshot : Snapshot} {items : List Item} {key : Key}
  {value : Option String}

theorem SetsFacet.mono {more : List Item} {on : Bool} (h : SetsFacet request snapshot items key on)
    (hsubset : items ⊆ more) : SetsFacet request snapshot more key on := by
  obtain ⟨hitem, hkept, hlive, hvalid, hfacet, htext, hdiffers⟩ := h
  exact ⟨hsubset hitem, hkept, hlive, hvalid, hfacet, htext, hdiffers⟩

theorem Assigns.setsFacet (h : Assigns request snapshot items key value)
    (hoverride : request.override = false) (hkey : key ∈ request.exclusions) :
    ∃ on, SetsFacet request snapshot items key on ∧ value = some (Value.flagText on) := by
  have hkept {item : Item} (hitem : item.key ∉ request.exclusions ∨ request.override = true) :
      item.key ∉ request.exclusions :=
    hitem.resolve_right fun hon => nomatch hoverride.symm.trans hon
  cases h with
  | value _ hitem => exact absurd hkey (hkept hitem)
  | facet hmem hitem hlive hvalid hfacet htext hdiffers =>
    exact ⟨_, .intro hmem (hkept hitem) hlive hvalid hfacet htext hdiffers, rfl⟩

/-- A real run without the override leaves an excluded key as it is, unless the key is a variable of a facet
that an item sets. -/
theorem get_of_run {site : Site} {preset : Preset} {report : ApplyReport} {progress : Progress}
    (hreal : request.simulate = false) (hoverride : request.override = false)
    (hkey : key ∈ request.exclusions)
    (hrun : run request site preset = .ok (report, progress)) :
    progress.site.store.get key = site.store.get key ∨
      ∃ snapshot, Snapshot.ofSite site = .ok snapshot ∧ ∃ on,
        SetsFacet request snapshot (preset.items.map StoredItem.item) key on ∧
          progress.site.store.get key = .ok (some (Value.flagText on)) := by
  obtain ⟨snapshot, hsnapshot, -⟩ := bind_eq_ok.1 hrun
  obtain ⟨ran, middle, after, reached, rows, hsame, hran⟩ := exists_ran hreal hsnapshot preset
  obtain ⟨-, rfl⟩ := Prod.mk.inj (Except.ok.inj (hrun.symm.trans hsame))
  obtain ⟨writes, hmade, hpart, -⟩ := hran.performs
  -- Switching plugins writes no values, so only the changes to settings count.
  rw [hran.switched.switches.values.get_eq]
  rcases hmade.wrote.get_cases key with hget | ⟨change, hchange, hchanged, hget⟩
  · exact .inl hget
  · obtain ⟨write, hwrite, rfl⟩ := List.mem_map.1 hchange
    obtain ⟨hwritten, htext⟩ := hmade.fulfils write hwrite
    have hplanned : write.1 ∈ reached.flatMap (plan request snapshot) :=
      hpart.subset (List.mem_map_of_mem hwrite)
    have hplan : write.1 ∈ (preset.items.map StoredItem.item).flatMap (plan request snapshot) := by
      obtain ⟨item, hitem, hplanned⟩ := List.mem_flatMap.1 hplanned
      exact List.mem_flatMap.2 ⟨item, hran.reached_prefix.subset hitem, hplanned⟩
    have hassigns := (mem_plan_iff_assigns hsnapshot key write.2.new).1
      ⟨write.1, hplan, hwritten.symm.trans hchanged, htext.symm⟩
    obtain ⟨on, hsets, hvalue⟩ := hassigns.setsFacet hoverride hkey
    rw [hvalue] at hget
    exact .inr ⟨snapshot, hsnapshot, on, hsets, hget⟩

end Apply

namespace Exchange

variable {request : ExportRequest} {exclusions : List Key} {site : Site} {snapshot : Snapshot}
  {item : Item}

/-- The attributes of an exported item are the flags of the facets of its setting. -/
theorem attribute_of_exportItems (h : Snapshot.ofSite site = .ok snapshot)
    (hitem : item ∈ exportItems request exclusions snapshot) {row : String × Option String}
    (hrow : row ∈ item.attributes) :
    ∃ live, snapshot.get? item.key = some live ∧ ∃ facet ∈ live.kind.facets, ∃ on,
      live.facet? facet = some on ∧
        row = (facet.variableOf item.key.name, some (Value.flagText on)) := by
  obtain ⟨live, hlive, rfl⟩ := List.mem_map.1 hitem
  have hlive := (List.mem_filter.1 hlive).1
  obtain ⟨declared, hread⟩ := Snapshot.read_of_mem h hlive
  have harranged := Site.arranged_of_read hread
  obtain ⟨⟨facet, on⟩, hfacet, rfl⟩ := List.mem_map.1 hrow
  exact ⟨live, (Snapshot.mem_inOrder h).1 hlive, facet, harranged.facet_mem hfacet, on,
    harranged.mem_facets.1 hfacet, rfl⟩

end Exchange

namespace Service

/-- What the exclusions do for a key that they name, in a real apply without the override and in an export
without sensitive settings. -/
structure Protects (service : Service) (presetId : Int) (request : ApplyRequest)
    (timeout : Option Int) (exporting : ExportRequest) (key : Key) : Prop where
  /-- An apply leaves the key as it is, or sets it as the variable of a facet of another setting. -/
  applied : (service.apply presetId request timeout).2.site.store.get key =
      service.site.store.get key ∨
    ∃ preset snapshot on, service.library.getPreset presetId = .ok preset ∧
      Snapshot.ofSite service.site = .ok snapshot ∧
      Apply.SetsFacet request snapshot (preset.items.map StoredItem.item) key on ∧
      (service.apply presetId request timeout).2.site.store.get key =
        .ok (some (Value.flagText on))
  /-- No item is exported with the key. -/
  not_item : ∀ preset after, service.exportSite exporting = .ok (preset, after) →
    ∀ row ∈ preset.items, row.item.key ≠ key
  /-- An attribute is exported under the key only as the flag of a facet of its setting. -/
  flagged : ∀ preset after, service.exportSite exporting = .ok (preset, after) →
    ∀ row ∈ preset.items, row.item.key.scope = key.scope →
      ∀ text, (key.name, text) ∈ row.item.attributes →
        ∃ snapshot live, Snapshot.ofSite service.site = .ok snapshot ∧
          snapshot.get? row.item.key = some live ∧ ∃ facet ∈ live.kind.facets,
            key = ⟨row.item.key.scope, facet.variableOf row.item.key.name⟩ ∧
              ∃ on, live.facet? facet = some on ∧ text = some (Value.flagText on)
  /-- A key that is no variable of a facet of another setting stays as it is and stays at home. -/
  whole : ¬ service.site.Exposes service.exclusions key →
    (service.apply presetId request timeout).2.site.store.get key = service.site.store.get key ∧
      ∀ preset after, service.exportSite exporting = .ok (preset, after) →
        ∀ row ∈ preset.items, row.item.key.scope = key.scope →
          key.name ∉ row.item.attributes.map Prod.fst

variable {service : Service} {request : ApplyRequest} {exporting : ExportRequest}

theorem get_of_apply (service : Service) (presetId : Int) (timeout : Option Int) {key : Key}
    (hkey : key ∈ request.exclusions) (hoverride : request.override = false)
    (hreal : request.simulate = false) :
    (service.apply presetId request timeout).2.site.store.get key = service.site.store.get key ∨
      ∃ preset snapshot on, service.library.getPreset presetId = .ok preset ∧
        Snapshot.ofSite service.site = .ok snapshot ∧
        Apply.SetsFacet request snapshot (preset.items.map StoredItem.item) key on ∧
        (service.apply presetId request timeout).2.site.store.get key =
          .ok (some (Value.flagText on)) := by
  rcases service.apply_cases presetId request timeout with
    ⟨error, happly⟩ | ⟨preset, report, progress, hpreset, -, hrun, -, happly⟩ |
      ⟨preset, progress, hpreset, -, -, hbegins, happly⟩
  · rw [happly]
    exact .inl rfl
  · rw [happly, site_record]
    rcases Apply.get_of_run hreal hoverride hkey hrun with
      hget | ⟨snapshot, hsnapshot, on, hsets, hget⟩
    · exact .inl hget
    · exact .inr ⟨preset, snapshot, on, hpreset, hsnapshot, hsets, hget⟩
  · rw [happly]
    obtain ⟨begun, hitems, -, report, hrun⟩ := hbegins.run_eq
    rcases Apply.get_of_run hreal hoverride hkey hrun with
      hget | ⟨snapshot, hsnapshot, on, hsets, hget⟩
    · exact .inl hget
    · exact .inr ⟨preset, snapshot, on, hpreset, hsnapshot,
        hsets.mono (hitems.map _).subset, hget⟩

/-- The exclusions protect the keys that they name as settings, but not as variables of facets. -/
theorem exclusions_protect (presetId : Int) (timeout : Option Int)
    (hexclusions : request.exclusions = service.exclusions) (hoverride : request.override = false)
    (hreal : request.simulate = false) (hsensitive : exporting.includeSensitive = false) :
    ∀ key ∈ service.exclusions, service.Protects presetId request timeout exporting key := by
  intro key hkey
  have happlied := service.get_of_apply presetId timeout (hexclusions ▸ hkey) hoverride hreal
  refine ⟨happlied, fun preset after h row hrow hsame => ?_,
    fun preset after h row hrow hscope text htext => ?_,
    fun hhidden => ⟨?_, fun preset after h row hrow hscope hnamed => ?_⟩⟩
  · obtain ⟨snapshot, -, hitem⟩ := mem_exportItems h hrow
    exact Exchange.not_mem_of_exportItems hsensitive hitem (hsame ▸ hkey)
  · obtain ⟨snapshot, hsnapshot, hitem⟩ := mem_exportItems h hrow
    obtain ⟨live, hlive, facet, hfacet, on, hon, hpair⟩ :=
      Exchange.attribute_of_exportItems hsnapshot hitem htext
    obtain ⟨hname, rfl⟩ := Prod.mk.inj hpair
    have hsame : key = ⟨row.item.key.scope, facet.variableOf row.item.key.name⟩ := by
      rw [hscope, ← hname]
    exact ⟨snapshot, live, hsnapshot, hlive, facet, hfacet, hsame, on, hon, rfl⟩
  · rcases happlied with hget | ⟨preset, snapshot, on, -, hsnapshot, hsets, -⟩
    · exact hget
    · obtain ⟨-, hkept, hlive, -, hfacet, -, -⟩ := hsets
      exact absurd (Snapshot.exposes hsnapshot hlive (hexclusions ▸ hkept) hfacet) hhidden
  · obtain ⟨snapshot, hsnapshot, hitem⟩ := mem_exportItems h hrow
    obtain ⟨⟨name, text⟩, hattribute, rfl⟩ := List.mem_map.1 hnamed
    obtain ⟨live, hlive, facet, hfacet, on, -, hpair⟩ :=
      Exchange.attribute_of_exportItems hsnapshot hitem hattribute
    have hexposed := Snapshot.exposes hsnapshot hlive
      (Exchange.not_mem_of_exportItems hsensitive hitem) hfacet
    rw [hscope, ← (Prod.mk.inj hpair).1] at hexposed
    exact hhidden hexposed

end Service

namespace SmallSite

theorem notice_protected :
    confidential.Protects 1 { exclusions := confidential.exclusions } none { name := "All" } notice ∧
      (confidential.apply 1 { exclusions := confidential.exclusions } none).2.site.store.get notice =
        .ok (some "secret") := by
  have hprotects : confidential.Protects 1 { exclusions := confidential.exclusions } none
      { name := "All" } notice :=
    Service.exclusions_protect 1 none rfl rfl rfl rfl notice List.mem_cons_self
  have hhidden : ¬ confidential.site.Exposes confidential.exclusions notice := by
    unfold Site.Exposes
    decide
  exact ⟨hprotects, (hprotects.whole hhidden).1.trans (by decide)⟩

def commentsAdvanced : Key := ⟨siteScope, "comments_adv"⟩

/-- The small site with an excluded setting that has the name of a facet of the comments. -/
def shadowed : Service :=
  { service with
    site := {
      store := .memory (.ofLists [(comments, some "1"), (commentsAdvanced, some "0")] [(chat, 1)])
      tree := .category "root" "" [tree, .page "back" "" [.setting { name := "comments_adv" }]] }
    exclusions := [commentsAdvanced] }

/-- An excluded setting is written and exported with a setting that has a facet of its name. -/
theorem exclusion_bypassed :
    commentsAdvanced ∈ shadowed.exclusions ∧
      shadowed.site.store.get commentsAdvanced = .ok (some "0") ∧
      (shadowed.apply 1 { exclusions := shadowed.exclusions } none).2.site.store.get
          commentsAdvanced =
        .ok (some "1") ∧
      (shadowed.exportSite { name := "All" }).map (fun result => result.1.items.map StoredItem.item) =
        .ok [⟨notice, some "", []⟩, ⟨comments, some "1", [("comments_adv", some "0")]⟩] := by
  decide +kernel

end SmallSite

end SitePresets
