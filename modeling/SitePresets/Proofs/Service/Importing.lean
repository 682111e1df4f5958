import SitePresets.Proofs.Document.RoundTrip
import SitePresets.Proofs.Service.Portable

/-!
# What is imported

A site imports what it has exported: it knows every setting, and supports all of their facets. So the export
is stored again as it comes out of its XML.
-/

namespace SitePresets

namespace Exchange

variable {site : Site} {snapshot : Snapshot} {live : Descriptor} {settings : List Descriptor}

theorem placed_returnedItem (live : Descriptor) : (returnedItem live).placed = returnedItem live := by
  have hscope : (returnedItem live).key.scope ≠ "" := live.declared.scope_ne_empty
  unfold Item.placed
  rw [if_neg hscope]

/-- A setting supports the facets that it has itself. -/
theorem keepSupported_returnedItem (h : live.Arranged) :
    keepSupported live (returnedItem live) = returnedItem live := by
  have hsupported : ∀ row ∈ (returnedItem live).attributes, (live.facetOfVariable? row.1).isSome := by
    refine List.forall_mem_map.2 fun row hrow => ?_
    have hfacet := h.facet_mem hrow
    exact Option.isSome_iff_exists.2 ⟨row.1, Descriptor.facetOfVariable_eq_some.2 ⟨hfacet, rfl⟩⟩
  unfold keepSupported
  rw [List.filter_eq_self.2 hsupported]

theorem importItems_returned (hsnapshot : Snapshot.ofSite site = .ok snapshot)
    (hsettings : ∀ live ∈ settings, live ∈ snapshot.inOrder) :
    importItems snapshot (settings.map returnedItem) = settings.map returnedItem := by
  unfold importItems
  rw [List.filterMap_map, ← List.filterMap_eq_map]
  refine List.filterMap_congr fun live hlive => ?_
  have hget := (Snapshot.mem_inOrder hsnapshot).1 (hsettings live hlive)
  obtain ⟨declared, hread⟩ := Snapshot.read_of_mem hsnapshot (hsettings live hlive)
  have hkept := keepSupported_returnedItem (Site.arranged_of_read hread)
  show (snapshot.get? live.key).map (keepSupported · (returnedItem live)) = some (returnedItem live)
  rw [hget, Option.map_some, hkept]

end Exchange

namespace Service

variable {service : Service} {snapshot : Snapshot} {text : String} {document : Document}
  {user : Option Int} {name : Option String}

/-- A text is imported if the site knows what it says. -/
theorem exists_importXml (htext : Document.ofXml text = .ok document)
    (hsnapshot : Snapshot.ofSite service.site = .ok snapshot) (hsome : document.items ≠ [])
    (hknown : Exchange.importItems snapshot document.items = document.items)
    (hnodup : (document.items.map fun item => item.placed.key).Nodup) (hplugins : document.plugins = [])
    (hfits : (document.heading user service.clock).Fits service.clock) :
    ∃ preset library, service.importXml text user name = .ok (preset, service.withLibrary library) ∧
      preset.id = service.library.nextPresetId ∧ preset.plugins = [] ∧
        preset.items.map StoredItem.item = document.items.map Item.placed := by
  obtain ⟨preset, hsave, hstores⟩ := @Library.save_of_nodup service.clock
    { document with name := Declaration.firstOf [name] document.name } user
    ⟨hfits.now, hfits.user, hfits.timeCreated, by rw [hplugins]; exact fun _ hrow => nomatch hrow⟩
    service.library hnodup
  have hnone : preset.plugins = [] := List.map_eq_nil_iff.1 (hstores.plugins_eq.trans hplugins)
  refine ⟨preset, service.library.push preset, ?_, hstores.id_eq, hnone, hstores.items_eq⟩
  unfold importXml
  rw [htext]
  refine bind_eq_ok.2 ⟨document, rfl, bind_eq_ok.2 ⟨snapshot, ofStore_eq_ok.2 hsnapshot, ?_⟩⟩
  dsimp only
  rw [hknown, if_neg fun hempty => hsome (List.isEmpty_iff.1 hempty)]
  exact bind_eq_ok.2 ⟨_, hsave, rfl⟩

end Service

end SitePresets
