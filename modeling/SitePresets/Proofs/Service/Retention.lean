import SitePresets.Proofs.Service.Advance
import SitePresets.Proofs.Site.Persisting

/-!
# What a session retains

A session that spares a preset and declares no other tree retains the preset with all its rows, and the
site but for its values and its plugins.
-/

namespace SitePresets

theorem Site.Persists.of_evolves {site after : Site} (h : site.Evolves after) :
    site.Persists after := by
  induction h with
  | refl => exact .refl _
  | wrote hwrote => exact ⟨hwrote.keeps.tree_eq, hwrote.keeps.chain_eq, hwrote.staysReadable⟩
  | switched hswitches =>
    refine ⟨hswitches.tree_eq, hswitches.chain_eq, fun key hread => ?_⟩
    rw [hswitches.values.get_eq]
    exact hread
  | trans _ _ hfirst hrest => exact hfirst.trans hrest

/-- Everything but what touches the rows of a preset or declares another tree. -/
def Limits.sparing (preset : Preset) (tree : Node) : Limits where
  presets id := id ≠ preset.id
  trees declared := declared = tree

namespace Service

variable {limits : Limits} {service after : Service} {preset : Preset} {site : Site}

theorem Advances.persists (h : service.Advances limits after)
    (htrees : ∀ tree, limits.trees tree → tree = service.site.tree) :
    service.site.Persists after.site := by
  induction h with
  | settled hsite => exact hsite ▸ .refl _
  | declared htree => exact ⟨htrees _ htree, rfl, fun _ => id⟩
  | guarded => exact ⟨rfl, rfl, fun _ => id⟩
  | site hsite => exact .of_evolves hsite
  | library => exact .refl _
  | @applied service preset request report progress hpreset hrun =>
    rw [site_record]
    exact .of_evolves (Apply.evolves_run hrun)
  | trans _ _ hfirst hrest =>
    have hmiddle := hfirst htrees
    exact hmiddle.trans (hrest fun tree htree => (htrees tree htree).trans hmiddle.tree_eq.symm)

theorem Becomes.persists (h : service.Becomes limits after)
    (htrees : ∀ tree, limits.trees tree → tree = service.site.tree) :
    service.site.Persists after.site := by
  cases h with
  | advanced h => exact h.persists htrees
  | reduced hsite => exact .of_evolves hsite
  | deleted => exact .refl _

/-- A service that has a preset with all its rows, and a site as it was but for values and plugins. -/
structure Retains (preset : Preset) (site : Site) (service : Service) : Prop where
  persists : site.Persists service.site
  stored : ∃ stored ∈ service.library.presets,
    stored.id = preset.id ∧ stored.items = preset.items ∧ stored.plugins = preset.plugins
  orderly : service.library.Orderly (.sparing preset site.tree)

namespace Retains

theorem isOpen (h : service.Retains preset site) :
    service.library.Open (.sparing preset site.tree) := by
  obtain ⟨stored, hstored, hid, -⟩ := h.stored
  intro id hle heq
  have hlt : stored.id < service.library.nextPresetId :=
    Numbering.lt_next (List.mem_map_of_mem hstored)
  have heq : id = preset.id := Int.ofNat.inj heq
  omega

theorem becomes (h : service.Retains preset site)
    (hbecomes : service.Becomes (.sparing preset site.tree) after) : after.Retains preset site := by
  obtain ⟨stored, hstored, hid, hitems, hplugins⟩ := h.stored
  have htrees (tree : Node) (htree : (Limits.sparing preset site.tree).trees tree) :
      tree = service.site.tree := htree.trans h.persists.tree_eq.symm
  refine ⟨h.persists.trans (hbecomes.persists htrees), ?_, hbecomes.orderly h.orderly⟩
  cases hbecomes with
  | advanced hadvances =>
    obtain ⟨later, hlater, hextends, hrows⟩ := (hadvances.grows h.orderly).kept stored hstored
    obtain ⟨hitems', hplugins'⟩ := hrows.resolve_left fun hne => hne (congrArg Int.ofNat hid)
    exact ⟨later, hlater, hextends.id_eq.trans hid, hitems'.trans hitems, hplugins'.trans hplugins⟩
  | @reduced _ application rows =>
    refine ⟨stored, ?_, hid, hitems, hplugins⟩
    show stored ∈ (service.library.keepRows application rows).presets
    rw [Library.presets_keepRows]
    exact hstored
  | @deleted other hother hallowed =>
    refine ⟨stored, List.mem_filter.2 ⟨hstored, ?_⟩, hid, hitems, hplugins⟩
    exact decide_eq_true fun heq => hallowed (congrArg Int.ofNat (heq.symm.trans hid))

theorem run (h : service.Retains preset site) {steps : List Step}
    (hsteps : ∀ step ∈ steps, step.Within (.sparing preset site.tree)) :
    (service.run steps).2.Retains preset site := by
  induction steps generalizing service with
  | nil => exact h
  | cons step rest ih =>
    have hbecomes : service.Becomes (.sparing preset site.tree) (service.after step) :=
      .of_step h.isOpen (fun _ => trivial) (hsteps step List.mem_cons_self)
    exact ih (h.becomes hbecomes) fun step hstep => hsteps step (List.mem_cons_of_mem _ hstep)

/-- The preset is found by its number. -/
theorem exists_getPreset (h : service.Retains preset site) (hfits : fitsColumn preset.id) :
    ∃ stored, service.library.getPreset preset.id = .ok stored ∧ stored.items = preset.items ∧
      stored.plugins = preset.plugins := by
  obtain ⟨stored, hstored, hid, hrows⟩ := h.stored
  refine ⟨stored, Library.getPreset_of_preset hfits ?_, hrows⟩
  rw [← hid]
  exact h.orderly.preset_of_mem hstored

end Retains

end Service

end SitePresets
