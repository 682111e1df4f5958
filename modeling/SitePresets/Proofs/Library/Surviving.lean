import SitePresets.Proofs.Library.Filling
import SitePresets.Service.Install

/-!
# Presets that survive

What stores a preset leaves those that are there as they are: it writes under a number that none of them
has.
-/

namespace SitePresets

namespace Library

variable {base library after : Library} {preset stored : Preset}

theorem nextPresetId_mono (h : library.presets ⊆ after.presets) :
    library.nextPresetId ≤ after.nextPresetId :=
  Numbering.next_mono (List.map_subset _ h)

theorem id_lt_nextPresetId (h : preset ∈ library.presets) : preset.id < library.nextPresetId :=
  Numbering.lt_next (List.mem_map_of_mem h)

theorem mem_replacePreset_of_ne (h : preset ∈ library.presets) (hid : preset.id ≠ stored.id) :
    preset ∈ (library.replacePreset stored).presets :=
  List.mem_map.2 ⟨preset, h, if_neg hid⟩

/-- A library that holds all presets of another, and a preset beside them that is new. -/
structure Adds (base library : Library) (preset : Preset) : Prop where
  subset : base.presets ⊆ library.presets
  fresh : base.nextPresetId ≤ preset.id

namespace Adds

theorem create {now : Int} {heading : Heading} (hbase : base.presets ⊆ library.presets)
    (h : library.create now heading = .ok (preset, after)) : base.Adds after preset := by
  obtain ⟨⟨timeCreated, rfl⟩, rfl⟩ := create_eq_ok h
  exact ⟨fun other hother => List.mem_append_left _ (hbase hother), nextPresetId_mono hbase⟩

/-- The new preset may be replaced. -/
theorem replaced (h : base.Adds library preset) (hid : stored.id = preset.id) :
    base.Adds (library.replacePreset stored) stored := by
  have hfresh : base.nextPresetId ≤ stored.id := hid ▸ h.fresh
  refine ⟨fun other hother => mem_replacePreset_of_ne (h.subset hother) ?_, hfresh⟩
  exact Nat.ne_of_lt (Nat.lt_of_lt_of_le (id_lt_nextPresetId hother) hfresh)

theorem addItems {items : List Item} (h : base.Adds library preset)
    (hitems : library.addItems preset items = .ok (stored, after)) : base.Adds after stored := by
  induction items generalizing library preset with
  | nil =>
    obtain ⟨rfl, rfl⟩ := Prod.mk.inj (Except.ok.inj hitems)
    exact h
  | cons item rest ih =>
    obtain ⟨⟨row, next, middle⟩, hitem, hrest⟩ := bind_eq_ok.1 hitems
    obtain ⟨-, -, hnext, rfl⟩ := addItem_eq_ok hitem
    have hid : next.id = preset.id := by rw [hnext]
    exact ih (h.replaced hid) hrest

theorem addPlugins {plugins : List (Plugin × Int)} (h : base.Adds library preset)
    (hplugins : library.addPlugins preset plugins = .ok (stored, after)) : base.Adds after stored := by
  induction plugins generalizing library preset with
  | nil =>
    obtain ⟨rfl, rfl⟩ := Prod.mk.inj (Except.ok.inj hplugins)
    exact h
  | cons plugin rest ih =>
    obtain ⟨⟨row, next, middle⟩, hplugin, hrest⟩ := bind_eq_ok.1 hplugins
    obtain ⟨-, -, hnext, rfl⟩ := addPlugin_eq_ok hplugin
    have hid : next.id = preset.id := by rw [hnext]
    exact ih (h.replaced hid) hrest

theorem save {now timeImported : Int} {document : Document} {user : Option Int}
    (h : base.save now document user timeImported = .ok (preset, after)) : base.Adds after preset := by
  obtain ⟨⟨created, first⟩, hcreate, h⟩ := bind_eq_ok.1 h
  obtain ⟨⟨filled, second⟩, hitems, hplugins⟩ := bind_eq_ok.1 h
  exact ((create (List.Subset.refl _) hcreate).addItems hitems).addPlugins hplugins

theorem addCores {now : Int} {documents : List Document} {presets : List Preset}
    (hbase : base.presets ⊆ library.presets)
    (h : library.addCores now documents = .ok (presets, after)) :
    base.presets ⊆ after.presets ∧ ∀ preset ∈ presets, base.Adds after preset := by
  induction documents generalizing library presets with
  | nil =>
    obtain ⟨rfl, rfl⟩ := Prod.mk.inj (Except.ok.inj h)
    exact ⟨hbase, fun _ hpreset => nomatch hpreset⟩
  | cons document rest ih =>
    obtain ⟨⟨preset, middle⟩, hcore, h⟩ := bind_eq_ok.1 h
    obtain ⟨⟨more, last⟩, hrest, h⟩ := bind_eq_ok.1 h
    obtain ⟨rfl, rfl⟩ := Prod.mk.inj (Except.ok.inj h)
    obtain ⟨⟨created, first⟩, hcreate, hcore⟩ := bind_eq_ok.1 hcore
    obtain ⟨⟨filled, second⟩, hitems, hplugins⟩ := bind_eq_ok.1 hcore
    have hadds := ((create hbase hcreate).addItems hitems).addPlugins hplugins
    obtain ⟨hsubset, hmore⟩ := ih hadds.subset hrest
    refine ⟨hsubset, fun other hother => ?_⟩
    rcases List.mem_cons.1 hother with rfl | hother
    · exact ⟨hsubset, hadds.fresh⟩
    · exact hmore other hother

/-- The new preset may be applied. -/
theorem stamped (h : base.Adds library stored)
    (hpreset : library.getPreset stored.id = .ok preset) (now : Int) :
    base.presets ⊆ (library.replacePreset { preset with timeApplied := now }).presets := by
  have hid : preset.id = stored.id := Int.ofNat.inj (id_of_getPreset hpreset)
  have hstamped : ({ preset with timeApplied := now } : Preset).id = stored.id := hid
  exact (h.replaced hstamped).subset

end Adds

end Library

end SitePresets
