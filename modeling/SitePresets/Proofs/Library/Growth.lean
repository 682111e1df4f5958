import Mathlib.Data.List.Flatten
import Mathlib.Data.List.Nodup
import SitePresets.Proofs.Library.Filling

/-!
# How a library grows

What holds of a library after it has filled up: numbers stay unique, rows stay with the preset that owns
them, and what is new has numbers that were not in use.
-/

namespace SitePresets

/-- A preset later on: it may have more rows, with numbers from given ones on. -/
structure Preset.Extends (items plugins : Nat) (preset stored : Preset) : Prop where
  id_eq : stored.id = preset.id
  items : ∃ more, stored.items = preset.items ++ more ∧ ∀ row ∈ more, items ≤ row.id
  plugins : ∃ more, stored.plugins = preset.plugins ++ more ∧ ∀ row ∈ more, plugins ≤ row.id

namespace Preset.Extends

variable {items plugins : Nat} {preset next stored : Preset}

theorem of_eq (hid : stored.id = preset.id) (hitems : stored.items = preset.items)
    (hplugins : stored.plugins = preset.plugins) : preset.Extends items plugins stored where
  id_eq := hid
  items := ⟨[], hitems.trans (List.append_nil _).symm, fun _ hrow => nomatch hrow⟩
  plugins := ⟨[], hplugins.trans (List.append_nil _).symm, fun _ hrow => nomatch hrow⟩

theorem refl (preset : Preset) : preset.Extends items plugins preset :=
  of_eq rfl rfl rfl

theorem trans {items' plugins' : Nat} (h : preset.Extends items plugins next)
    (h' : next.Extends items' plugins' stored) (hitems : items ≤ items')
    (hplugins : plugins ≤ plugins') : preset.Extends items plugins stored where
  id_eq := h'.id_eq.trans h.id_eq
  items := by
    obtain ⟨first, hfirst, hlow⟩ := h.items
    obtain ⟨second, hsecond, hlow'⟩ := h'.items
    refine ⟨first ++ second, by rw [hsecond, hfirst, List.append_assoc], fun row hrow => ?_⟩
    rcases List.mem_append.1 hrow with hrow | hrow
    · exact hlow row hrow
    · exact Nat.le_trans hitems (hlow' row hrow)
  plugins := by
    obtain ⟨first, hfirst, hlow⟩ := h.plugins
    obtain ⟨second, hsecond, hlow'⟩ := h'.plugins
    refine ⟨first ++ second, by rw [hsecond, hfirst, List.append_assoc], fun row hrow => ?_⟩
    rcases List.mem_append.1 hrow with hrow | hrow
    · exact hlow row hrow
    · exact Nat.le_trans hplugins (hlow' row hrow)

theorem items_subset (h : preset.Extends items plugins stored) : preset.items ⊆ stored.items := by
  obtain ⟨more, hmore, -⟩ := h.items
  rw [hmore]
  exact List.subset_append_left _ _

theorem plugins_subset (h : preset.Extends items plugins stored) :
    preset.plugins ⊆ stored.plugins := by
  obtain ⟨more, hmore, -⟩ := h.plugins
  rw [hmore]
  exact List.subset_append_left _ _

end Preset.Extends

namespace Library

/-- Each number stands for one row, and the values of the items are limited. -/
structure Orderly (limits : Limits) (library : Library) : Prop where
  presets : (library.presets.map Preset.id).Nodup
  items : library.itemIds.Nodup
  plugins : library.pluginIds.Nodup
  sound : library.Sound
  values : ∀ preset ∈ library.presets, ∀ row ∈ preset.items, limits.values row.item.value

/-- How a library looks later on, if no preset was deleted. -/
structure Grows (limits : Limits) (library after : Library) : Prop where
  /-- Every preset is there, and only some have got rows. -/
  kept : ∀ preset ∈ library.presets, ∃ stored ∈ after.presets,
    preset.Extends library.nextItemId library.nextPluginId stored ∧
      (limits.presets preset.id ∨ stored.items = preset.items ∧ stored.plugins = preset.plugins)
  /-- A preset that is there later on was there before, or it was empty when it was new. -/
  origin : ∀ stored ∈ after.presets, ∃ preset : Preset,
    preset.Extends library.nextItemId library.nextPluginId stored ∧
      (preset ∈ library.presets ∨
        library.nextPresetId ≤ preset.id ∧ preset.items = [] ∧ preset.plugins = [])

variable {limits : Limits} {library middle after : Library}
  {preset stored : Preset}

/-- Only one row has a number, so putting another in its place changes no other. -/
theorem map_replace {α : Type} {id : α → Nat} {old new : α} {front back : List α}
    (hnodup : ((front ++ old :: back).map id).Nodup) (hid : id new = id old) :
    ((front ++ old :: back).map fun other => if id other = id new then new else other) =
      front ++ new :: back := by
  rw [List.map_append, List.map_cons, List.nodup_middle, List.nodup_cons] at hnodup
  have hother (others : List α) (hothers : others ⊆ front ++ back) :
      (others.map fun other => if id other = id new then new else other) = others := by
    conv => rhs; rw [← List.map_id others]
    refine List.map_congr_left fun other hmem => if_neg fun heq => hnodup.1 ?_
    rw [← List.map_append, ← hid, ← heq]
    exact List.mem_map_of_mem (hothers hmem)
  rw [List.map_append, List.map_cons, if_pos hid.symm,
    hother front (List.subset_append_left _ _), hother back (List.subset_append_right _ _)]

theorem exists_replacePreset (hnodup : (library.presets.map Preset.id).Nodup)
    (hpreset : preset ∈ library.presets) (hid : stored.id = preset.id) :
    ∃ front back, library.presets = front ++ preset :: back ∧
      library.replacePreset stored = { library with presets := front ++ stored :: back } := by
  obtain ⟨front, back, hpresets⟩ := List.append_of_mem hpreset
  refine ⟨front, back, hpresets, ?_⟩
  unfold replacePreset
  rw [hpresets] at hnodup ⊢
  rw [map_replace hnodup hid]

theorem exists_replaceApplication {application : Application}
    (stored : Application) (hnodup : (library.applications.map Application.id).Nodup)
    (happlication : application ∈ library.applications) (hid : stored.id = application.id) :
    ∃ front back, library.applications = front ++ application :: back ∧
      library.replaceApplication stored = { library with applications := front ++ stored :: back } := by
  obtain ⟨front, back, happlications⟩ := List.append_of_mem happlication
  refine ⟨front, back, happlications, ?_⟩
  unfold replaceApplication
  rw [happlications] at hnodup ⊢
  rw [map_replace hnodup hid]

theorem sound_gains {item : Option StoredItem} {plugin : Option StoredPlugin}
    (hgains : preset.Gains limits library stored item plugin) (hsound : preset.Sound) :
    stored.Sound where
  items := by
    rw [hgains.items_eq, List.map_append, List.nodup_append]
    refine ⟨hsound.items, ?_, ?_⟩
    · cases item <;> simp
    · intro key hkey other hother heq
      obtain ⟨held, hheld, rfl⟩ := List.mem_map.1 hkey
      obtain ⟨row, hrow, rfl⟩ := List.mem_map.1 hother
      exact (hgains.item row (Option.mem_toList.1 hrow)).2.2 held hheld heq
  plugins row hrow := by
    rw [hgains.plugins_eq] at hrow
    rcases List.mem_append.1 hrow with hrow | hrow
    · exact hsound.plugins row hrow
    · exact (hgains.plugin row (Option.mem_toList.1 hrow)).2

theorem Fills.edits (h : library.Fills limits after) (hsound : library.Sound) :
    library.Edits after := by
  induction h with
  | refl => exact .refl _
  | created preset hid hitems hplugins =>
    refine .of_subset (fun hsound other hother => ?_) (List.Subset.refl _)
    rcases List.mem_append.1 hother with hother | hother
    · exact hsound other hother
    · obtain rfl := List.mem_singleton.1 hother
      exact ⟨by simp [hitems], by simp [hplugins]⟩
  | gained hpreset hgains => exact .replacePreset (sound_gains hgains (hsound _ hpreset))
  | trans _ _ hfirst hrest =>
    have hedits := hfirst hsound
    exact hedits.trans (hrest (hedits.sound hsound))

/-- A row that comes with the next number is the only one with it. -/
theorem nodup_flatMap_gains {α : Type} {f : Preset → List α} {front back : List Preset} (new : List α)
    (hstored : f stored = f preset ++ new) (hnew : new.Nodup)
    (hfresh : ∀ a ∈ new, a ∉ (front ++ preset :: back).flatMap f)
    (hnodup : ((front ++ preset :: back).flatMap f).Nodup) :
    ((front ++ stored :: back).flatMap f).Nodup := by
  have hperm : ((front ++ stored :: back).flatMap f).Perm
      (new ++ (front ++ preset :: back).flatMap f) := by
    rw [List.flatMap_append, List.flatMap_cons, hstored, List.flatMap_append, List.flatMap_cons]
    calc front.flatMap f ++ (f preset ++ new ++ back.flatMap f)
        = (front.flatMap f ++ f preset) ++ (new ++ back.flatMap f) := by
          simp only [List.append_assoc]
      List.Perm _ (new ++ ((front.flatMap f ++ f preset) ++ back.flatMap f)) :=
          List.perm_append_comm_assoc _ _ _
      _ = new ++ (front.flatMap f ++ (f preset ++ back.flatMap f)) := by
          simp only [List.append_assoc]
  rw [hperm.nodup_iff, List.nodup_append]
  exact ⟨hnew, hnodup, fun a ha b hb heq => hfresh a ha (heq ▸ hb)⟩

theorem Fills.orderly (h : library.Fills limits after) (horderly : library.Orderly limits) :
    after.Orderly limits := by
  induction h with
  | refl => exact horderly
  | trans _ _ hfirst hrest => exact hrest (hfirst horderly)
  | @created library preset hid hitems hplugins =>
    have hsound : preset.Sound := by
      constructor
      · rw [hitems]
        exact List.nodup_nil
      · rw [hplugins]
        exact fun _ hrow => nomatch hrow
    exact {
      presets := by
        rw [List.map_append, List.nodup_append]
        refine ⟨horderly.presets, List.nodup_singleton _, fun id hold other hnew heq => ?_⟩
        rw [heq, List.mem_singleton.1 hnew, hid] at hold
        exact Numbering.next_not_mem _ hold
      items := by simpa [itemIds, hitems] using horderly.items
      plugins := by simpa [pluginIds, hplugins] using horderly.plugins
      sound := by
        intro other hother
        rcases List.mem_append.1 hother with hother | hother
        · exact horderly.sound other hother
        · exact List.mem_singleton.1 hother ▸ hsound
      values := by
        intro other hother row hrow
        rcases List.mem_append.1 hother with hother | hother
        · exact horderly.values other hother row hrow
        · rw [List.mem_singleton.1 hother, hitems] at hrow
          cases hrow }
  | @gained library preset stored item plugin hpreset hgains _ =>
    obtain ⟨front, back, hpresets, hreplaced⟩ :=
      exists_replacePreset horderly.presets hpreset hgains.id_eq
    have hcases (other : Preset) (hother : other ∈ (library.replacePreset stored).presets) :
        other = stored ∨ other ∈ library.presets := by
      obtain ⟨old, hold, rfl⟩ := List.mem_map.1 hother
      split
      · exact .inl rfl
      · exact .inr hold
    exact {
      presets := by
        have hids := horderly.presets
        rw [hpresets] at hids
        rw [hreplaced]
        simpa [hgains.id_eq] using hids
      items := by
        have hids := horderly.items
        unfold itemIds at hids ⊢
        rw [hpresets] at hids
        rw [hreplaced]
        refine nodup_flatMap_gains (item.map StoredItem.id).toList ?_ ?_ ?_ hids
        · rw [hgains.items_eq]
          cases item <;> simp
        · cases item <;> simp
        · intro id hid
          obtain ⟨row, hrow, rfl⟩ := Option.map_eq_some_iff.1 (Option.mem_toList.1 hid)
          rw [(hgains.item row hrow).1, ← hpresets]
          exact Numbering.next_not_mem _
      plugins := by
        have hids := horderly.plugins
        unfold pluginIds at hids ⊢
        rw [hpresets] at hids
        rw [hreplaced]
        refine nodup_flatMap_gains (plugin.map StoredPlugin.id).toList ?_ ?_ ?_ hids
        · rw [hgains.plugins_eq]
          cases plugin <;> simp
        · cases plugin <;> simp
        · intro id hid
          obtain ⟨row, hrow, rfl⟩ := Option.map_eq_some_iff.1 (Option.mem_toList.1 hid)
          rw [(hgains.plugin row hrow).1, ← hpresets]
          exact Numbering.next_not_mem _
      sound := by
        intro other hother
        rcases hcases other hother with rfl | hother
        · exact sound_gains hgains (horderly.sound preset hpreset)
        · exact horderly.sound other hother
      values := by
        intro other hother row hrow
        rcases hcases other hother with rfl | hother
        · rw [hgains.items_eq] at hrow
          rcases List.mem_append.1 hrow with hrow | hrow
          · exact horderly.values preset hpreset row hrow
          · exact (hgains.item row (Option.mem_toList.1 hrow)).2.1
        · exact horderly.values other hother row hrow }

theorem orderly_empty (limits : Limits) : ({} : Library).Orderly limits :=
  ⟨.nil, .nil, .nil, fun _ h => absurd h List.not_mem_nil, fun _ h => absurd h List.not_mem_nil⟩

/-- A preset is the only one with its number. -/
theorem Orderly.preset_of_mem (h : library.Orderly limits) (hpreset : preset ∈ library.presets) :
    library.preset? preset.id = some preset := by
  unfold preset?
  cases hfound : library.presets.find? fun other => (other.id : Int) = preset.id with
  | none => simpa using List.find?_eq_none.1 hfound preset hpreset
  | some other =>
    have hid : (other.id : Int) = preset.id := by simpa using List.find?_some hfound
    exact congrArg some (List.inj_on_of_nodup_map h.presets (List.mem_of_find?_eq_some hfound) hpreset
      (Int.ofNat.inj hid))

theorem Orderly.of_sublist (h : library.Orderly limits)
    (hpart : after.presets.Sublist library.presets) : after.Orderly limits where
  presets := h.presets.sublist (hpart.map _)
  items := h.items.sublist (hpart.flatMap _)
  plugins := h.plugins.sublist (hpart.flatMap _)
  sound preset hpreset := h.sound preset (hpart.subset hpreset)
  values preset hpreset := h.values preset (hpart.subset hpreset)

/-! ### What stays and what is new -/

namespace Grows

theorem nextPresetId_le (h : library.Grows limits after) :
    library.nextPresetId ≤ after.nextPresetId := by
  refine Numbering.next_mono fun id hid => ?_
  obtain ⟨preset, hpreset, rfl⟩ := List.mem_map.1 hid
  obtain ⟨stored, hstored, hextends, -⟩ := h.kept preset hpreset
  exact hextends.id_eq ▸ List.mem_map_of_mem hstored

theorem nextItemId_le (h : library.Grows limits after) : library.nextItemId ≤ after.nextItemId := by
  refine Numbering.next_mono fun id hid => ?_
  obtain ⟨preset, hpreset, hid⟩ := List.mem_flatMap.1 hid
  obtain ⟨stored, hstored, hextends, -⟩ := h.kept preset hpreset
  exact List.mem_flatMap.2 ⟨stored, hstored, List.map_subset _ hextends.items_subset hid⟩

theorem nextPluginId_le (h : library.Grows limits after) :
    library.nextPluginId ≤ after.nextPluginId := by
  refine Numbering.next_mono fun id hid => ?_
  obtain ⟨preset, hpreset, hid⟩ := List.mem_flatMap.1 hid
  obtain ⟨stored, hstored, hextends, -⟩ := h.kept preset hpreset
  exact List.mem_flatMap.2 ⟨stored, hstored, List.map_subset _ hextends.plugins_subset hid⟩

theorem refl (library : Library) : library.Grows limits library where
  kept preset hpreset := ⟨preset, hpreset, .refl _, .inr ⟨rfl, rfl⟩⟩
  origin preset hpreset := ⟨preset, .refl _, .inl hpreset⟩

theorem of_presets_eq (h : library.Grows limits middle) (hpresets : after.presets = middle.presets) :
    library.Grows limits after where
  kept := hpresets ▸ h.kept
  origin := hpresets ▸ h.origin

theorem trans (h : library.Grows limits middle) (h' : middle.Grows limits after) :
    library.Grows limits after where
  kept preset hpreset := by
    obtain ⟨next, hnext, hextends, hrows⟩ := h.kept preset hpreset
    obtain ⟨stored, hstored, hextends', hrows'⟩ := h'.kept next hnext
    refine ⟨stored, hstored, hextends.trans hextends' h.nextItemId_le h.nextPluginId_le, ?_⟩
    rw [hextends.id_eq] at hrows'
    rcases hrows with hopen | ⟨hitems, hplugins⟩
    · exact .inl hopen
    · exact hrows'.imp id fun ⟨hitems', hplugins'⟩ => ⟨hitems'.trans hitems, hplugins'.trans hplugins⟩
  origin stored hstored := by
    obtain ⟨next, hextends', hnext⟩ := h'.origin stored hstored
    rcases hnext with hnext | ⟨hid, hitems, hplugins⟩
    · obtain ⟨preset, hextends, hpreset⟩ := h.origin next hnext
      exact ⟨preset, hextends.trans hextends' h.nextItemId_le h.nextPluginId_le, hpreset⟩
    · have hextends : next.Extends library.nextItemId library.nextPluginId next := .refl next
      refine ⟨next, hextends.trans hextends' h.nextItemId_le h.nextPluginId_le, .inr ⟨?_, hitems, hplugins⟩⟩
      exact Nat.le_trans h.nextPresetId_le hid

end Grows

theorem Fills.grows (h : library.Fills limits after) (horderly : library.Orderly limits) :
    library.Grows limits after := by
  induction h with
  | refl => exact .refl _
  | trans hfirst _ ih ih' => exact (ih horderly).trans (ih' (hfirst.orderly horderly))
  | @created library preset hid hitems hplugins =>
    exact {
      kept := fun other hother =>
        ⟨other, List.mem_append_left _ hother, .refl _, .inr ⟨rfl, rfl⟩⟩
      origin := by
        intro other hother
        refine ⟨other, .refl _, ?_⟩
        rcases List.mem_append.1 hother with hother | hother
        · exact .inl hother
        · obtain rfl := List.mem_singleton.1 hother
          exact .inr ⟨Nat.le_of_eq hid.symm, hitems, hplugins⟩ }
  | @gained library preset stored item plugin hpreset hgains hopen =>
    obtain ⟨front, back, hpresets, hreplaced⟩ :=
      exists_replacePreset horderly.presets hpreset hgains.id_eq
    have hextends : preset.Extends library.nextItemId library.nextPluginId stored := {
      id_eq := hgains.id_eq
      items := ⟨item.toList, hgains.items_eq, fun row hrow =>
        Nat.le_of_eq (hgains.item row (Option.mem_toList.1 hrow)).1.symm⟩
      plugins := ⟨plugin.toList, hgains.plugins_eq, fun row hrow =>
        Nat.le_of_eq (hgains.plugin row (Option.mem_toList.1 hrow)).1.symm⟩ }
    have hrows : limits.presets preset.id ∨ stored.items = preset.items ∧ stored.plugins = preset.plugins := by
      refine hopen.imp id ?_
      rintro ⟨rfl, rfl⟩
      exact ⟨hgains.items_eq.trans (List.append_nil _), hgains.plugins_eq.trans (List.append_nil _)⟩
    have hkept (other : Preset) (hother : other ∈ library.presets) :
        ∃ found ∈ front ++ stored :: back,
          other.Extends library.nextItemId library.nextPluginId found ∧
            (limits.presets other.id ∨ found.items = other.items ∧ found.plugins = other.plugins) := by
      rw [hpresets, List.mem_append, List.mem_cons] at hother
      rcases hother with hother | rfl | hother
      · exact ⟨other, List.mem_append_left _ hother, .refl _, .inr ⟨rfl, rfl⟩⟩
      · exact ⟨stored, List.mem_append_right _ List.mem_cons_self, hextends, hrows⟩
      · exact ⟨other, List.mem_append_right _ (List.mem_cons_of_mem _ hother), .refl _,
          .inr ⟨rfl, rfl⟩⟩
    rw [hreplaced]
    exact {
      kept := hkept
      origin := by
        intro other hother
        rw [List.mem_append, List.mem_cons] at hother
        rcases hother with hother | rfl | hother
        · exact ⟨other, .refl _, .inl (hpresets ▸ List.mem_append_left _ hother)⟩
        · exact ⟨preset, hextends, .inl hpreset⟩
        · exact ⟨other, .refl _,
            .inl (hpresets ▸ List.mem_append_right _ (List.mem_cons_of_mem _ hother))⟩ }

end Library

end SitePresets
