import SitePresets.Declaration.Basic
import SitePresets.Proofs.Library.Soundness

/-!
# How a library fills up

What the operations that store presets do to a library, one row at a time: they add empty presets and
give rows to presets that are there. A new row gets a number that no row has, so the rows of all presets
stay apart, and none changes its owner.
-/

namespace SitePresets

namespace Numbering

variable {used more : List Nat} {n : Nat}

theorem foldl_max_mem (used : List Nat) (start : Nat) : used.foldl max start ∈ start :: used := by
  induction used generalizing start with
  | nil => exact List.mem_cons_self
  | cons n rest ih =>
    rcases List.mem_cons.1 (ih (max start n)) with heq | hmem
    · rw [List.foldl_cons, heq]
      rcases Nat.le_total start n with hle | hle
      · rw [Nat.max_eq_right hle]
        exact List.mem_cons_of_mem _ List.mem_cons_self
      · rw [Nat.max_eq_left hle]
        exact List.mem_cons_self
    · exact List.mem_cons_of_mem _ (List.mem_cons_of_mem _ hmem)

/-- The next number is the least above all that are in use. -/
theorem next_le (hpos : 0 < n) (h : ∀ m ∈ used, m < n) : next used ≤ n := by
  rcases List.mem_cons.1 (foldl_max_mem used 0) with heq | hmem
  · rw [next, heq]
    exact hpos
  · exact h _ hmem

theorem next_mono (h : used ⊆ more) : next used ≤ next more :=
  next_le (next_pos more) fun _ hmem => lt_next (h hmem)

end Numbering

/-- What may be done to a service. -/
structure Limits where
  /-- The values that items may get. -/
  values : Option String → Prop := fun _ => True
  /-- The presets that may get rows, and that may be deleted. -/
  presets : Int → Prop := fun _ => True
  /-- The trees that may be declared. -/
  trees : Node → Prop := fun _ => True
  /-- Whether keys and plugins may be protected. -/
  protection : Prop := True

/-- An item as it is stored: an empty scope is the site. -/
def Item.placed (item : Item) : Item :=
  { item with key := if item.key.scope = "" then { item.key with scope := siteScope } else item.key }

/-- The preset that a heading makes. -/
def Heading.preset (heading : Heading) (id : Nat) (timeCreated : Int) : Preset where
  id
  name := heading.name
  comments := heading.comments
  author := heading.author
  user := heading.user
  site := heading.site
  release := heading.release
  core := heading.core
  timeCreated
  timeImported := heading.timeImported
  timeApplied := 0
  items := []
  plugins := []

namespace Library

def itemIds (library : Library) : List Nat :=
  library.presets.flatMap fun preset => preset.items.map StoredItem.id

def pluginIds (library : Library) : List Nat :=
  library.presets.flatMap fun preset => preset.plugins.map StoredPlugin.id

end Library

/-- What one operation gives to a preset at most: a row in each table, with the next number. -/
structure Preset.Gains (limits : Limits) (library : Library) (preset stored : Preset)
    (item : Option StoredItem) (plugin : Option StoredPlugin) : Prop where
  id_eq : stored.id = preset.id
  items_eq : stored.items = preset.items ++ item.toList
  plugins_eq : stored.plugins = preset.plugins ++ plugin.toList
  item : ∀ row ∈ item, row.id = library.nextItemId ∧ limits.values row.item.value ∧
    ∀ other ∈ preset.items, other.item.key ≠ row.item.key
  plugin : ∀ row ∈ plugin, row.id = library.nextPluginId ∧ fitsColumn row.enabled

namespace Library

/-- How a library fills up. -/
inductive Fills (limits : Limits) : Library → Library → Prop
  | refl (library : Library) : Fills limits library library
  | created {library : Library} (preset : Preset) (hid : preset.id = library.nextPresetId)
    (hitems : preset.items = []) (hplugins : preset.plugins = []) :
    Fills limits library { library with presets := library.presets ++ [preset] }
  | gained {library : Library} {preset stored : Preset} {item : Option StoredItem}
    {plugin : Option StoredPlugin} (hpreset : preset ∈ library.presets)
    (hgains : preset.Gains limits library stored item plugin)
    (hopen : limits.presets preset.id ∨ item = none ∧ plugin = none) :
    Fills limits library (library.replacePreset stored)
  | trans {library middle after : Library} (hfirst : Fills limits library middle)
    (hrest : Fills limits middle after) : Fills limits library after

variable {limits : Limits} {library middle after : Library}
  {preset stored : Preset}

/-! ### Single operations -/

theorem create_eq_ok {now : Int} {heading : Heading}
    (h : library.create now heading = .ok (preset, after)) :
    (∃ timeCreated, preset = heading.preset library.nextPresetId timeCreated) ∧
      after = { library with presets := library.presets ++ [preset] } := by
  obtain ⟨_, -, h⟩ := bind_eq_ok.1 h
  obtain ⟨rfl, rfl⟩ := Prod.mk.inj (Except.ok.inj h)
  exact ⟨⟨_, rfl⟩, rfl⟩

theorem addItem_eq (library : Library) (preset : Preset) (item : Item) :
    library.addItem preset item =
      if preset.items.any fun row => row.item.key = item.placed.key then .error .duplicate
      else .ok (⟨library.nextItemId, item.placed⟩,
        { preset with items := preset.items ++ [⟨library.nextItemId, item.placed⟩] },
        library.replacePreset
          { preset with items := preset.items ++ [⟨library.nextItemId, item.placed⟩] }) :=
  rfl

theorem addItem_eq_ok {item : Item} {row : StoredItem}
    (h : library.addItem preset item = .ok (row, stored, after)) :
    row = ⟨library.nextItemId, item.placed⟩ ∧
      (∀ other ∈ preset.items, other.item.key ≠ item.placed.key) ∧
        stored = { preset with items := preset.items ++ [row] } ∧
          after = library.replacePreset stored := by
  rw [addItem_eq] at h
  split at h
  · cases h
  · rename_i hnew
    obtain ⟨rfl, hpair⟩ := Prod.mk.inj (Except.ok.inj h)
    obtain ⟨rfl, rfl⟩ := Prod.mk.inj hpair
    refine ⟨rfl, fun other hother heq => hnew ?_, rfl, rfl⟩
    exact List.any_eq_true.2 ⟨other, hother, decide_eq_true heq⟩

/-- Items are added in their order. -/
theorem items_of_addItems {items : List Item} (h : library.addItems preset items = .ok (stored, after)) :
    stored.items.map StoredItem.item =
      preset.items.map StoredItem.item ++ items.map Item.placed := by
  induction items generalizing library preset with
  | nil =>
    rw [← (Prod.mk.inj (Except.ok.inj h)).1, List.map_nil, List.append_nil]
  | cons item rest ih =>
    obtain ⟨⟨row, next, middle⟩, hitem, hrest⟩ := bind_eq_ok.1 h
    obtain ⟨rfl, -, rfl, -⟩ := addItem_eq_ok hitem
    rw [ih hrest, List.map_append, List.map_cons, List.append_assoc]
    rfl

theorem addPlugin_eq_ok {plugin : Plugin} {enabled : Int} {row : StoredPlugin}
    (h : library.addPlugin preset plugin enabled = .ok (row, stored, after)) :
    row = ⟨library.nextPluginId, plugin, enabled⟩ ∧ fitsColumn enabled ∧
      stored = { preset with plugins := preset.plugins ++ [row] } ∧
        after = library.replacePreset stored := by
  obtain ⟨_, hfits, h⟩ := bind_eq_ok.1 h
  obtain ⟨rfl, hpair⟩ := Prod.mk.inj (Except.ok.inj h)
  obtain ⟨rfl, rfl⟩ := Prod.mk.inj hpair
  exact ⟨rfl, checkNumber_eq_ok.1 hfits, rfl, rfl⟩

theorem mem_replacePreset (hpreset : preset ∈ library.presets) (hid : stored.id = preset.id) :
    stored ∈ (library.replacePreset stored).presets :=
  List.mem_map.2 ⟨preset, hpreset, if_pos hid.symm⟩

theorem fills_create {now : Int} {heading : Heading}
    (h : library.create now heading = .ok (preset, after)) :
    library.Fills limits after ∧ preset ∈ after.presets := by
  obtain ⟨⟨timeCreated, rfl⟩, rfl⟩ := create_eq_ok h
  exact ⟨.created _ rfl rfl rfl, List.mem_append_right _ List.mem_cons_self⟩

theorem fills_addItem {item : Item} {row : StoredItem} (hpreset : preset ∈ library.presets)
    (hopen : limits.presets preset.id) (hvalues : limits.values item.value)
    (h : library.addItem preset item = .ok (row, stored, after)) :
    library.Fills limits after ∧ stored ∈ after.presets := by
  obtain ⟨rfl, hkey, rfl, rfl⟩ := addItem_eq_ok h
  have hgains : preset.Gains limits library
      { preset with items := preset.items ++ [⟨library.nextItemId, item.placed⟩] }
      (some ⟨library.nextItemId, item.placed⟩) none := {
    id_eq := rfl
    items_eq := rfl
    plugins_eq := (List.append_nil _).symm
    item := fun row hrow => Option.mem_some.1 hrow ▸ ⟨rfl, hvalues, hkey⟩
    plugin := fun row hrow => nomatch hrow }
  exact ⟨.gained hpreset hgains (.inl hopen), mem_replacePreset hpreset rfl⟩

theorem fills_addPlugin {plugin : Plugin} {enabled : Int} {row : StoredPlugin}
    (hpreset : preset ∈ library.presets) (hopen : limits.presets preset.id)
    (h : library.addPlugin preset plugin enabled = .ok (row, stored, after)) :
    library.Fills limits after ∧ stored ∈ after.presets := by
  obtain ⟨rfl, hfits, rfl, rfl⟩ := addPlugin_eq_ok h
  have hgains : preset.Gains limits library
      { preset with plugins := preset.plugins ++ [⟨library.nextPluginId, plugin, enabled⟩] }
      none (some ⟨library.nextPluginId, plugin, enabled⟩) := {
    id_eq := rfl
    items_eq := (List.append_nil _).symm
    plugins_eq := rfl
    item := fun row hrow => nomatch hrow
    plugin := fun row hrow => Option.mem_some.1 hrow ▸ ⟨rfl, hfits⟩ }
  exact ⟨.gained hpreset hgains (.inl hopen), mem_replacePreset hpreset rfl⟩

theorem fills_headed (hpreset : preset ∈ library.presets) (hid : stored.id = preset.id)
    (hitems : stored.items = preset.items) (hplugins : stored.plugins = preset.plugins) :
    library.Fills limits (library.replacePreset stored) := by
  have hgains : preset.Gains limits library stored none none := {
    id_eq := hid
    items_eq := hitems.trans (List.append_nil _).symm
    plugins_eq := hplugins.trans (List.append_nil _).symm
    item := fun row hrow => nomatch hrow
    plugin := fun row hrow => nomatch hrow }
  exact .gained hpreset hgains (.inr ⟨rfl, rfl⟩)

theorem fills_stamped (hpreset : preset ∈ library.presets) (now : Int) :
    library.Fills limits (library.replacePreset { preset with timeApplied := now }) :=
  fills_headed hpreset rfl rfl rfl

/-! ### Whole operations -/

theorem fills_addItems {items : List Item} (hpreset : preset ∈ library.presets)
    (hopen : limits.presets preset.id) (hvalues : ∀ item ∈ items, limits.values item.value)
    (h : library.addItems preset items = .ok (stored, after)) :
    library.Fills limits after ∧ stored ∈ after.presets ∧ stored.id = preset.id := by
  induction items generalizing library preset with
  | nil =>
    obtain ⟨rfl, rfl⟩ := Prod.mk.inj (Except.ok.inj h)
    exact ⟨.refl _, hpreset, rfl⟩
  | cons item rest ih =>
    obtain ⟨⟨row, next, middle⟩, hitem, h⟩ := bind_eq_ok.1 h
    obtain ⟨hfirst, hnext⟩ :=
      fills_addItem hpreset hopen (hvalues item List.mem_cons_self) hitem
    have hid : next.id = preset.id := by
      obtain ⟨-, -, rfl, -⟩ := addItem_eq_ok hitem
      rfl
    obtain ⟨hrest, hstored, hid'⟩ := ih hnext (hid ▸ hopen)
      (fun item hitem => hvalues item (List.mem_cons_of_mem _ hitem)) h
    exact ⟨.trans hfirst hrest, hstored, hid'.trans hid⟩

theorem fills_addPlugins {plugins : List (Plugin × Int)} (hpreset : preset ∈ library.presets)
    (hopen : limits.presets preset.id) (h : library.addPlugins preset plugins = .ok (stored, after)) :
    library.Fills limits after ∧ stored ∈ after.presets := by
  induction plugins generalizing library preset with
  | nil =>
    obtain ⟨rfl, rfl⟩ := Prod.mk.inj (Except.ok.inj h)
    exact ⟨.refl _, hpreset⟩
  | cons plugin rest ih =>
    obtain ⟨⟨row, next, middle⟩, hplugin, h⟩ := bind_eq_ok.1 h
    obtain ⟨hfirst, hnext⟩ := fills_addPlugin hpreset hopen hplugin
    have hid : next.id = preset.id := by
      obtain ⟨-, -, rfl, -⟩ := addPlugin_eq_ok hplugin
      rfl
    obtain ⟨hrest, hstored⟩ := ih hnext (hid ▸ hopen) h
    exact ⟨.trans hfirst hrest, hstored⟩

/-- Whether a new preset may get rows. -/
def Open (limits : Limits) (library : Library) : Prop :=
  ∀ id : Nat, library.nextPresetId ≤ id → limits.presets id

theorem presetIds_replacePreset (library : Library) (stored : Preset) :
    (library.replacePreset stored).presets.map Preset.id = library.presets.map Preset.id := by
  unfold replacePreset
  rw [List.map_map]
  refine List.map_congr_left fun other _ => ?_
  rw [Function.comp_apply]
  split
  · rename_i h
    exact h.symm
  · rfl

theorem Fills.applications_eq (h : library.Fills limits after) :
    after.applications = library.applications := by
  induction h with
  | refl | created | gained => rfl
  | trans _ _ hfirst hrest => exact hrest.trans hfirst

theorem Fills.isOpen (h : library.Fills limits after) (hopen : library.Open limits) :
    after.Open limits := by
  have hle : library.nextPresetId ≤ after.nextPresetId := by
    clear hopen
    induction h with
    | refl => exact Nat.le_refl _
    | created => exact Numbering.next_mono (List.map_subset _ (List.subset_append_left _ _))
    | @gained library _ stored =>
      have hids := congrArg Numbering.next (presetIds_replacePreset library stored)
      exact Nat.le_of_eq hids.symm
    | trans _ _ hfirst hrest => exact Nat.le_trans hfirst hrest
  exact fun id hid => hopen id (Nat.le_trans hle hid)

theorem fills_filled {now : Int} {heading : Heading} {items : List Item}
    {plugins : List (Plugin × Int)} {first second third : Library} {created filled : Preset}
    (hnew : library.Open limits) (hvalues : ∀ item ∈ items, limits.values item.value)
    (hcreate : library.create now heading = .ok (created, first))
    (hitems : first.addItems created items = .ok (filled, second))
    (hplugins : second.addPlugins filled plugins = .ok (stored, third)) :
    library.Fills limits third ∧ stored ∈ third.presets := by
  obtain ⟨hfirst, hcreated⟩ := fills_create hcreate
  have hopen : limits.presets created.id := by
    obtain ⟨⟨timeCreated, rfl⟩, -⟩ := create_eq_ok hcreate
    exact hnew _ (Nat.le_refl _)
  obtain ⟨hsecond, hfilled, hid⟩ := fills_addItems hcreated hopen hvalues hitems
  obtain ⟨hthird, hstored⟩ := fills_addPlugins hfilled (hid ▸ hopen) hplugins
  exact ⟨.trans hfirst (.trans hsecond hthird), hstored⟩

theorem fills_save {now timeImported : Int} {document : Document} {user : Option Int}
    (hnew : library.Open limits) (hvalues : ∀ item ∈ document.items, limits.values item.value)
    (h : library.save now document user timeImported = .ok (preset, after)) :
    library.Fills limits after ∧ preset ∈ after.presets := by
  obtain ⟨⟨created, first⟩, hcreate, h⟩ := bind_eq_ok.1 h
  obtain ⟨⟨filled, second⟩, hitems, hplugins⟩ := bind_eq_ok.1 h
  exact fills_filled hnew hvalues hcreate hitems hplugins

theorem fills_update {id : Int} {name comments : Option String}
    (h : library.update id name comments = .ok (preset, after)) : library.Fills limits after := by
  obtain ⟨old, hold, h⟩ := bind_eq_ok.1 h
  obtain ⟨rfl, rfl⟩ := Prod.mk.inj (Except.ok.inj h)
  exact fills_headed (mem_of_getPreset hold) rfl rfl rfl

end Library

end SitePresets
