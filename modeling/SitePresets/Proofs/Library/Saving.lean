import Mathlib.Data.List.Nodup
import SitePresets.Proofs.Library.Filling

/-!
# Storing a document

A document whose numbers fit their columns is stored as it is, as one more preset; only empty scopes are put in
their place. Nothing else of the library changes. If it has two items for one key, it is not stored at all.
-/

namespace SitePresets

/-- The time that a preset gets as the one of its creation. -/
def Heading.createdAt (heading : Heading) (now : Int) : Int :=
  match heading.timeCreated with
  | none | some 0 => now
  | some time => time

/-- Whether the numbers of a preset that is made now fit their columns. -/
structure Heading.Fits (heading : Heading) (now : Int) : Prop where
  now : fitsColumn now
  core : fitsColumn heading.core
  timeImported : fitsColumn heading.timeImported
  timeCreated : heading.timeCreated.all fitsColumn
  user : heading.user.all fitsColumn

/-- What a new preset takes from the head of a document. -/
def Document.heading (document : Document) (user : Option Int) (timeImported : Int) : Heading where
  name := document.name
  comments := document.comments
  author := document.author
  user
  site := document.site
  release := document.release
  timeImported
  timeCreated := document.timeCreated

/-- Whether the numbers of a document that is stored now fit their columns. -/
structure Document.Fits (document : Document) (user : Option Int) (now : Int) : Prop where
  now : fitsColumn now
  user : user.all fitsColumn
  timeCreated : document.timeCreated.all fitsColumn
  plugins : ∀ row ∈ document.plugins, fitsColumn row.2

theorem Document.Fits.withItems {document : Document} {user : Option Int} {now : Int}
    (h : document.Fits user now) (items : List Item) :
    Document.Fits { document with items } user now :=
  ⟨h.now, h.user, h.timeCreated, h.plugins⟩

theorem Document.Fits.heading {document : Document} {user : Option Int} {now : Int}
    (h : document.Fits user now) : (document.heading user now).Fits now where
  now := h.now
  core := (by decide : fitsColumn 0)
  timeImported := h.now
  timeCreated := h.timeCreated
  user := h.user

namespace Preset

variable {preset : Preset} {items more : List StoredItem} {plugins others : List StoredPlugin}

/-- A preset with more rows. -/
def gaining (preset : Preset) (items : List StoredItem) (plugins : List StoredPlugin) : Preset :=
  { preset with items := preset.items ++ items, plugins := preset.plugins ++ plugins }

theorem gaining_nil (preset : Preset) : preset.gaining [] [] = preset := by
  unfold gaining
  rw [List.append_nil, List.append_nil]

theorem gaining_gaining :
    (preset.gaining items plugins).gaining more others =
      preset.gaining (items ++ more) (plugins ++ others) := by
  unfold gaining
  rw [List.append_assoc, List.append_assoc]

end Preset

namespace Library

variable {library : Library} {preset stored : Preset} {now : Int} {heading : Heading} {items : List Item}

theorem create_of_fits (h : heading.Fits now) :
    library.create now heading =
      .ok (heading.preset library.nextPresetId (heading.createdAt now), { library with
        presets := library.presets ++
          [heading.preset library.nextPresetId (heading.createdAt now)] }) := by
  have htime : fitsColumn (heading.createdAt now) := by
    unfold Heading.createdAt
    split
    · exact h.now
    · exact h.now
    · rename_i time _ htime
      have hcreated := h.timeCreated
      rwa [htime] at hcreated
  have hcheck : checkNumbers ([heading.core, heading.timeImported, heading.createdAt now] ++
      heading.user.toList) = .ok () := by
    rw [checkNumbers_eq_ok]
    intro z hz
    rcases List.mem_append.1 hz with hz | hz
    · simp only [List.mem_cons, List.not_mem_nil, or_false] at hz
      rcases hz with rfl | rfl | rfl
      · exact h.core
      · exact h.timeImported
      · exact htime
    · exact (Option.all_eq_true _ _).1 h.user z (Option.mem_toList.1 hz)
  exact bind_eq_ok.2 ⟨(), hcheck, rfl⟩

/-- A library with one more preset. -/
def push (library : Library) (preset : Preset) : Library :=
  { library with presets := library.presets ++ [preset] }

/-! ### The rows of the last preset -/

section Push

variable (hnew : preset.id ∉ library.presets.map Preset.id)
include hnew

theorem replacePreset_push (hid : stored.id = preset.id) :
    (library.push preset).replacePreset stored = library.push stored := by
  have hothers : (library.presets.map fun other => if other.id = stored.id then stored else other) =
      library.presets := by
    conv => rhs; rw [← List.map_id library.presets]
    refine List.map_congr_left fun other hother => if_neg fun heq => hnew ?_
    rw [← hid, ← heq]
    exact List.mem_map_of_mem hother
  unfold replacePreset push
  rw [List.map_append, hothers, List.map_cons, if_pos hid.symm, List.map_nil]

theorem addItem_push {item : Item} (hkey : item.placed.key ∉ preset.items.map fun row => row.item.key) :
    ∃ row, (library.push preset).addItem preset item =
        .ok (row, preset.gaining [row] [], library.push (preset.gaining [row] [])) ∧
      row.item = item.placed := by
  have hother : ¬ preset.items.any fun row => row.item.key = item.placed.key := by
    intro hany
    obtain ⟨row, hrow, heq⟩ := List.any_eq_true.1 hany
    exact hkey (of_decide_eq_true heq ▸ List.mem_map_of_mem hrow)
  refine ⟨⟨(library.push preset).nextItemId, item.placed⟩, ?_, rfl⟩
  have hpush := @replacePreset_push library preset
    (preset.gaining [⟨(library.push preset).nextItemId, item.placed⟩] []) hnew rfl
  rw [addItem_eq, if_neg hother, ← hpush]
  unfold Preset.gaining
  rw [List.append_nil]

theorem addItems_push (hnodup : (preset.items.map (fun row => row.item.key) ++
      items.map fun item => item.placed.key).Nodup) :
    ∃ rows, (library.push preset).addItems preset items =
        .ok (preset.gaining rows [], library.push (preset.gaining rows [])) ∧
      rows.map StoredItem.item = items.map Item.placed := by
  induction items generalizing preset with
  | nil => exact ⟨[], by rw [Preset.gaining_nil]; rfl, rfl⟩
  | cons item rest ih =>
    rw [List.map_cons, List.nodup_middle, List.nodup_cons] at hnodup
    obtain ⟨row, hadd, hrow⟩ :=
      addItem_push hnew fun hkey => hnodup.1 (List.mem_append_left _ hkey)
    have hnodup' : (((preset.gaining [row] []).items.map fun row => row.item.key) ++
        rest.map fun item => item.placed.key).Nodup := by
      show ((preset.items ++ [row]).map _ ++ _).Nodup
      rw [List.map_append, List.append_assoc, List.map_cons, List.map_nil, hrow, List.singleton_append,
        List.nodup_middle]
      exact List.nodup_cons.2 hnodup
    obtain ⟨rows, hrest, hrows⟩ := @ih (preset.gaining [row] []) hnew hnodup'
    rw [Preset.gaining_gaining] at hrest
    refine ⟨row :: rows, bind_eq_ok.2 ⟨_, hadd, hrest⟩, ?_⟩
    rw [List.map_cons, List.map_cons, hrow, hrows]

theorem addPlugin_push (plugin : Plugin) {enabled : Int} (hfits : fitsColumn enabled) :
    ∃ row, (library.push preset).addPlugin preset plugin enabled =
        .ok (row, preset.gaining [] [row], library.push (preset.gaining [] [row])) ∧
      (row.plugin, row.enabled) = (plugin, enabled) := by
  refine ⟨⟨(library.push preset).nextPluginId, plugin, enabled⟩, ?_, rfl⟩
  have hpush := @replacePreset_push library preset
    (preset.gaining [] [⟨(library.push preset).nextPluginId, plugin, enabled⟩]) hnew rfl
  rw [← hpush]
  unfold Preset.gaining
  rw [List.append_nil]
  exact bind_eq_ok.2 ⟨(), checkNumber_eq_ok.2 hfits, rfl⟩

theorem addPlugins_push {plugins : List (Plugin × Int)} (hfits : ∀ row ∈ plugins, fitsColumn row.2) :
    ∃ rows, (library.push preset).addPlugins preset plugins =
        .ok (preset.gaining [] rows, library.push (preset.gaining [] rows)) ∧
      rows.map (fun row => (row.plugin, row.enabled)) = plugins := by
  induction plugins generalizing preset with
  | nil => exact ⟨[], by rw [Preset.gaining_nil]; rfl, rfl⟩
  | cons pair rest ih =>
    rw [List.forall_mem_cons] at hfits
    obtain ⟨row, hadd, hrow⟩ := addPlugin_push hnew pair.1 hfits.1
    obtain ⟨rows, hrest, hrows⟩ := @ih (preset.gaining [] [row]) hnew hfits.2
    rw [Preset.gaining_gaining] at hrest
    refine ⟨row :: rows, bind_eq_ok.2 ⟨_, hadd, hrest⟩, ?_⟩
    rw [List.map_cons, hrow, hrows]

/-- A new preset is found by its number. -/
theorem getPreset_push (hfits : fitsColumn preset.id) :
    (library.push preset).getPreset preset.id = .ok preset := by
  refine getPreset_of_preset hfits ?_
  unfold preset? push
  rw [List.find?_append, List.find?_eq_none.2, Option.none_or, List.find?_cons_of_pos (by simp)]
  intro other hother heq
  exact hnew (Int.natCast_inj.1 (of_decide_eq_true heq) ▸ List.mem_map_of_mem hother)

end Push

/-- A new preset takes items with keys of their own. -/
theorem exists_filled (hfits : heading.Fits now)
    (hnodup : (items.map fun item => item.placed.key).Nodup) :
    ∃ first rows after,
      library.create now heading =
        .ok (heading.preset library.nextPresetId (heading.createdAt now), first) ∧
      first.addItems (heading.preset library.nextPresetId (heading.createdAt now)) items =
        .ok ({ heading.preset library.nextPresetId (heading.createdAt now) with items := rows }, after) ∧
      rows.map StoredItem.item = items.map Item.placed := by
  let head := heading.preset library.nextPresetId (heading.createdAt now)
  have hnew : head.id ∉ library.presets.map Preset.id := Numbering.next_not_mem _
  obtain ⟨rows, hadd, hrows⟩ := @addItems_push library head items hnew hnodup
  exact ⟨_, rows, _, create_of_fits hfits, hadd, hrows⟩

variable {document : Document} {user : Option Int}

/-- What a document becomes when it is stored. -/
structure Stores (library : Library) (document : Document) (user : Option Int) (preset : Preset) :
    Prop where
  id_eq : preset.id = library.nextPresetId
  name_eq : preset.name = document.name
  comments_eq : preset.comments = document.comments
  author_eq : preset.author = document.author
  user_eq : preset.user = user
  site_eq : preset.site = document.site
  release_eq : preset.release = document.release
  items_eq : preset.items.map StoredItem.item = document.items.map Item.placed
  plugins_eq : preset.plugins.map (fun row => (row.plugin, row.enabled)) = document.plugins

variable (hfits : document.Fits user now)
include hfits

theorem save_of_nodup (library : Library)
    (hkeys : (document.items.map fun item => item.placed.key).Nodup) :
    ∃ preset, library.save now document user now = .ok (preset, library.push preset) ∧
      library.Stores document user preset := by
  let head := (document.heading user now).preset library.nextPresetId
    ((document.heading user now).createdAt now)
  have hnew : head.id ∉ library.presets.map Preset.id := Numbering.next_not_mem _
  obtain ⟨items, hitems, hrows⟩ := @addItems_push library head document.items hnew hkeys
  obtain ⟨plugins, hplugins, hstates⟩ :=
    @addPlugins_push library (head.gaining items []) hnew document.plugins hfits.plugins
  rw [Preset.gaining_gaining, List.append_nil, List.nil_append] at hplugins
  exact ⟨_, bind_eq_ok.2 ⟨_, create_of_fits hfits.heading, bind_eq_ok.2 ⟨_, hitems, hplugins⟩⟩,
    ⟨rfl, rfl, rfl, rfl, rfl, rfl, rfl, hrows, hstates⟩⟩

end Library

end SitePresets
