import SitePresets.Library
import SitePresets.Proofs.Outcome

/-!
# Sound libraries

What the tables of the library guarantee: a preset holds one item for each key, and the states that
it has for plugins fit their column. No operation on presets breaks that, and none makes up an
application or gives rows to one.
-/

namespace SitePresets

/-- The numbers that are stored with a row of a ledger fit their columns. -/
def LedgerRow.Fits (row : LedgerRow) : Prop :=
  ∀ z ∈ row.numbers, fitsColumn z

/-- One item for each key, and plugin states that fit their column. -/
structure Preset.Sound (preset : Preset) : Prop where
  items : (preset.items.map fun row => row.item.key).Nodup
  plugins : ∀ row ∈ preset.plugins, fitsColumn row.enabled

theorem Preset.Sound.keys_nodup {preset : Preset} (h : preset.Sound) :
    ((preset.items.map StoredItem.item).map Item.key).Nodup := by
  simpa only [List.map_map, Function.comp_def] using h.items

def Library.Sound (library : Library) : Prop :=
  ∀ preset ∈ library.presets, preset.Sound

namespace Library

/-- What an operation other than an apply does to a library at most. -/
structure Edits (library after : Library) : Prop where
  sound : library.Sound → after.Sound
  applications : ∀ application ∈ after.applications,
    ∃ old ∈ library.applications, application.rows.Sublist old.rows

variable {library middle after : Library} {preset stored : Preset}

namespace Edits

theorem of_subset (hsound : library.Sound → after.Sound)
    (happlications : after.applications ⊆ library.applications) : library.Edits after :=
  ⟨hsound, fun application hmem => ⟨application, happlications hmem, .refl _⟩⟩

theorem refl (library : Library) : library.Edits library :=
  of_subset id (List.Subset.refl _)

theorem trans (h : library.Edits middle) (h' : middle.Edits after) : library.Edits after where
  sound hsound := h'.sound (h.sound hsound)
  applications application hmem := by
    obtain ⟨next, hnext, hpart⟩ := h'.applications application hmem
    obtain ⟨old, hold, hpart'⟩ := h.applications next hnext
    exact ⟨old, hold, hpart.trans hpart'⟩

theorem replacePreset (hpreset : preset.Sound) : library.Edits (library.replacePreset preset) := by
  refine of_subset (fun hsound other hother => ?_) (List.Subset.refl _)
  obtain ⟨old, hold, rfl⟩ := List.mem_map.1 hother
  split
  · exact hpreset
  · exact hsound old hold

theorem removeApplication (id : Nat) : library.Edits (library.removeApplication id) :=
  of_subset (fun hsound => hsound) (List.filter_subset_self _)

theorem replaceApplication {application old : Application} (hold : old ∈ library.applications)
    (hpart : application.rows.Sublist old.rows) :
    library.Edits (library.replaceApplication application) where
  sound := id
  applications other hother := by
    obtain ⟨found, hfound, rfl⟩ := List.mem_map.1 hother
    split
    · exact ⟨old, hold, hpart⟩
    · exact ⟨found, hfound, .refl _⟩

end Edits

theorem checkNumber_eq_ok {z : Int} {result : Unit} : checkNumber z = .ok result ↔ fitsColumn z := by
  unfold checkNumber
  by_cases h : fitsColumn z <;> simp [h]

theorem checkNumbers_eq_ok {numbers : List Int} {result : Unit} :
    checkNumbers numbers = .ok result ↔ ∀ z ∈ numbers, fitsColumn z := by
  induction numbers with
  | nil => simp [checkNumbers]
  | cons number rest ih =>
    have hcons : checkNumbers (number :: rest) =
        checkNumber number >>= fun _ => checkNumbers rest := rfl
    rw [List.forall_mem_cons, ← ih, hcons, bind_eq_ok]
    constructor
    · rintro ⟨_, hnumber, hrest⟩
      exact ⟨checkNumber_eq_ok.1 hnumber, hrest⟩
    · rintro ⟨hnumber, hrest⟩
      exact ⟨(), checkNumber_eq_ok.2 hnumber, hrest⟩

theorem checkNumbers_of_unfit {numbers : List Int} (h : ¬ ∀ z ∈ numbers, fitsColumn z) :
    checkNumbers numbers = .error (.refused .numberTooLarge) := by
  induction numbers with
  | nil => exact absurd (fun _ hz => nomatch hz) h
  | cons z rest ih =>
    rw [List.forall_mem_cons] at h
    show (checkNumber z >>= fun _ => checkNumbers rest) = _
    unfold checkNumber
    split
    · rename_i hz
      exact ih fun hrest => h ⟨hz, hrest⟩
    · rfl

theorem preset_of_getPreset {id : Int} (h : library.getPreset id = .ok preset) :
    fitsColumn id ∧ library.preset? id = some preset := by
  obtain ⟨_, hfits, h⟩ := bind_eq_ok.1 h
  refine ⟨checkNumber_eq_ok.1 hfits, ?_⟩
  split at h
  · rename_i found hfound
    exact hfound.trans (congrArg some (Except.ok.inj h))
  · cases h

theorem getPreset_of_preset {id : Int} (hfits : fitsColumn id)
    (h : library.preset? id = some preset) : library.getPreset id = .ok preset := by
  have hcheck : checkNumber id = .ok () := checkNumber_eq_ok.2 hfits
  unfold getPreset
  rw [hcheck, ok_bind, h]
  rfl

theorem id_of_getPreset {id : Int} (h : library.getPreset id = .ok preset) : (preset.id : Int) = id := by
  have hfound := (preset_of_getPreset h).2
  unfold preset? at hfound
  simpa using List.find?_some hfound

theorem mem_of_getPreset {id : Int} (h : library.getPreset id = .ok preset) :
    preset ∈ library.presets :=
  List.mem_of_find?_eq_some (preset_of_getPreset h).2

/-- What is put in the place of a preset is found by its number. -/
theorem getPreset_replacePreset {id : Int} (stored : Preset) (h : library.getPreset id = .ok preset)
    (hid : stored.id = preset.id) : (library.replacePreset stored).getPreset id = .ok stored := by
  obtain ⟨hfits, hfound⟩ := preset_of_getPreset h
  refine getPreset_of_preset hfits ?_
  have hsame : ((fun other : Preset => decide ((other.id : Int) = id)) ∘ fun other =>
      if other.id = stored.id then stored else other) = fun other => decide ((other.id : Int) = id) := by
    funext other
    rw [Function.comp_apply]
    split
    · rename_i hother
      rw [hother]
    · rfl
  unfold preset? replacePreset at *
  rw [List.find?_map, hsame, hfound]
  exact congrArg some (if_pos hid.symm)

theorem application_of_getApplication {id : Int} {application : Application}
    (h : library.getApplication id = .ok application) :
    fitsColumn id ∧ library.application? id = some application := by
  obtain ⟨_, hfits, h⟩ := bind_eq_ok.1 h
  refine ⟨checkNumber_eq_ok.1 hfits, ?_⟩
  split at h
  · rename_i found hfound
    exact hfound.trans (congrArg some (Except.ok.inj h))
  · cases h

theorem mem_of_getApplication {id : Int} {application : Application}
    (h : library.getApplication id = .ok application) : application ∈ library.applications :=
  List.mem_of_find?_eq_some (application_of_getApplication h).2

theorem canRecord_eq_true {now : Int} {user : Option Int} :
    canRecord now user = true ↔ checkNumbers (now :: user.toList) = .ok () := by
  unfold canRecord
  cases checkNumbers (now :: user.toList) with
  | ok result => exact iff_of_true rfl rfl
  | error error => exact iff_of_false Bool.false_ne_true nofun

theorem canRecord_iff {now : Int} {user : Option Int} :
    canRecord now user = true ↔ fitsColumn now ∧ user.all fitsColumn := by
  rw [canRecord_eq_true, checkNumbers_eq_ok, List.forall_mem_cons]
  cases user <;> simp

theorem eq_of_recordApplication {now : Int} {user : Option Int} {rows : List LedgerRow}
    {application : Application}
    (h : library.recordApplication now preset user rows = .ok (application, after)) :
    application = {
        id := library.nextApplicationId
        presetId := preset.id
        user
        timeApplied := now
        rows := LedgerRow.arrange rows } ∧
      after = { library.replacePreset { preset with timeApplied := now } with
        applications := library.applications ++ [application] } := by
  obtain ⟨_, -, h⟩ := bind_eq_ok.1 h
  obtain ⟨_, -, h⟩ := bind_eq_ok.1 h
  obtain ⟨rfl, rfl⟩ := Prod.mk.inj (Except.ok.inj h)
  exact ⟨rfl, rfl⟩

theorem recordApplication_eq_ok {now : Int} {user : Option Int} {rows : List LedgerRow}
    {application : Application}
    (h : library.recordApplication now preset user rows = .ok (application, after)) :
    application.id = library.nextApplicationId ∧ application.presetId = preset.id ∧
      application.rows = LedgerRow.arrange rows ∧
        after.applications = library.applications ++ [application] ∧
          after.presets = (library.replacePreset { preset with timeApplied := now }).presets := by
  obtain ⟨rfl, rfl⟩ := eq_of_recordApplication h
  exact ⟨rfl, rfl, rfl, rfl, rfl⟩

theorem fits_of_recordApplication {now : Int} {user : Option Int} {rows : List LedgerRow}
    {application : Application}
    (h : library.recordApplication now preset user rows = .ok (application, after)) :
    canRecord now user = true ∧ ∀ row ∈ rows, row.Fits := by
  obtain ⟨_, hcheck, h⟩ := bind_eq_ok.1 h
  obtain ⟨_, hrows, -⟩ := bind_eq_ok.1 h
  exact ⟨canRecord_eq_true.2 hcheck, fun row hrow z hz =>
    checkNumbers_eq_ok.1 hrows z (List.mem_flatMap.2 ⟨row, hrow, hz⟩)⟩

theorem exists_recordApplication {now : Int} {user : Option Int} {rows : List LedgerRow}
    (hrecord : canRecord now user = true) (hrows : ∀ row ∈ rows, row.Fits) (library : Library)
    (preset : Preset) :
    ∃ application after,
      library.recordApplication now preset user rows = .ok (application, after) := by
  have hnumbers : checkNumbers (rows.flatMap LedgerRow.numbers) = .ok () := by
    rw [checkNumbers_eq_ok]
    intro z hz
    obtain ⟨row, hrow, hz⟩ := List.mem_flatMap.1 hz
    exact hrows row hrow z hz
  unfold recordApplication
  rw [canRecord_eq_true.1 hrecord, ok_bind, hnumbers]
  exact ⟨_, _, rfl⟩

theorem recordApplication_of_unfit {now : Int} {user : Option Int} {rows : List LedgerRow}
    (h : canRecord now user = true → ¬ ∀ row ∈ rows, row.Fits) (library : Library)
    (preset : Preset) :
    library.recordApplication now preset user rows = .error (.refused .numberTooLarge) := by
  unfold recordApplication
  by_cases hrecord : canRecord now user = true
  · have hnumbers : ¬ ∀ z ∈ rows.flatMap LedgerRow.numbers, fitsColumn z := fun hall =>
      h hrecord fun row hrow z hz => hall z (List.mem_flatMap.2 ⟨row, hrow, hz⟩)
    rw [canRecord_eq_true.1 hrecord, ok_bind, checkNumbers_of_unfit hnumbers]
    rfl
  · have hnumbers : ¬ ∀ z ∈ now :: user.toList, fitsColumn z := fun hall =>
      hrecord (canRecord_eq_true.2 (checkNumbers_eq_ok.2 hall))
    rw [checkNumbers_of_unfit hnumbers]
    rfl

theorem sound_recordApplication {now : Int} {user : Option Int} {rows : List LedgerRow}
    {application : Application} (hsound : library.Sound) (hpreset : preset.Sound)
    (h : library.recordApplication now preset user rows = .ok (application, after)) :
    after.Sound := by
  obtain ⟨-, -, -, -, hpresets⟩ := recordApplication_eq_ok h
  have hstamped : Preset.Sound { preset with timeApplied := now } :=
    ⟨hpreset.items, hpreset.plugins⟩
  intro other hother
  rw [hpresets] at hother
  exact (Edits.replacePreset hstamped).sound hsound other hother

end Library

end SitePresets
