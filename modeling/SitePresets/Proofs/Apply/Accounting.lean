import SitePresets.Proofs.Apply.Outcome
import SitePresets.Proofs.Apply.Preview

/-!
# Accounting for items

A report accounts for each item of a preset: up to where the run stops the items are classified, the others
are cancelled, and each entry is filed under its status.
-/

namespace SitePresets

/-! ### Filed entries -/

namespace ApplyReport

variable {report after : ApplyReport} {entries : List Entry}

namespace Files

theorem foldl_add (report : ApplyReport) (entries : List Entry) :
    report.Files entries (entries.foldl add report) := by
  induction entries generalizing report with
  | nil => exact .nil report
  | cons entry rest ih => exact (ih (report.add entry)).cons

theorem of_buckets {other : ApplyReport} (h : other.Files entries after)
    (happlied : other.applied = report.applied) (hskipped : other.skipped = report.skipped)
    (hnot : other.notApplicable = report.notApplicable) (hfailed : other.failed = report.failed) :
    report.Files entries after where
  applied := by rw [h.applied, happlied]
  skipped := by rw [h.skipped, hskipped]
  notApplicable := by rw [h.notApplicable, hnot]
  failed := by rw [h.failed, hfailed]

end Files

theorem entries_foldl_add (report : ApplyReport) (entries : List Entry) :
    (entries.foldl add report).entries.Perm (report.entries ++ entries) := by
  induction entries generalizing report with
  | nil => rw [List.append_nil]; exact .refl _
  | cons entry rest ih =>
    calc ((rest.foldl add (report.add entry)).entries).Perm ((report.add entry).entries ++ rest) :=
          ih (report.add entry)
      List.Perm _ (entry :: (report.entries ++ rest)) := (entries_add report entry).append_right rest
      List.Perm _ (report.entries ++ entry :: rest) := List.perm_middle.symm

/-- Filed entries are lost nowhere and doubled nowhere. -/
theorem Files.perm (h : report.Files entries after) :
    after.entries.Perm (report.entries ++ entries) := by
  have hfold := Files.foldl_add report entries
  have hentries : after.entries = (entries.foldl add report).entries := by
    unfold ApplyReport.entries
    rw [h.applied, h.skipped, h.notApplicable, h.failed, hfold.applied, hfold.skipped,
      hfold.notApplicable, hfold.failed]
  rw [hentries]
  exact entries_foldl_add report entries

end ApplyReport

namespace Apply

variable {request : ApplyRequest} {snapshot : Snapshot} {progress : Progress} {item : Item}

/-! ### Classification -/

/-- The entry of an item that a run has reached. What is excluded is not looked at any further, and of the
other items one that is unknown is not applicable, and one that is invalid fails. -/
structure Classified (request : ApplyRequest) (snapshot : Snapshot) (item : Item) (entry : Entry) :
    Prop where
  subject_eq : entry.subject = .setting
  key_eq : entry.key = item.key
  excluded_iff : entry.status = .excluded ↔ item.key ∈ request.exclusions ∧ request.override = false
  notApplicable_iff : entry.status = .notApplicable ↔
    (item.key ∉ request.exclusions ∨ request.override = true) ∧ snapshot.get? item.key = none
  invalid : ∀ live, item.key ∉ request.exclusions ∨ request.override = true →
    snapshot.get? item.key = some live →
      (live.withStored item.value item.attributes).isValid = false →
        entry.status = .failed ∧ entry.reason = some Reason.invalidValue
  valid : ∀ live, item.key ∉ request.exclusions ∨ request.override = true →
    snapshot.get? item.key = some live →
      (live.withStored item.value item.attributes).isValid = true →
        entry.status ∈ [Status.applied, .unchanged, .failed]
  reached : entry.status ≠ .cancelled

/-- How writing goes on with an entry. -/
structure GoesOn (entry after : Entry) : Prop where
  subject_eq : after.subject = entry.subject
  key_eq : after.key = entry.key
  status_mem : after.status ∈ [entry.status, Status.applied, .failed]

theorem goesOn_writeFacets (request : ApplyRequest) (live : Descriptor)
    (facets : List (Facet × Bool)) (entry : Entry) (progress : Progress) :
    GoesOn entry (writeFacets request live entry progress facets).1 := by
  induction facets generalizing entry progress with
  | nil => exact ⟨rfl, rfl, List.mem_cons_self⟩
  | cons row rest ih =>
    rw [writeFacets]
    split
    · exact ⟨rfl, rfl, by simp⟩
    · obtain ⟨hsubject, hkey, hstatus⟩ := ih _ _
      exact ⟨hsubject, hkey, List.mem_cons_of_mem _ (by simpa using hstatus)⟩

theorem goesOn_writeWanted (request : ApplyRequest) (live wanted : Descriptor) (entry : Entry)
    (progress : Progress) :
    GoesOn entry (writeWanted request live wanted entry progress).1 := by
  unfold writeWanted
  split
  · obtain ⟨hsubject, hkey, hstatus⟩ := goesOn_writeFacets request live (facetChanges live wanted)
      { entry with reason := some Reason.unchanged } progress
    exact ⟨hsubject, hkey, hstatus⟩
  · dsimp only
    split
    · exact ⟨rfl, rfl, by simp⟩
    · obtain ⟨hsubject, hkey, hstatus⟩ := goesOn_writeFacets request live (facetChanges live wanted) _ _
      exact ⟨hsubject, hkey, List.mem_cons_of_mem _ (by simpa using hstatus)⟩

/-- What becomes of a known item that is not excluded is told by whether it is valid. -/
theorem classified_of_known {live : Descriptor} {entry : Entry}
    (hkept : item.key ∉ request.exclusions ∨ request.override = true)
    (hlive : snapshot.get? item.key = some live) (hsubject : entry.subject = .setting)
    (hkey : entry.key = item.key)
    (hinvalid : (live.withStored item.value item.attributes).isValid = false →
      entry.status = .failed ∧ entry.reason = some Reason.invalidValue)
    (hvalid : (live.withStored item.value item.attributes).isValid = true →
      entry.status ∈ [Status.applied, .unchanged, .failed]) :
    Classified request snapshot item entry := by
  have hmem : entry.status ∈ [Status.applied, .unchanged, .failed] := by
    cases hwanted : (live.withStored item.value item.attributes).isValid with
    | false =>
      rw [(hinvalid hwanted).1]
      decide
    | true => exact hvalid hwanted
  have hother (status : Status) (hnot : status ∉ [Status.applied, .unchanged, .failed]) :
      entry.status ≠ status := fun heq => hnot (heq ▸ hmem)
  have hsame (other : Descriptor) (hother : snapshot.get? item.key = some other) : live = other :=
    Option.some.inj (hlive.symm.trans hother)
  refine ⟨hsubject, hkey, iff_of_false (hother _ (by decide)) ?_,
    iff_of_false (hother _ (by decide)) (fun h => nomatch h.2.symm.trans hlive), ?_, ?_,
    hother _ (by decide)⟩
  · rintro ⟨hexcluded, hoverride⟩
    rcases hkept with hkept | hkept
    · exact hkept hexcluded
    · exact nomatch hkept.symm.trans hoverride
  · intro other _ hfound
    exact hsame other hfound ▸ hinvalid
  · intro other _ hfound
    exact hsame other hfound ▸ hvalid

theorem classified_applyItem (item : Item) (progress : Progress) :
    Classified request snapshot item (applyItem request snapshot item progress).1 := by
  unfold applyItem
  rcases judge_cases request snapshot item with
    ⟨hmem, hoverride, hjudge⟩ | ⟨hkept, ⟨hnone, hjudge⟩ | ⟨live, hlive, hjudge⟩⟩
  · have hnot : ¬ (item.key ∉ request.exclusions ∨ request.override = true) := by
      rw [hoverride]
      simpa using hmem
    rw [hjudge]
    exact {
      subject_eq := rfl
      key_eq := rfl
      excluded_iff := iff_of_true rfl ⟨hmem, hoverride⟩
      notApplicable_iff := iff_of_false (fun h => nomatch h) fun h => hnot h.1
      invalid := fun _ h => absurd h hnot
      valid := fun _ h => absurd h hnot
      reached := fun h => nomatch h }
  · have hnot : ¬ (item.key ∈ request.exclusions ∧ request.override = false) := by
      rw [not_and_or, Bool.not_eq_false]
      exact hkept
    rw [hjudge]
    exact {
      subject_eq := rfl
      key_eq := rfl
      excluded_iff := iff_of_false (fun h => nomatch h) hnot
      notApplicable_iff := iff_of_true rfl ⟨hkept, hnone⟩
      invalid := fun live _ hlive => nomatch hnone.symm.trans hlive
      valid := fun live _ hlive => nomatch hnone.symm.trans hlive
      reached := fun h => nomatch h }
  · rw [hjudge]
    cases hvalid : (live.withStored item.value item.attributes).isValid with
    | false =>
      exact classified_of_known hkept hlive rfl rfl (fun _ => ⟨rfl, rfl⟩)
        fun hwanted => nomatch hvalid.symm.trans hwanted
    | true =>
      obtain ⟨hsubject, hkey, hstatus⟩ := goesOn_writeWanted request live
        (live.withStored item.value item.attributes)
        { key := item.key, status := .unchanged, visibleName := some live.declared.label
          old := live.value, new := item.value } progress
      refine classified_of_known hkept hlive hsubject hkey
        (fun hwanted => nomatch hvalid.symm.trans hwanted) fun _ => ?_
      simp only [List.mem_cons, List.not_mem_nil, or_false] at hstatus ⊢
      exact or_left_comm.1 hstatus

/-! ### Where a run stops -/

/-- The progress of a run after some items. -/
def progressAfter (request : ApplyRequest) (snapshot : Snapshot) (progress : Progress)
    (items : List Item) : Progress :=
  items.foldl (fun progress item => (applyItem request snapshot item progress).2) progress

/-- The entries of items, one after another. -/
def entriesOf (request : ApplyRequest) (snapshot : Snapshot) : Progress → List Item → List Entry
  | _, [] => []
  | progress, item :: rest =>
    (applyItem request snapshot item progress).1 ::
      entriesOf request snapshot (applyItem request snapshot item progress).2 rest

/-- How many of the items a run reaches, the first of them with an index. It stops before the first item at
which it finds itself cancelled. -/
def reach (request : ApplyRequest) (snapshot : Snapshot) (first : Nat) (progress : Progress)
    (items : List Item) : Nat :=
  (List.range items.length).findIdx fun index => request.cancellation.isDue (first + index)
    (progressAfter request snapshot progress (items.take index)).writes

theorem reach_cons (first : Nat) (progress : Progress) (item : Item) (rest : List Item) :
    reach request snapshot first progress (item :: rest) =
      if request.cancellation.isDue first progress.writes then 0
      else reach request snapshot (first + 1) (applyItem request snapshot item progress).2 rest + 1 := by
  have hrest : (fun index => request.cancellation.isDue (first + index)
      (progressAfter request snapshot progress ((item :: rest).take index)).writes) ∘ Nat.succ =
        fun index => request.cancellation.isDue (first + 1 + index)
          (progressAfter request snapshot (applyItem request snapshot item progress).2
            (rest.take index)).writes := by
    funext index
    have hindex : first + index.succ = first + 1 + index := by omega
    rw [Function.comp_apply, hindex]
    rfl
  unfold reach
  rw [List.length_cons, List.range_succ_eq_map, List.findIdx_cons, List.findIdx_map, hrest]
  show (bif request.cancellation.isDue first progress.writes then 0 else _) = _
  cases request.cancellation.isDue first progress.writes <;> rfl

theorem reach_le (first : Nat) (progress : Progress) (items : List Item) :
    reach request snapshot first progress items ≤ items.length := by
  calc reach request snapshot first progress items
    _ ≤ (List.range items.length).length := List.findIdx_le_length
    _ = items.length := List.length_range

theorem reach_never (hnever : request.cancellation = .never) (first : Nat) (progress : Progress)
    (items : List Item) : reach request snapshot first progress items = items.length := by
  induction items generalizing first progress with
  | nil => rfl
  | cons item rest ih =>
    rw [reach_cons, hnever, if_neg (by exact Bool.false_ne_true), ih, List.length_cons]

theorem reach_beforeRow {row : Nat} (hrow : request.cancellation = .beforeRow row) (first : Nat)
    (progress : Progress) (items : List Item) :
    reach request snapshot first progress items = min (row - first) items.length := by
  induction items generalizing first progress with
  | nil => exact (Nat.min_zero _).symm
  | cons item rest ih =>
    have hdue : (request.cancellation.isDue first progress.writes = true) = (row ≤ first) := by
      rw [hrow]
      exact decide_eq_true_eq
    rw [reach_cons, ih, List.length_cons]
    simp only [hdue]
    split <;> omega

theorem entriesOf_classified (progress : Progress) (items : List Item) :
    List.Forall₂ (Classified request snapshot) items (entriesOf request snapshot progress items) := by
  induction items generalizing progress with
  | nil => exact .nil
  | cons item rest ih => exact .cons (classified_applyItem item progress) (ih _)

/-- A run files the entries of the items that it reaches, and cancels the others. -/
theorem files_applyItems (request : ApplyRequest) (snapshot : Snapshot) (items : List Item)
    (index : Nat) (report : ApplyReport) (progress : Progress) :
    report.Files
        (entriesOf request snapshot progress
            (items.take (reach request snapshot index progress items)) ++
          (items.drop (reach request snapshot index progress items)).map cancelledEntry)
        (applyItems request snapshot index report progress items).1 ∧
      ((applyItems request snapshot index report progress items).1.cancelled = true ↔
        report.cancelled = true ∨ reach request snapshot index progress items < items.length) := by
  induction items generalizing index report progress with
  | nil => exact ⟨.nil report, by simp [applyItems]⟩
  | cons item rest ih =>
    rw [reach_cons]
    rw [applyItems_cons]
    split
    · -- Here the run stops: this item and all behind it are filed as cancelled.
      have hfold : (item :: rest).foldl (fun report item => report.add (cancelledEntry item))
          { report with cancelled := true } =
            ((item :: rest).map cancelledEntry).foldl ApplyReport.add
              { report with cancelled := true } := List.foldl_map.symm
      refine ⟨?_, iff_of_true (foldl_add_cancelled _ _).1 (.inr (Nat.succ_pos _))⟩
      dsimp only
      rw [hfold]
      exact (ApplyReport.Files.foldl_add _ _).of_buckets rfl rfl rfl rfl
    · obtain ⟨hfiles, hcancelled⟩ := ih (index + 1)
        (report.add (applyItem request snapshot item progress).1)
        (applyItem request snapshot item progress).2
      refine ⟨?_, ?_⟩
      · rw [List.take_succ_cons, List.drop_succ_cons]
        exact hfiles.cons
      · rw [hcancelled, cancelled_add, List.length_cons, Nat.add_lt_add_iff_right]

/-! ### Plugins -/

/-- The entry of a plugin, of a run that is cancelled or not. -/
structure AccountsPlugin (cancelled : Bool) (row : StoredPlugin) (entry : Entry) : Prop where
  subject_eq : entry.subject = .plugin
  key_eq : entry.key = ⟨row.plugin.type, row.plugin.name⟩
  cancelled_iff : entry.status = .cancelled ↔ cancelled = true

theorem accounts_applyPlugin (progress : Progress) (row : StoredPlugin) :
    AccountsPlugin false row (applyPlugin request progress row).1 := by
  unfold applyPlugin
  dsimp only
  split
  · exact ⟨rfl, rfl, iff_of_false (fun h => nomatch h) Bool.false_ne_true⟩
  · split
    · exact ⟨rfl, rfl, iff_of_false (fun h => nomatch h) Bool.false_ne_true⟩
    · split <;> exact ⟨rfl, rfl, iff_of_false (fun h => nomatch h) Bool.false_ne_true⟩

theorem accounts_applyPlugins (request : ApplyRequest) (rows : List StoredPlugin)
    (entries : List Entry) (progress : Progress) :
    ∃ more, (applyPlugins request entries progress rows).1 = entries ++ more ∧
      List.Forall₂ (AccountsPlugin false) rows more := by
  induction rows generalizing entries progress with
  | nil => exact ⟨[], (List.append_nil _).symm, .nil⟩
  | cons row rest ih =>
    obtain ⟨more, hmore, haccounts⟩ := ih (entries ++ [(applyPlugin request progress row).1])
      (applyPlugin request progress row).2
    refine ⟨(applyPlugin request progress row).1 :: more, ?_,
      .cons (accounts_applyPlugin progress row) haccounts⟩
    rw [← List.append_cons] at hmore
    exact hmore

/-! ### Whole runs -/

/-- How many items of a preset a run reaches. -/
def reached (request : ApplyRequest) (snapshot : Snapshot) (site : Site) (preset : Preset) : Nat :=
  reach request snapshot 0 { site } (preset.items.map StoredItem.item)

/-- How a report accounts for the items and plugins of a preset, with the entries of the items in their
order. -/
structure Accounts (request : ApplyRequest) (snapshot : Snapshot) (site : Site) (preset : Preset)
    (entries : List Entry) (report : ApplyReport) : Prop where
  /-- Each item has one entry, and there are no others. -/
  perm : (report.entries.map Entry.key).Perm (preset.items.map fun row => row.item.key)
  keys_eq : entries.map Entry.key = preset.items.map fun row => row.item.key
  /-- The entries are filed under their status, in the order of their items. -/
  applied_eq : report.applied = entries.filter fun entry => entry.status = .applied
  skipped_eq : report.skipped = entries.filter fun entry =>
    entry.status ∈ [Status.unchanged, .excluded, .cancelled]
  notApplicable_eq : report.notApplicable = entries.filter fun entry => entry.status = .notApplicable
  failed_eq : report.failed = entries.filter fun entry => entry.status = .failed
  /-- The items that the run reaches are classified. -/
  classified : List.Forall₂ (Classified request snapshot)
    ((preset.items.map StoredItem.item).take (reached request snapshot site preset))
    (entries.take (reached request snapshot site preset))
  /-- The others are cancelled. -/
  rest_eq : entries.drop (reached request snapshot site preset) =
    ((preset.items.map StoredItem.item).drop (reached request snapshot site preset)).map
      cancelledEntry
  cancelled_iff : report.cancelled = true ↔
    reached request snapshot site preset < preset.items.length
  never : request.cancellation = .never →
    reached request snapshot site preset = preset.items.length
  beforeRow : ∀ row, request.cancellation = .beforeRow row →
    reached request snapshot site preset = min row preset.items.length
  plugins : List.Forall₂ (AccountsPlugin report.cancelled) preset.plugins report.plugins

theorem Classified.status_mem {entry : Entry} (h : Classified request snapshot item entry) :
    entry.status ∈ [Status.applied, .unchanged, .excluded, .notApplicable, .failed] := by
  rcases judge_cases request snapshot item with
    ⟨hmem, hoverride, -⟩ | ⟨hkept, ⟨hnone, -⟩ | ⟨live, hlive, -⟩⟩
  · rw [h.excluded_iff.2 ⟨hmem, hoverride⟩]
    decide
  · rw [h.notApplicable_iff.2 ⟨hkept, hnone⟩]
    decide
  · cases hvalid : (live.withStored item.value item.attributes).isValid with
    | false =>
      rw [(h.invalid live hkept hlive hvalid).1]
      decide
    | true =>
      have hstatus := h.valid live hkept hlive hvalid
      simp only [List.mem_cons, List.not_mem_nil, or_false] at hstatus ⊢
      tauto

theorem isSkipped_iff {status : Status}
    (h : status ∈ [Status.applied, .unchanged, .excluded, .notApplicable, .failed, .cancelled]) :
    status.isSkipped = true ↔ status ∈ [Status.unchanged, .excluded, .cancelled] := by
  revert h
  cases status <;> decide

theorem keys_of_classified {items : List Item} {entries : List Entry}
    (h : List.Forall₂ (Classified request snapshot) items entries) :
    entries.map Entry.key = items.map Item.key := by
  induction h with
  | nil => rfl
  | cons hentry _ ih => rw [List.map_cons, List.map_cons, hentry.key_eq, ih]

theorem status_of_classified {items : List Item} {entries : List Entry} {entry : Entry}
    (h : List.Forall₂ (Classified request snapshot) items entries) (hentry : entry ∈ entries) :
    entry.status ∈ [Status.applied, .unchanged, .excluded, .notApplicable, .failed, .cancelled] := by
  induction h with
  | nil => cases hentry
  | cons hfirst _ ih =>
    rcases List.mem_cons.1 hentry with rfl | hentry
    · exact List.mem_append_left [Status.cancelled] hfirst.status_mem
    · exact ih hentry

/-- A run accounts for all items if its report is the one over the items with entries for the plugins. -/
theorem accounts_overItems (request : ApplyRequest) (snapshot : Snapshot) (site : Site)
    (preset : Preset) {plugins : List Entry}
    (hplugins : List.Forall₂ (AccountsPlugin (overItems request snapshot site preset).1.cancelled)
      preset.plugins plugins) :
    ∃ entries, Accounts request snapshot site preset entries
      { (overItems request snapshot site preset).1 with plugins } := by
  let items := preset.items.map StoredItem.item
  let stop := reached request snapshot site preset
  let before := entriesOf request snapshot { site } (items.take stop)
  let rest := (items.drop stop).map cancelledEntry
  obtain ⟨hfiles, hcancelled⟩ := files_applyItems request snapshot
    items 0 { presetId := preset.id, simulated := request.simulate } { site }
  have hclassified : List.Forall₂ (Classified request snapshot) (items.take stop) before :=
    entriesOf_classified _ _
  have hlength : before.length = stop := by
    rw [← hclassified.length_eq, List.length_take]
    exact Nat.min_eq_left (reach_le _ _ _)
  have hkeys : (before ++ rest).map Entry.key = preset.items.map fun row => row.item.key := by
    have hrest : rest.map Entry.key = (items.drop stop).map Item.key := List.map_map
    rw [List.map_append, keys_of_classified hclassified, hrest, ← List.map_append,
      List.take_append_drop]
    exact List.map_map
  have hstatus (entry : Entry) (hentry : entry ∈ before ++ rest) : entry.status ∈
      [Status.applied, .unchanged, .excluded, .notApplicable, .failed, .cancelled] := by
    rcases List.mem_append.1 hentry with hentry | hentry
    · exact status_of_classified hclassified hentry
    · obtain ⟨item, -, rfl⟩ := List.mem_map.1 hentry
      exact List.mem_append_right [Status.applied, .unchanged, .excluded, .notApplicable, .failed]
        List.mem_cons_self
  refine ⟨before ++ rest, ?_, hkeys, hfiles.applied, ?_, hfiles.notApplicable, hfiles.failed, ?_,
    ?_, ?_, ?_, ?_, hplugins⟩
  · rw [← hkeys]
    exact hfiles.perm.map Entry.key
  · refine hfiles.skipped.trans (List.filter_congr fun entry hentry => ?_)
    exact Bool.eq_iff_iff.2 ((isSkipped_iff (hstatus entry hentry)).trans decide_eq_true_iff.symm)
  · show List.Forall₂ _ (items.take stop) ((before ++ rest).take stop)
    rwa [← hlength, List.take_left, hlength]
  · show (before ++ rest).drop stop = rest
    rw [← hlength, List.drop_left]
  · refine hcancelled.trans ((or_iff_right Bool.false_ne_true).trans ?_)
    rw [List.length_map]
    rfl
  · intro hnever
    exact (reach_never hnever 0 { site } items).trans (List.length_map _)
  · intro row hrow
    show reach request snapshot 0 { site } items = _
    rw [reach_beforeRow hrow, Nat.sub_zero, List.length_map]

theorem accounts_run {site : Site} {preset : Preset} {report : ApplyReport}
    (hsnapshot : Snapshot.ofSite site = .ok snapshot)
    (hrun : run request site preset = .ok (report, progress)) :
    ∃ entries, Accounts request snapshot site preset entries report := by
  cases hcancelled : (overItems request snapshot site preset).1.cancelled with
  | true =>
    rw [run_of_cancelled hsnapshot hcancelled] at hrun
    rw [← (Prod.mk.inj (Except.ok.inj hrun)).1]
    refine accounts_overItems request snapshot site preset ?_
    rw [hcancelled, List.forall₂_map_right_iff, List.forall₂_same]
    exact fun row _ => ⟨rfl, rfl, iff_of_true rfl rfl⟩
  | false =>
    rw [run_of_not_cancelled hsnapshot hcancelled] at hrun
    rw [← (Prod.mk.inj (Except.ok.inj hrun)).1]
    refine accounts_overItems request snapshot site preset ?_
    obtain ⟨more, hmore, haccounts⟩ := accounts_applyPlugins request preset.plugins []
      (overItems request snapshot site preset).2
    rw [hcancelled, hmore, List.nil_append]
    exact haccounts

theorem Accounts.of_recorded {site : Site} {preset : Preset} {entries : List Entry}
    {report : ApplyReport} (h : Accounts request snapshot site preset entries report)
    (applicationId : Option Nat) :
    Accounts request snapshot site preset entries { report with applicationId } :=
  ⟨h.perm, h.keys_eq, h.applied_eq, h.skipped_eq, h.notApplicable_eq, h.failed_eq, h.classified,
    h.rest_eq, h.cancelled_iff, h.never, h.beforeRow, h.plugins⟩

end Apply

namespace Service

variable {service : Service} {presetId : Int} {request : ApplyRequest} {timeout : Option Int}
  {preset : Preset}

/-- An apply of a preset reports, unless the lock is taken or the site cannot be read. A preview needs no
more, and what a real one writes can be recorded if the user, the clock and the states of plugins fit their
columns. -/
theorem exists_report (hpreset : service.library.getPreset presetId = .ok preset)
    (hlock : service.locked = false)
    (hread : ∃ snapshot, Snapshot.ofSite service.site = .ok snapshot)
    (hfits : request.simulate = true ∨ request.user.all fitsColumn ∧ fitsColumn service.clock ∧
      (∀ row ∈ preset.plugins, fitsColumn row.enabled) ∧ preset.StatesFit service.site.store) :
    ∃ report after, service.apply presetId request timeout = (.ok report, after) := by
  cases hpreview : request.simulate with
  | true =>
    obtain ⟨snapshot, hsnapshot⟩ := hread
    obtain ⟨report, progress, hrun⟩ := Apply.exists_run hsnapshot request preset
    obtain rfl := Apply.progress_run hpreview hrun
    exact ⟨_, _, apply_of_idle hpreset hlock hrun⟩
  | false =>
    obtain ⟨huser, hclock, henabled, hstates⟩ := hfits.resolve_left (hpreview ▸ Bool.false_ne_true)
    exact exists_apply_of_fits hpreset hlock hpreview hread huser hclock henabled hstates timeout

/-- A report accounts for every item and every plugin of its preset, whatever the exclusions, previewed or
not, and wherever the run is cancelled. -/
theorem apply_accounts (request : ApplyRequest) (timeout : Option Int)
    (hpreset : service.library.getPreset presetId = .ok preset) :
    (∀ report after, service.apply presetId request timeout = (.ok report, after) →
      ∃ snapshot, Snapshot.ofSite service.site = .ok snapshot ∧
        ∃ entries, Apply.Accounts request snapshot service.site preset entries report) ∧
      (service.locked = false → (∃ snapshot, Snapshot.ofSite service.site = .ok snapshot) →
        request.simulate = true ∨ request.user.all fitsColumn ∧ fitsColumn service.clock ∧
            (∀ row ∈ preset.plugins, fitsColumn row.enabled) ∧ preset.StatesFit service.site.store →
          ∃ report after, service.apply presetId request timeout = (.ok report, after)) := by
  refine ⟨fun recorded after happly => ?_, exists_report hpreset⟩
  obtain ⟨found, report, progress, hfound, -, hrun, -, hrecord⟩ := run_of_apply happly
  obtain rfl := Except.ok.inj (hpreset.symm.trans hfound)
  obtain ⟨snapshot, hsnapshot, -⟩ := bind_eq_ok.1 hrun
  obtain ⟨entries, haccounts⟩ := Apply.accounts_run hsnapshot hrun
  refine ⟨snapshot, hsnapshot, entries, ?_⟩
  rcases record_eq_ok hrecord with ⟨rfl, -⟩ | ⟨application, -, -, rfl, -⟩
  · exact haccounts
  · exact haccounts.of_recorded _

end Service

namespace SmallSite

/-- A run that is cancelled before its second item, with the first one excluded. -/
theorem quiet_accounted :
    ∃ report after,
      service.apply 2 { exclusions := [notice], cancellation := .beforeRow 1 } none =
          (.ok report, after) ∧
        ∃ snapshot, Snapshot.ofSite service.site = .ok snapshot ∧
          ∃ entries, Apply.Accounts { exclusions := [notice], cancellation := .beforeRow 1 } snapshot
            service.site (preset 2 [⟨1, chat, 0⟩]) entries report := by
  have hread : ∃ snapshot, Snapshot.ofSite service.site = .ok snapshot :=
    Snapshot.exists_ofSite fun _ _ _ => Site.exists_read ⟨_, rfl⟩ fun _ _ => ⟨_, rfl⟩
  have hpreset : service.library.getPreset 2 = .ok (preset 2 [⟨1, chat, 0⟩]) := by decide
  obtain ⟨haccounts, hreports⟩ := Service.apply_accounts
    { exclusions := [notice], cancellation := .beforeRow 1 } none hpreset
  obtain ⟨report, after, happly⟩ := hreports rfl hread
    (.inr ⟨by decide, by decide, by decide, preset_statesFit⟩)
  exact ⟨report, after, happly, haccounts report after happly⟩

end SmallSite

end SitePresets
