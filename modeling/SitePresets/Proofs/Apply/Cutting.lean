import SitePresets.Proofs.Apply.Accounting

/-!
# Cancelled runs

A run that is cancelled after some of its items does what the uncancelled run over those items alone does:
the two write the same, are recorded alike and file the same entries. The cancelled one then lists what it
has not come to.
-/

namespace SitePresets

def ApplyRequest.uncancelled (request : ApplyRequest) : ApplyRequest :=
  { request with cancellation := .never }

namespace ApplyReport

/-- A report that goes on with items as cancelled. -/
def cancelItems (report : ApplyReport) (items : List Item) : ApplyReport :=
  { report with
    cancelled := true
    skipped := report.skipped ++ items.map Apply.cancelledEntry }

/-- The report of a run that is cancelled before some items, and so before all plugins. -/
def cutShort (report : ApplyReport) (items : List StoredItem) (plugins : List StoredPlugin) :
    ApplyReport :=
  { report.cancelItems (items.map StoredItem.item) with
    plugins := plugins.map fun row =>
      { Apply.pluginEntry row.plugin .cancelled with reason := some Reason.cancelled } }

theorem foldl_add_cancelledEntry (report : ApplyReport) (items : List Item) :
    items.foldl (fun report item => report.add (Apply.cancelledEntry item))
        { report with cancelled := true } = report.cancelItems items := by
  induction items generalizing report with
  | nil =>
    unfold cancelItems
    rw [List.map_nil, List.append_nil, List.foldl_nil]
  | cons item rest ih =>
    have hadd : ({ report with cancelled := true } : ApplyReport).add (Apply.cancelledEntry item) =
        { { report with skipped := report.skipped ++ [Apply.cancelledEntry item] } with
          cancelled := true } := rfl
    rw [List.foldl_cons, hadd, ih]
    simp only [cancelItems, List.map_cons, List.append_assoc, List.singleton_append]

end ApplyReport

/-! ### Cut presets -/

/-- A preset that ends with the first of its items and has no plugins. -/
def Preset.cut (preset : Preset) (count : Nat) : Preset :=
  { preset with items := preset.items.take count, plugins := [] }

namespace Library

variable {library : Library} {preset : Preset}

/-- The library in which the preset with a number is cut. -/
def cutPreset (library : Library) (id count : Nat) : Library :=
  { library with
    presets := library.presets.map fun preset => if preset.id = id then preset.cut count else preset }

theorem getPreset_cutPreset {presetId : Int} (h : library.getPreset presetId = .ok preset)
    (count : Nat) :
    (library.cutPreset preset.id count).getPreset presetId = .ok (preset.cut count) := by
  obtain ⟨hfits, hfound⟩ := preset_of_getPreset h
  refine getPreset_of_preset hfits ?_
  have hid (other : Preset) :
      (if other.id = preset.id then other.cut count else other).id = other.id := by
    split <;> rfl
  unfold preset? at hfound ⊢
  unfold cutPreset
  rw [List.find?_map]
  simp only [Function.comp_def, hid]
  rw [hfound, Option.map_some, if_pos rfl]

theorem replacePreset_cutPreset (library : Library) (preset : Preset) (count : Nat) (now : Int) :
    (library.cutPreset preset.id count).replacePreset { preset.cut count with timeApplied := now } =
      (library.replacePreset { preset with timeApplied := now }).cutPreset preset.id count := by
  unfold replacePreset cutPreset
  rw [Library.mk.injEq, List.map_map, List.map_map]
  refine ⟨List.map_congr_left fun other _ => ?_, rfl⟩
  rw [Function.comp_apply, Function.comp_apply]
  by_cases hid : other.id = preset.id
  · have hcut : (other.cut count).id = (preset.cut count).id := hid
    rw [if_pos hid, if_pos hid, if_pos hcut, if_pos rfl]
    rfl
  · have hcut : other.id ≠ (preset.cut count).id := hid
    rw [if_neg hid, if_neg hid, if_neg hcut, if_neg hid]

theorem recordApplication_cutPreset (library : Library) (preset : Preset) (count : Nat) (now : Int)
    (user : Option Int) (rows : List LedgerRow) :
    (library.cutPreset preset.id count).recordApplication now (preset.cut count) user rows =
      (library.recordApplication now preset user rows).map fun recorded =>
        (recorded.1, recorded.2.cutPreset preset.id count) := by
  unfold recordApplication
  cases checkNumbers (now :: user.toList) with
  | error error => rfl
  | ok result =>
    rw [ok_bind, ok_bind, replacePreset_cutPreset]
    cases checkNumbers (rows.flatMap LedgerRow.numbers) with
    | error error => rfl
    | ok result => rfl

end Library

/-! ### Cut runs -/

namespace Apply

variable {request : ApplyRequest} {snapshot : Snapshot}

theorem writeFacets_uncancelled (live : Descriptor) (facets : List (Facet × Bool)) (entry : Entry)
    (progress : Progress) :
    writeFacets request.uncancelled live entry progress facets =
      writeFacets request live entry progress facets := by
  induction facets generalizing entry progress with
  | nil => rfl
  | cons row rest ih =>
    unfold writeFacets
    simp only [ih]
    rfl

/-- Cancelling has no say in what becomes of an item that a run has reached. -/
theorem applyItem_uncancelled (item : Item) (progress : Progress) :
    applyItem request.uncancelled snapshot item progress =
      applyItem request snapshot item progress := by
  have hjudge : judge request.uncancelled snapshot item = judge request snapshot item := rfl
  unfold applyItem writeWanted
  simp only [hjudge, writeFacets_uncancelled]
  rfl

/-- A run that stops before its end is the uncancelled run up to there, with the rest cancelled. -/
theorem applyItems_eq_cancelItems (items : List Item) (index : Nat) (report : ApplyReport)
    (progress : Progress) (hstop : reach request snapshot index progress items < items.length) :
    applyItems request snapshot index report progress items =
      ((applyItems request.uncancelled snapshot index report progress
            (items.take (reach request snapshot index progress items))).1.cancelItems
          (items.drop (reach request snapshot index progress items)),
        (applyItems request.uncancelled snapshot index report progress
          (items.take (reach request snapshot index progress items))).2) := by
  induction items generalizing index report progress with
  | nil => exact absurd hstop (Nat.not_lt_zero _)
  | cons item rest ih =>
    rw [reach_cons] at hstop ⊢
    by_cases hdue : request.cancellation.isDue index progress.writes = true
    · rw [applyItems, if_pos hdue, if_pos hdue, ApplyReport.foldl_add_cancelledEntry]
      rfl
    · have hgo : ¬ request.uncancelled.cancellation.isDue index progress.writes = true :=
        Bool.false_ne_true
      rw [if_neg hdue, List.length_cons, Nat.add_lt_add_iff_right] at hstop
      rw [applyItems, if_neg hdue, if_neg hdue, List.take_succ_cons, List.drop_succ_cons, applyItems,
        if_neg hgo, applyItem_uncancelled]
      exact ih _ _ _ hstop

/-- A run that is cancelled after some items writes what the run of the cut preset writes. -/
theorem run_eq_cutShort {site : Site} {preset : Preset} {count : Nat}
    (hcount : count < preset.items.length)
    (hreached : ∀ snapshot, Snapshot.ofSite site = .ok snapshot →
      reached request snapshot site preset = count) :
    run request site preset =
      (run request.uncancelled site (preset.cut count)).map fun result =>
        (result.1.cutShort (preset.items.drop count) preset.plugins, result.2) := by
  cases hsnapshot : Snapshot.ofSite site with
  | error refusal =>
    unfold run
    rw [hsnapshot]
    rfl
  | ok snapshot =>
    have hreach : reach request snapshot 0 { site } (preset.items.map StoredItem.item) = count :=
      hreached snapshot hsnapshot
    have hitems := applyItems_eq_cancelItems (preset.items.map StoredItem.item) 0
      { presetId := preset.id, simulated := request.simulate } { site }
      (by rw [hreach, List.length_map]; exact hcount)
    rw [hreach, ← List.map_take, ← List.map_drop] at hitems
    have hover : overItems request snapshot site preset =
        ((overItems request.uncancelled snapshot site (preset.cut count)).1.cancelItems
            ((preset.items.drop count).map StoredItem.item),
          (overItems request.uncancelled snapshot site (preset.cut count)).2) := hitems
    have hwhole : (overItems request snapshot site preset).1.cancelled = true := by
      rw [hover]
      rfl
    have hcut : (overItems request.uncancelled snapshot site (preset.cut count)).1.cancelled = false :=
      cancelled_of_never rfl _ _ _ _
    rw [run_of_cancelled hsnapshot hwhole, run_of_not_cancelled hsnapshot hcut, hover]
    rfl

/-- A barred run makes the same of the items that it reaches before it is cancelled. -/
theorem applyItems_false_take (items : List Item) (index : Nat) (report : ApplyReport)
    (progress : Progress) :
    (applyItems request.uncancelled snapshot index report progress
        (items.take (reach request snapshot index progress items)) false).2 =
      (applyItems request snapshot index report progress items false).2 := by
  induction items generalizing index report progress with
  | nil => rfl
  | cons item rest ih =>
    by_cases hrows : progress.rows = []
    · rw [reach_cons, applyItems_false_cons hrows]
      by_cases hdue : request.cancellation.isDue index progress.writes = true
      · rw [if_pos hdue, if_pos hdue, applyItems_cons, if_pos hdue]
        rfl
      · have hgo : ¬ request.uncancelled.cancellation.isDue index progress.writes = true :=
          Bool.false_ne_true
        rw [if_neg hdue, if_neg hdue, List.take_succ_cons, applyItems_false_cons hrows, if_neg hgo,
          applyItem_uncancelled]
        exact ih _ _ _
    · rw [applyItems_of_barred hrows, applyItems_of_barred hrows]

/-- If there is no application for its rows, a run that is cancelled after some items is barred where the
run of the cut preset is. -/
theorem run_false_eq_cutShort {site : Site} {preset : Preset} {count : Nat} {report : ApplyReport}
    {progress : Progress} (hreached : ∀ snapshot, Snapshot.ofSite site = .ok snapshot →
      reached request snapshot site preset = count)
    (hrun : run request.uncancelled site (preset.cut count) = .ok (report, progress))
    (hrows : progress.rows ≠ []) :
    ∃ other short barred, run request site preset false = .ok (other, barred) ∧
      run request.uncancelled site (preset.cut count) false = .ok (short, barred) ∧
        barred.rows ≠ [] := by
  obtain ⟨snapshot, hsnapshot, -⟩ := bind_eq_ok.1 hrun
  have hsame : (overItems request.uncancelled snapshot site (preset.cut count) false).2 =
      (overItems request snapshot site preset false).2 := by
    have htake := @applyItems_false_take request snapshot (preset.items.map StoredItem.item) 0
      { presetId := preset.id, simulated := request.simulate } { site }
    have hreach : reach request snapshot 0 { site } (preset.items.map StoredItem.item) = count :=
      hreached snapshot hsnapshot
    rw [hreach, ← List.map_take] at htake
    exact htake
  have hcancelled : (overItems request.uncancelled snapshot site (preset.cut count)).1.cancelled =
      false := cancelled_of_never rfl _ _ _ _
  rw [run_of_not_cancelled hsnapshot hcancelled] at hrun
  obtain ⟨-, rfl⟩ := Prod.mk.inj (Except.ok.inj hrun)
  have hbarred : (overItems request.uncancelled snapshot site (preset.cut count) false).2.rows ≠ [] :=
    (overItems_false request.uncancelled snapshot site (preset.cut count)).elim
      (fun hnil => absurd hnil.1 hrows) fun hbegins => hbegins.2.1
  obtain ⟨short, hshort⟩ := run_of_barred hsnapshot hbarred
  obtain ⟨other, hother⟩ := run_of_barred hsnapshot (hsame ▸ hbarred)
  exact ⟨other, short, _, hother, hsame ▸ hshort, hsame ▸ hbarred⟩

/-- A run that is cancelled before a row reaches the rows before it. -/
theorem reached_of_beforeRow {site : Site} {preset : Preset} {row : Nat}
    (hrow : request.cancellation = .beforeRow row) (hlength : row < preset.items.length) :
    reached request snapshot site preset = row := by
  calc reached request snapshot site preset
    _ = min (row - 0) (preset.items.map StoredItem.item).length := reach_beforeRow hrow 0 _ _
    _ = min row preset.items.length := by rw [Nat.sub_zero, List.length_map]
    _ = row := Nat.min_eq_left (Nat.le_of_lt hlength)

end Apply

namespace Service

variable {service : Service} {presetId : Int} {preset : Preset}

/-- The service in whose library the preset with a number is cut. -/
def cutPreset (service : Service) (id count : Nat) : Service :=
  service.withLibrary (service.library.cutPreset id count)

/-- How a run is recorded does not depend on what its preset holds. -/
theorem record_cutPreset (service : Service) (preset : Preset) (count : Nat) (user : Option Int)
    (report : ApplyReport) (progress : Progress) (items : List StoredItem)
    (plugins : List StoredPlugin) :
    (service.record preset user (report.cutShort items plugins) progress).1 =
        ((service.cutPreset preset.id count).record (preset.cut count) user report progress).1.map
          (·.cutShort items plugins) ∧
      ((service.cutPreset preset.id count).record (preset.cut count) user report progress).2 =
        (service.record preset user (report.cutShort items plugins) progress).2.cutPreset
          preset.id count := by
  have hrecord : (service.cutPreset preset.id count).library.recordApplication
      (service.cutPreset preset.id count).clock (preset.cut count) user progress.rows =
        (service.library.recordApplication service.clock preset user progress.rows).map
          fun recorded => (recorded.1, recorded.2.cutPreset preset.id count) :=
    Library.recordApplication_cutPreset _ _ _ _ _ _
  unfold record
  dsimp only
  rw [hrecord]
  by_cases hrows : progress.rows.isEmpty = true
  · rw [if_pos hrows, if_pos hrows]
    exact ⟨rfl, rfl⟩
  · rw [if_neg hrows, if_neg hrows]
    cases service.library.recordApplication service.clock preset user progress.rows with
    | error error => exact ⟨rfl, rfl⟩
    | ok recorded => exact ⟨rfl, rfl⟩

/-- An apply that is cancelled after some of the items, and before the others, is an apply of the preset cut
to those items that is not cancelled. It leaves the same site and the same applications, and it reports the
same entries; it only adds that the other items and the plugins are cancelled. -/
theorem apply_of_cancelled (request : ApplyRequest) (timeout : Option Int) {count : Nat}
    (hpreset : service.library.getPreset presetId = .ok preset) (hcount : count < preset.items.length)
    (hreached : ∀ snapshot, Snapshot.ofSite service.site = .ok snapshot →
      Apply.reached request snapshot service.site preset = count) :
    let whole := service.apply presetId request timeout
    let short := (service.cutPreset preset.id count).apply presetId request.uncancelled timeout
    whole.1 = short.1.map (·.cutShort (preset.items.drop count) preset.plugins) ∧
      short.2 = whole.2.cutPreset preset.id count ∧
        short.2.site = whole.2.site ∧
          short.2.library.applications = whole.2.library.applications := by
  have hcut : (service.cutPreset preset.id count).library.getPreset presetId =
      .ok (preset.cut count) := Library.getPreset_cutPreset hpreset count
  have hlock : (service.cutPreset preset.id count).checkLock timeout = service.checkLock timeout := rfl
  have hrun := Apply.run_eq_cutShort hcount hreached
  have hboth : (service.apply presetId request timeout).1 =
        ((service.cutPreset preset.id count).apply presetId request.uncancelled timeout).1.map
          (·.cutShort (preset.items.drop count) preset.plugins) ∧
      ((service.cutPreset preset.id count).apply presetId request.uncancelled timeout).2 =
        (service.apply presetId request timeout).2.cutPreset preset.id count := by
    cases hfree : service.checkLock timeout with
    | error error =>
      unfold apply
      rw [hpreset, hcut, hlock, hfree]
      exact ⟨rfl, rfl⟩
    | ok result =>
      have hfree := checkLock_eq_ok.1 hfree
      cases hshort : Apply.run request.uncancelled service.site (preset.cut count) with
      | error refusal =>
        rw [hshort] at hrun
        rw [apply_of_run_eq_error hpreset hfree hrun, apply_of_run_eq_error hcut hfree hshort]
        exact ⟨rfl, rfl⟩
      | ok result =>
        obtain ⟨report, progress⟩ := result
        rw [hshort] at hrun
        rcases service.canRecord_or_barred request.user progress.rows with
          hrecord | ⟨hrows, hrecord⟩
        · rw [apply_of_run hpreset hfree hrun hrecord, apply_of_run hcut hfree hshort hrecord]
          exact record_cutPreset service preset count request.user report progress _ _
        · obtain ⟨other, short, barred, hother, hshort, hbarred⟩ :=
            Apply.run_false_eq_cutShort hreached hshort hrows
          rw [apply_of_barred hpreset hfree hrecord hother hbarred,
            @apply_of_barred (service.cutPreset preset.id count) presetId request.uncancelled timeout
              _ _ _ hcut hfree hrecord hshort hbarred]
          exact ⟨rfl, rfl⟩
  refine ⟨hboth.1, hboth.2, ?_, ?_⟩
  · rw [hboth.2]
    rfl
  · rw [hboth.2]
    rfl

end Service

namespace SmallSite

/-- A run that is cancelled after its first item, and so does not come to the second one and the plugin. -/
theorem quiet_cut :
    let whole := service.apply 2 { cancellation := .beforeRow 1 } none
    let short := (service.cutPreset 2 1).apply 2 {} none
    whole.1 = short.1.map
        (·.cutShort ((preset 2 [⟨1, chat, 0⟩]).items.drop 1) [⟨1, chat, 0⟩]) ∧
      short.2 = whole.2.cutPreset 2 1 ∧ short.2.site = whole.2.site ∧
        short.2.library.applications = whole.2.library.applications :=
  Service.apply_of_cancelled { cancellation := .beforeRow 1 } none
    (by decide : service.library.getPreset 2 = .ok (preset 2 [⟨1, chat, 0⟩])) (by decide)
    fun _ _ => Apply.reached_of_beforeRow rfl (by decide)

end SmallSite

end SitePresets
