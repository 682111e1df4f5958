import SitePresets.Proofs.Apply.Cutting

/-!
# Where a run stops

The event that cancels a run is looked at before each item and nowhere else. A run that comes to an item
with its event set writes nothing from there on, neither for items nor for plugins, and reports that item
and all behind it as cancelled. The item before may have been under way when the event was set; it has
been finished with its facets.
-/

namespace SitePresets

namespace Apply

variable {request : ApplyRequest} {snapshot : Snapshot}

/-- What a run over items has made when it comes to one of them. -/
def comesTo (request : ApplyRequest) (snapshot : Snapshot) (site : Site) (preset : Preset)
    (index : Nat) : Progress :=
  (overItems request snapshot site (preset.cut index)).2

/-- An item at which a run finds its event set is not reached. -/
theorem reach_le_of_due (items : List Item) (first index : Nat) (report : ApplyReport)
    (progress : Progress) (hindex : index < items.length)
    (hdue : request.cancellation.isDue (first + index)
      (applyItems request snapshot first report progress (items.take index)).2.writes) :
    reach request snapshot first progress items ≤ index := by
  induction items generalizing first index report progress with
  | nil => exact absurd hindex (Nat.not_lt_zero _)
  | cons item rest ih =>
    rw [reach_cons]
    split
    · exact Nat.zero_le _
    · rename_i hgo
      cases index with
      | zero => exact absurd hdue hgo
      | succ index =>
        rw [List.take_succ_cons, applyItems_cons, if_neg hgo] at hdue
        have hfirst : first + (index + 1) = first + 1 + index := by omega
        rw [hfirst] at hdue
        exact Nat.succ_le_succ (ih _ index _ _ (Nat.lt_of_succ_lt_succ hindex) hdue)

/-- From where it stops on a run is at its end. -/
theorem progress_take (items : List Item) (first index : Nat) (report : ApplyReport)
    (progress : Progress) (hreach : reach request snapshot first progress items ≤ index) :
    (applyItems request snapshot first report progress (items.take index)).2 =
      (applyItems request snapshot first report progress items).2 := by
  induction items generalizing first index report progress with
  | nil => rw [List.take_nil]
  | cons item rest ih =>
    rw [reach_cons] at hreach
    split at hreach
    · rename_i hdue
      rw [applyItems_cons, if_pos hdue]
      cases index with
      | zero => rfl
      | succ index => rw [List.take_succ_cons, applyItems_cons, if_pos hdue]
    · rename_i hgo
      cases index with
      | zero => exact absurd hreach (Nat.not_succ_le_zero _)
      | succ index =>
        rw [List.take_succ_cons, applyItems_cons, applyItems_cons, if_neg hgo, if_neg hgo]
        exact ih (first + 1) index _ _ (Nat.le_of_succ_le_succ hreach)

variable {site : Site} {preset : Preset} {index : Nat}

theorem reached_le_of_due (hindex : index < preset.items.length)
    (hdue : request.cancellation.isDue index (comesTo request snapshot site preset index).writes) :
    reached request snapshot site preset ≤ index := by
  refine reach_le_of_due (preset.items.map StoredItem.item) 0 index
    { presetId := preset.id, simulated := request.simulate } { site } ?_ ?_
  · rw [List.length_map]
    exact hindex
  · rw [Nat.zero_add, ← List.map_take]
    exact hdue

theorem comesTo_eq (h : reached request snapshot site preset ≤ index) :
    comesTo request snapshot site preset index = (overItems request snapshot site preset).2 := by
  refine Eq.trans ?_ (progress_take (preset.items.map StoredItem.item) 0 index
    { presetId := preset.id, simulated := request.simulate } { site } h)
  rw [← List.map_take]
  rfl

/-- The run that comes to an item is that of the preset cut there. -/
theorem run_cut (hsnapshot : Snapshot.ofSite site = .ok snapshot) :
    ∃ report, run request site (preset.cut index) =
      .ok (report, comesTo request snapshot site preset index) := by
  cases hcancelled : (overItems request snapshot site (preset.cut index)).1.cancelled with
  | true => exact ⟨_, run_of_cancelled hsnapshot hcancelled⟩
  | false => exact ⟨_, run_of_not_cancelled hsnapshot hcancelled⟩

/-- A barred run has stopped before an item at which it would find its event set, or there. -/
theorem exists_comesTo_of_barred (request : ApplyRequest) (snapshot : Snapshot) (site : Site)
    (preset : Preset) (h : reached request snapshot site preset ≤ index) :
    ∃ last ≤ index, (overItems request snapshot site preset false).2 =
      comesTo request snapshot site preset last := by
  rcases overItems_false request snapshot site preset with ⟨-, hover⟩ | ⟨-, -, items, hitems, hover⟩
  · exact ⟨index, Nat.le_refl _, by rw [hover, comesTo_eq h]⟩
  · have hlast : (overItems request snapshot site preset false).2 =
        comesTo request snapshot site preset items.length := by
      rw [hover, List.prefix_iff_eq_take.1 hitems]
      unfold comesTo Preset.cut
      rw [List.length_take, Nat.min_eq_left hitems.length_le]
    rcases Nat.le_total items.length index with hle | hle
    · exact ⟨items.length, hle, hlast⟩
    · exact ⟨index, Nat.le_refl _, by rw [hlast, comesTo_eq h, comesTo_eq (Nat.le_trans h hle)]⟩

/-- What the report of a run says that comes to an item with its event set. -/
structure ReportsStop (preset : Preset) (index : Nat) (report : ApplyReport) : Prop where
  cancelled : report.cancelled = true
  /-- The item and all behind it are cancelled. -/
  items : (preset.items.drop index).map (fun row => cancelledEntry row.item) <:+ report.skipped
  /-- So are all plugins. -/
  plugins_eq : report.plugins = preset.plugins.map fun row =>
    { pluginEntry row.plugin .cancelled with reason := some Reason.cancelled }

/-- The run over a preset that finds its event set at an item. -/
theorem run_of_due (hsnapshot : Snapshot.ofSite site = .ok snapshot)
    (hindex : index < preset.items.length)
    (hdue : request.cancellation.isDue index (comesTo request snapshot site preset index).writes) :
    ∃ report, run request site preset = .ok (report, comesTo request snapshot site preset index) ∧
      ReportsStop preset index report ∧ report.applicationId = none := by
  have hreached := reached_le_of_due hindex hdue
  have hstop : reached request snapshot site preset <
      (preset.items.map StoredItem.item).length := by
    rw [List.length_map]
    exact Nat.lt_of_le_of_lt hreached hindex
  have hover : overItems request snapshot site preset = _ :=
    applyItems_eq_cancelItems (preset.items.map StoredItem.item) 0 _ _ hstop
  have hcancelled : (overItems request snapshot site preset).1.cancelled = true := by
    rw [hover]
    rfl
  have hrun := run_of_cancelled hsnapshot hcancelled
  rw [← comesTo_eq hreached] at hrun
  refine ⟨_, hrun, ⟨hcancelled, ?_, rfl⟩, applicationId_applyItems _ _ _ _⟩
  rw [hover]
  refine List.IsSuffix.trans ?_ (List.suffix_append _ _)
  rw [← List.map_drop, List.map_map]
  exact (List.drop_suffix_drop_left _ hreached).map _

end Apply

namespace Service

variable {service : Service} {presetId : Int} {request : ApplyRequest} {snapshot : Snapshot}
  {preset : Preset} {index : Nat}

/-- What an apply comes to that finds its event set at an item. -/
structure StopsAt (service : Service) (presetId : Int) (preset : Preset) (request : ApplyRequest)
    (timeout : Option Int) (snapshot : Snapshot) (index : Nat) : Prop where
  /-- However far the run goes on, it makes nothing more. -/
  comesTo_eq : ∀ later, index ≤ later → Apply.comesTo request snapshot service.site preset later =
    Apply.comesTo request snapshot service.site preset index
  /-- The apply leaves the site that the run had made there, or before if it was barred. -/
  site_eq : ∃ last ≤ index, (service.apply presetId request timeout).2.site =
      (Apply.comesTo request snapshot service.site preset last).site ∧
    (Library.canRecord service.clock request.user = true → last = index)
  reports : ∀ report after, service.apply presetId request timeout = (.ok report, after) →
    Apply.ReportsStop preset index report
  exists_report : request.simulate = true ∨ request.user.all fitsColumn ∧ fitsColumn service.clock →
    ∃ report after, service.apply presetId request timeout = (.ok report, after)
  /-- Cancelled from the start, it changes nothing and makes no application. -/
  idle : index = 0 → ∃ report, report.applicationId = none ∧
    service.apply presetId request timeout = (.ok report, service)

/-- Nothing is written from where an apply comes to an item with its event set. -/
theorem apply_stops (timeout : Option Int)
    (hpreset : service.library.getPreset presetId = .ok preset) (hlock : service.locked = false)
    (hsnapshot : Snapshot.ofSite service.site = .ok snapshot) (hindex : index < preset.items.length)
    (hdue : request.cancellation.isDue index
      (Apply.comesTo request snapshot service.site preset index).writes) :
    StopsAt service presetId preset request timeout snapshot index := by
  have hreached := Apply.reached_le_of_due hindex hdue
  obtain ⟨report, hrun, hreports, hid⟩ := Apply.run_of_due hsnapshot hindex hdue
  refine ⟨fun later hlater => ?_, ?_, ?_, ?_, ?_⟩
  · rw [Apply.comesTo_eq hreached, Apply.comesTo_eq (Nat.le_trans hreached hlater)]
  · rcases service.canRecord_or_barred request.user
        (Apply.comesTo request snapshot service.site preset index).rows with
      hrecord | ⟨hrows, hrecord⟩
    · refine ⟨index, Nat.le_refl _, ?_, fun _ => rfl⟩
      rw [apply_of_run hpreset hlock hrun hrecord, site_record]
    · obtain ⟨last, hlast, hsame⟩ :=
        Apply.exists_comesTo_of_barred request snapshot service.site preset hreached
      have hbarred : (Apply.overItems request snapshot service.site preset false).2.rows ≠ [] :=
        (Apply.overItems_false request snapshot service.site preset).elim
          (fun hnil => absurd (Apply.comesTo_eq hreached ▸ hnil.1) hrows) fun hbegins => hbegins.2.1
      obtain ⟨other, hother⟩ := Apply.run_of_barred hsnapshot hbarred
      refine ⟨last, hlast, ?_, fun hcan => absurd (hrecord.symm.trans hcan) nofun⟩
      rw [apply_of_barred hpreset hlock hrecord hother hbarred, ← hsame]
  · intro recorded after hrecorded
    obtain ⟨found, ran, progress, hfound, -, hran, -, hrecorded⟩ := run_of_apply hrecorded
    obtain rfl := Except.ok.inj (hfound.symm.trans hpreset)
    obtain ⟨rfl, rfl⟩ := Prod.mk.inj (Except.ok.inj (hran.symm.trans hrun))
    rcases record_eq_ok hrecorded with ⟨rfl, -⟩ | ⟨application, -, -, rfl, -⟩
    · exact hreports
    · exact ⟨hreports.cancelled, hreports.items, hreports.plugins_eq⟩
  · intro hfits
    cases hpreview : request.simulate with
    | true =>
      rw [Apply.progress_run hpreview hrun] at hrun
      exact ⟨_, _, apply_of_idle hpreset hlock hrun⟩
    | false =>
      have hrecord := Library.canRecord_iff.2 (hfits.resolve_left (by simp [hpreview])).symm
      obtain ⟨_, hcut⟩ := @Apply.run_cut request snapshot service.site preset index hsnapshot
      rw [apply_of_run hpreset hlock hrun fun _ => hrecord]
      by_cases hnil : (Apply.comesTo request snapshot service.site preset index).rows = []
      · exact ⟨_, _, record_of_nil hnil⟩
      · obtain ⟨application, library, -, hrecorded⟩ := record_of_ne_nil preset report hnil hrecord
          (Apply.fits_of_run_items hpreview hcut rfl)
        exact ⟨_, _, hrecorded⟩
  · rintro rfl
    exact ⟨report, hid, apply_of_idle hpreset hlock hrun⟩

end Service

namespace SmallSite

/-- The event is set by the first write, so the run comes to its second item with the event set. -/
theorem quiet_stops :
    ∃ snapshot, Snapshot.ofSite service.site = .ok snapshot ∧
      Service.StopsAt service 2 (preset 2 [⟨1, chat, 0⟩]) { cancellation := .afterWrites 1 } none
        snapshot 1 :=
  ⟨_, rfl, Service.apply_stops none (by decide) rfl rfl (by decide) rfl⟩

/-- A preset that only disables a plugin. -/
def pluginService : Service :=
  { service with library := { presets := [{ preset 1 [⟨1, chat, 0⟩] with items := [] }] } }

/-- An item that is under way when the event is set is finished: the event is set by the second of three
writes. Plugins are set without another look at the event: without items it was never looked at. -/
theorem goes_on_cancelled :
    (∃ report after, service.apply 1 { cancellation := .afterWrites 2 } none = (.ok report, after) ∧
      report.cancelled = false ∧ after.site.store.nextChangeId = service.site.store.nextChangeId + 3 ∧
      after.site.store.get ⟨siteScope, "comments_adv"⟩ ≠
        service.site.store.get ⟨siteScope, "comments_adv"⟩) ∧
    ∃ report after, pluginService.apply 1 { cancellation := .afterWrites 0 } none =
        (.ok report, after) ∧
      report.cancelled = false ∧ report.applicationId = some 1 ∧
      after.site.store.plugin? chat ≠ pluginService.site.store.plugin? chat := by
  refine ⟨⟨_, _, rfl, rfl, rfl, ?_⟩, ⟨_, _, rfl, rfl, rfl, ?_⟩⟩
  all_goals decide

end SmallSite

end SitePresets
