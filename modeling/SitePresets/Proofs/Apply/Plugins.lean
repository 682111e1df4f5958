import SitePresets.Proofs.Apply.Run
import SitePresets.Proofs.Store.Plugins

/-!
# A run over plugins

After the items a run sets plugins. It leaves values and the log alone, and records each plugin that
it sets with the state before.
-/

namespace SitePresets

def Store.StatesFit (store : Store) : Prop :=
  ∀ plugin enabled, store.plugin? plugin = some enabled → store.holds enabled

theorem Site.statesFit_of_setPlugin {site after : Site} {plugin : Plugin} {enabled old : Int}
    (h : site.setPlugin plugin enabled = .ok (old, after)) (hfit : site.store.StatesFit) :
    after.store.StatesFit := by
  intro other current hcurrent
  obtain ⟨-, -, hholds, -⟩ := setPlugin_eq_ok.1 h
  rw [plugin_of_setPlugin h] at hcurrent
  rw [(switches_of_setPlugin h).values.holds_eq]
  split at hcurrent
  · exact Option.some.inj hcurrent ▸ hholds
  · exact hfit other current hcurrent

namespace Progress

/-- How a run gets from one state to another by setting plugins. -/
structure Switched (before : Progress) (rows : List LedgerRow) (after : Progress) : Prop where
  switches : before.site.Switches after.site
  rows_eq : after.rows = before.rows ++ rows
  plugin : ∀ row ∈ rows, ∃ plugin value old, row = .plugin plugin value old ∧
    (before.site.store.StatesFit → before.site.store.holds old)
  fit : before.site.store.StatesFit → after.site.store.StatesFit

variable {before middle after : Progress} {rows more : List LedgerRow}

theorem Switched.refl (before : Progress) : before.Switched [] before where
  switches := .refl _
  rows_eq := (List.append_nil _).symm
  plugin := fun _ h => nomatch h
  fit := id

theorem Switched.append (h : before.Switched rows middle) (h' : middle.Switched more after) :
    before.Switched (rows ++ more) after where
  switches := h.switches.trans h'.switches
  rows_eq := by rw [h'.rows_eq, h.rows_eq, List.append_assoc]
  plugin row hrow := by
    rcases List.mem_append.1 hrow with hrow | hrow
    · exact h.plugin row hrow
    · obtain ⟨plugin, value, old, heq, hold⟩ := h'.plugin row hrow
      refine ⟨plugin, value, old, heq, fun hfit => ?_⟩
      rw [← h.switches.values.holds_eq]
      exact hold (h.fit hfit)
  fit hfit := h'.fit (h.fit hfit)

theorem switched_of_setPlugin {plugin : Plugin} {enabled : Int}
    (h : before.setPlugin false plugin enabled = .ok after) :
    ∃ rows, before.Switched rows after := by
  obtain ⟨⟨old, site⟩, hset, h⟩ := bind_eq_ok.1 h
  obtain rfl := Except.ok.inj h
  refine ⟨[.plugin plugin enabled old], Site.switches_of_setPlugin hset, rfl, fun row hrow => ?_,
    Site.statesFit_of_setPlugin hset⟩
  obtain ⟨-, hold, -, -⟩ := Site.setPlugin_eq_ok.1 hset
  exact ⟨plugin, enabled, old, List.mem_singleton.1 hrow, fun hfit => hfit plugin old hold⟩

end Progress

namespace Apply

open Progress

variable {request : ApplyRequest}

theorem switched_applyPlugin (hreal : request.simulate = false) (progress : Progress)
    (row : StoredPlugin) : ∃ rows, progress.Switched rows (applyPlugin request progress row).2 := by
  unfold applyPlugin
  dsimp only
  rw [hreal]
  split
  · exact ⟨[], .refl _⟩
  · split
    · exact ⟨[], .refl _⟩
    · split
      · exact ⟨[], .refl _⟩
      · rename_i after hset
        exact switched_of_setPlugin hset

theorem switched_applyPlugins (hreal : request.simulate = false) (plugins : List StoredPlugin)
    (entries : List Entry) (progress : Progress) :
    ∃ rows, progress.Switched rows (applyPlugins request entries progress plugins).2 := by
  induction plugins generalizing entries progress with
  | nil => exact ⟨[], .refl _⟩
  | cons row rest ih =>
    obtain ⟨rows, hrow⟩ := switched_applyPlugin hreal progress row
    obtain ⟨more, hrest⟩ := ih (entries ++ [(applyPlugin request progress row).1])
      (applyPlugin request progress row).2
    exact ⟨rows ++ more, hrow.append hrest⟩

/-- What a run over the items of a preset comes to, before it sets plugins. -/
def overItems (request : ApplyRequest) (snapshot : Snapshot) (site : Site) (preset : Preset)
    (recordable : Bool := true) : ApplyReport × Progress :=
  applyItems request snapshot 0 { presetId := preset.id, simulated := request.simulate } { site }
    (preset.items.map StoredItem.item) recordable

variable {snapshot : Snapshot} {site : Site} {preset : Preset} {recordable : Bool}

theorem run_of_cancelled (hsnapshot : Snapshot.ofSite site = .ok snapshot)
    (h : (overItems request snapshot site preset recordable).1.cancelled = true) :
    run request site preset recordable =
      .ok ({ (overItems request snapshot site preset recordable).1 with
        plugins := preset.plugins.map fun row =>
          { pluginEntry row.plugin .cancelled with reason := some Reason.cancelled } },
        (overItems request snapshot site preset recordable).2) := by
  unfold overItems at h ⊢
  unfold run
  rw [hsnapshot, ok_bind]
  dsimp only
  rw [if_pos h]
  rfl

theorem run_of_not_cancelled (hsnapshot : Snapshot.ofSite site = .ok snapshot)
    (h : (overItems request snapshot site preset recordable).1.cancelled = false) :
    run request site preset recordable =
      .ok ({ (overItems request snapshot site preset recordable).1 with
        plugins := (applyPlugins request [] (overItems request snapshot site preset recordable).2
          preset.plugins recordable).1 },
        (applyPlugins request [] (overItems request snapshot site preset recordable).2
          preset.plugins recordable).2) := by
  unfold overItems at h ⊢
  unfold run
  rw [hsnapshot, ok_bind]
  dsimp only
  rw [if_neg (by rw [h]; exact Bool.false_ne_true)]
  rfl

theorem run_uncancelled {report : ApplyReport} {progress : Progress}
    (hsnapshot : Snapshot.ofSite site = .ok snapshot)
    (hrun : run request site preset = .ok (report, progress)) (h : report.cancelled = false) :
    (overItems request snapshot site preset).1.cancelled = false ∧
      report = { (overItems request snapshot site preset).1 with
        plugins :=
          (applyPlugins request [] (overItems request snapshot site preset).2 preset.plugins).1 } ∧
      progress =
        (applyPlugins request [] (overItems request snapshot site preset).2 preset.plugins).2 := by
  cases hover : (overItems request snapshot site preset).1.cancelled with
  | true =>
    rw [run_of_cancelled hsnapshot hover] at hrun
    obtain ⟨rfl, -⟩ := Prod.mk.inj (Except.ok.inj hrun)
    cases hover.symm.trans h
  | false =>
    rw [run_of_not_cancelled hsnapshot hover] at hrun
    obtain ⟨rfl, rfl⟩ := Prod.mk.inj (Except.ok.inj hrun)
    exact ⟨rfl, rfl, rfl⟩

theorem uncancelled_of_never {report : ApplyReport} {progress : Progress}
    (hnever : request.cancellation = .never)
    (hrun : run request site preset = .ok (report, progress)) : report.cancelled = false := by
  obtain ⟨snapshot, hsnapshot, -⟩ := bind_eq_ok.1 hrun
  have hover : (overItems request snapshot site preset).1.cancelled = false :=
    cancelled_of_never hnever _ _ _ _
  rw [run_of_not_cancelled hsnapshot hover] at hrun
  obtain ⟨rfl, -⟩ := Prod.mk.inj (Except.ok.inj hrun)
  exact hover

/-- What a real run comes to: it makes planned writes, and then it sets plugins. -/
structure Ran (request : ApplyRequest) (snapshot : Snapshot) (site : Site) (preset : Preset)
    (report : ApplyReport) (middle after : Progress) (reached : List Item) (rows : List LedgerRow) :
    Prop where
  applicationId_eq : report.applicationId = none
  performs : Progress.Performs { site } request.user (reached.flatMap (plan request snapshot)) middle
  switched : middle.Switched rows after
  reached_prefix : reached <+: preset.items.map StoredItem.item
  reached_eq : report.cancelled = false → reached = preset.items.map StoredItem.item
  plain : preset.plugins = [] → rows = [] ∧ after = middle

/-- A run over a site that can be read comes to an end. -/
theorem exists_run (hsnapshot : Snapshot.ofSite site = .ok snapshot) (request : ApplyRequest)
    (preset : Preset) : ∃ report progress, run request site preset = .ok (report, progress) := by
  cases hcancelled : (overItems request snapshot site preset).1.cancelled with
  | true => exact ⟨_, _, run_of_cancelled hsnapshot hcancelled⟩
  | false => exact ⟨_, _, run_of_not_cancelled hsnapshot hcancelled⟩

theorem exists_ran (hreal : request.simulate = false) (hsnapshot : Snapshot.ofSite site = .ok snapshot)
    (preset : Preset) :
    ∃ report middle after reached rows, run request site preset = .ok (report, after) ∧
      Ran request snapshot site preset report middle after reached rows := by
  obtain ⟨reached, hprefix, hperforms, hall⟩ := performs_applyItems hreal
    (preset.items.map StoredItem.item) 0
    { presetId := preset.id, simulated := request.simulate } { site }
  have hid : (overItems request snapshot site preset).1.applicationId = none :=
    applicationId_applyItems _ _ _ _
  cases hcancelled : (overItems request snapshot site preset).1.cancelled with
  | true =>
    exact ⟨_, _, _, reached, [], run_of_cancelled hsnapshot hcancelled,
      hid, hperforms, .refl _, hprefix, hall, fun _ => ⟨rfl, rfl⟩⟩
  | false =>
    obtain ⟨rows, hrows⟩ := switched_applyPlugins hreal preset.plugins []
      (overItems request snapshot site preset).2
    cases hplugins : preset.plugins with
    | nil =>
      refine ⟨_, _, _, reached, [], run_of_not_cancelled hsnapshot hcancelled,
        hid, hperforms, ?_, hprefix, hall, fun _ => ⟨rfl, ?_⟩⟩
      · rw [hplugins]
        exact .refl _
      · rw [hplugins]
        rfl
    | cons plugin rest =>
      exact ⟨_, _, _, reached, rows, run_of_not_cancelled hsnapshot hcancelled,
        hid, hperforms, hrows, hprefix, hall, fun h => by rw [hplugins] at h; cases h⟩

/-- A run does not record anything itself. -/
theorem applicationId_of_run (hreal : request.simulate = false) {report : ApplyReport}
    {progress : Progress} (hrun : run request site preset = .ok (report, progress)) :
    report.applicationId = none := by
  obtain ⟨snapshot, hsnapshot, -⟩ := bind_eq_ok.1 hrun
  obtain ⟨_, _, _, _, _, hsame, hran⟩ := exists_ran hreal hsnapshot preset
  obtain ⟨rfl, -⟩ := Prod.mk.inj (Except.ok.inj (hrun.symm.trans hsame))
  exact hran.applicationId_eq

end Apply

end SitePresets
