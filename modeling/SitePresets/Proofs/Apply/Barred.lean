import SitePresets.Proofs.Apply.Plugins

/-!
# Barred runs

A run that the library has no place for goes as far as the first item or plugin that it writes. It does
what the run of that beginning of the preset does, or, if it writes nothing, what any run does.
-/

namespace SitePresets

namespace Progress

variable {progress after : Progress} {simulate : Bool}

theorem isBarred_false_iff : progress.isBarred false = true ↔ progress.rows ≠ [] := by
  simp [isBarred]

theorem rows_prefix_write {action : Site → Except Refusal (Change × Site)} {row : Nat → LedgerRow}
    {logId : Option Nat} (h : progress.write simulate action row = .ok (logId, after)) :
    progress.rows <+: after.rows := by
  unfold write at h
  split at h
  · obtain ⟨-, rfl⟩ := Prod.mk.inj (Except.ok.inj h)
    exact List.prefix_rfl
  · obtain ⟨_, -, h⟩ := bind_eq_ok.1 h
    obtain ⟨-, rfl⟩ := Prod.mk.inj (Except.ok.inj h)
    exact List.prefix_append _ _

theorem rows_prefix_setPlugin {plugin : Plugin} {enabled : Int}
    (h : progress.setPlugin simulate plugin enabled = .ok after) : progress.rows <+: after.rows := by
  unfold setPlugin at h
  split at h
  · obtain rfl := Except.ok.inj h
    exact List.prefix_rfl
  · obtain ⟨_, -, h⟩ := bind_eq_ok.1 h
    obtain rfl := Except.ok.inj h
    exact List.prefix_append _ _

end Progress

namespace Apply

variable {request : ApplyRequest} {snapshot : Snapshot} {progress : Progress}

/-! ### Rows stay

No part of a run takes rows away, so one that ends without rows had none at any time. -/

theorem rows_prefix_writeFacets (live : Descriptor) (facets : List (Facet × Bool)) (entry : Entry)
    (progress : Progress) :
    progress.rows <+: (writeFacets request live entry progress facets).2.rows := by
  induction facets generalizing entry progress with
  | nil => exact List.prefix_rfl
  | cons row rest ih =>
    unfold writeFacets
    dsimp only
    split
    · exact List.prefix_rfl
    · rename_i hwrite
      exact (Progress.rows_prefix_write hwrite).trans (ih _ _)

theorem rows_prefix_applyItem (item : Item) (progress : Progress) :
    progress.rows <+: (applyItem request snapshot item progress).2.rows := by
  unfold applyItem
  split
  · exact List.prefix_rfl
  · exact List.prefix_rfl
  · exact List.prefix_rfl
  · unfold writeWanted
    split
    · exact rows_prefix_writeFacets _ _ _ _
    · dsimp only
      split
      · exact List.prefix_rfl
      · rename_i hwrite
        exact (Progress.rows_prefix_write hwrite).trans (rows_prefix_writeFacets _ _ _ _)

theorem rows_prefix_applyItems (items : List Item) (index : Nat) (report : ApplyReport)
    (progress : Progress) :
    progress.rows <+: (applyItems request snapshot index report progress items).2.rows := by
  induction items generalizing index report progress with
  | nil => exact List.prefix_rfl
  | cons item rest ih =>
    rw [applyItems_cons]
    split
    · exact List.prefix_rfl
    · exact (rows_prefix_applyItem item progress).trans (ih _ _ _)

theorem rows_prefix_applyPlugin (progress : Progress) (row : StoredPlugin) :
    progress.rows <+: (applyPlugin request progress row).2.rows := by
  unfold applyPlugin
  dsimp only
  split
  · exact List.prefix_rfl
  · split
    · exact List.prefix_rfl
    · split
      · exact List.prefix_rfl
      · rename_i hset
        exact Progress.rows_prefix_setPlugin hset

theorem rows_prefix_applyPlugins (plugins : List StoredPlugin) (entries : List Entry)
    (progress : Progress) :
    progress.rows <+: (applyPlugins request entries progress plugins).2.rows := by
  induction plugins generalizing entries progress with
  | nil => exact List.prefix_rfl
  | cons row rest ih =>
    rw [applyPlugins_cons]
    exact (rows_prefix_applyPlugin progress row).trans (ih _ _)

/-! ### Without an application -/

theorem applyItems_of_barred (hrows : progress.rows ≠ []) (items : List Item) (index : Nat)
    (report : ApplyReport) :
    applyItems request snapshot index report progress items false = (report, progress) := by
  cases items with
  | nil => rfl
  | cons item rest =>
    unfold applyItems
    dsimp only
    rw [if_pos (Progress.isBarred_false_iff.2 hrows)]

theorem applyItems_false_cons (hrows : progress.rows = []) (item : Item) (rest : List Item)
    (index : Nat) (report : ApplyReport) :
    applyItems request snapshot index report progress (item :: rest) false =
      if request.cancellation.isDue index progress.writes then
        applyItems request snapshot index report progress (item :: rest)
      else
        applyItems request snapshot (index + 1)
          (report.add (applyItem request snapshot item progress).1)
          (applyItem request snapshot item progress).2 rest false := by
  rw [applyItems, if_neg (fun hbarred => Progress.isBarred_false_iff.1 hbarred hrows)]
  by_cases hdue : request.cancellation.isDue index progress.writes = true
  · rw [if_pos hdue, if_pos hdue, applyItems_cons, if_pos hdue]
  · rw [if_neg hdue, if_neg hdue]

/-- The items up to the first one that is written, if there is one. -/
theorem applyItems_false (items : List Item) (index : Nat) (report : ApplyReport)
    (hrows : progress.rows = []) :
    (applyItems request snapshot index report progress items).2.rows = [] ∧
        applyItems request snapshot index report progress items false =
          applyItems request snapshot index report progress items ∨
      (applyItems request snapshot index report progress items).2.rows ≠ [] ∧
        (applyItems request snapshot index report progress items false).2.rows ≠ [] ∧
          ∃ reached, reached <+: items ∧
            applyItems request snapshot index report progress items false =
              applyItems request snapshot index report progress reached := by
  induction items generalizing index report progress with
  | nil => exact .inl ⟨hrows, rfl⟩
  | cons item rest ih =>
    rw [applyItems_false_cons hrows]
    by_cases hdue : request.cancellation.isDue index progress.writes = true
    · rw [if_pos hdue, applyItems_cons, if_pos hdue]
      exact .inl ⟨hrows, rfl⟩
    · rw [if_neg hdue, applyItems_cons, if_neg hdue]
      by_cases hnext : (applyItem request snapshot item progress).2.rows = []
      · refine (ih (index + 1) _ hnext).imp id fun ⟨hall, hwrote, reached, hreached, heq⟩ => ?_
        refine ⟨hall, hwrote, item :: reached, List.cons_prefix_cons.2 ⟨rfl, hreached⟩, ?_⟩
        rw [applyItems_cons, if_neg hdue]
        exact heq
      · rw [applyItems_of_barred hnext]
        refine .inr ⟨fun hall => hnext ?_, hnext, [item],
          List.cons_prefix_cons.2 ⟨rfl, List.nil_prefix⟩, ?_⟩
        · exact List.prefix_nil.1 (hall ▸ rows_prefix_applyItems rest _ _ _)
        · rw [applyItems_cons, if_neg hdue]
          rfl

theorem applyPlugins_of_barred (hrows : progress.rows ≠ []) (plugins : List StoredPlugin)
    (entries : List Entry) :
    applyPlugins request entries progress plugins false = (entries, progress) := by
  cases plugins with
  | nil => rfl
  | cons row rest =>
    unfold applyPlugins
    dsimp only
    rw [if_pos (Progress.isBarred_false_iff.2 hrows)]

/-- The plugins up to the first one that is set, if there is one. -/
theorem applyPlugins_false (request : ApplyRequest) (plugins : List StoredPlugin)
    (entries : List Entry) (hrows : progress.rows = []) :
    (applyPlugins request entries progress plugins).2.rows = [] ∧
        applyPlugins request entries progress plugins false =
          applyPlugins request entries progress plugins ∨
      (applyPlugins request entries progress plugins).2.rows ≠ [] ∧
        (applyPlugins request entries progress plugins false).2.rows ≠ [] ∧
          ∃ reached, reached <+: plugins ∧
            applyPlugins request entries progress plugins false =
              applyPlugins request entries progress reached := by
  induction plugins generalizing entries progress with
  | nil => exact .inl ⟨hrows, rfl⟩
  | cons row rest ih =>
    have hcons : applyPlugins request entries progress (row :: rest) false =
        applyPlugins request (entries ++ [(applyPlugin request progress row).1])
          (applyPlugin request progress row).2 rest false := by
      rw [applyPlugins, if_neg (fun hbarred => Progress.isBarred_false_iff.1 hbarred hrows)]
    rw [hcons, applyPlugins_cons]
    by_cases hnext : (applyPlugin request progress row).2.rows = []
    · refine (ih _ hnext).imp id fun ⟨hall, hwrote, reached, hreached, heq⟩ => ?_
      refine ⟨hall, hwrote, row :: reached, List.cons_prefix_cons.2 ⟨rfl, hreached⟩, ?_⟩
      rw [applyPlugins_cons]
      exact heq
    · rw [applyPlugins_of_barred hnext]
      refine .inr ⟨fun hall => hnext ?_, hnext, [row],
        List.cons_prefix_cons.2 ⟨rfl, List.nil_prefix⟩, rfl⟩
      exact List.prefix_nil.1 (hall ▸ rows_prefix_applyPlugins rest _ _)

variable {site : Site} {preset : Preset}

theorem overItems_false (request : ApplyRequest) (snapshot : Snapshot) (site : Site)
    (preset : Preset) :
    (overItems request snapshot site preset).2.rows = [] ∧
        overItems request snapshot site preset false = overItems request snapshot site preset ∨
      (overItems request snapshot site preset).2.rows ≠ [] ∧
        (overItems request snapshot site preset false).2.rows ≠ [] ∧
          ∃ items, items <+: preset.items ∧ overItems request snapshot site preset false =
            overItems request snapshot site { preset with items, plugins := [] } := by
  unfold overItems
  refine (applyItems_false _ _ _ rfl).imp id fun ⟨hall, hrows, reached, hreached, heq⟩ => ?_
  obtain ⟨rest, hrest⟩ := hreached
  obtain ⟨items, more, hsplit, rfl, -⟩ := List.map_eq_append_iff.1 hrest.symm
  exact ⟨hall, hrows, items, ⟨more, hsplit.symm⟩, heq⟩

/-- What a run has made of the site before it is barred: the first rows of its ledger, and what the run of
a beginning of the preset makes of it. -/
structure Begins (request : ApplyRequest) (site : Site) (preset : Preset) (progress : Progress) :
    Prop where
  rows_ne_nil : progress.rows ≠ []
  run_eq : ∃ begun : Preset, begun.items <+: preset.items ∧ begun.plugins <+: preset.plugins ∧
    ∃ report, run request site begun = .ok (report, progress)

theorem rows_prefix_run {report : ApplyReport} (hsnapshot : Snapshot.ofSite site = .ok snapshot)
    (hrun : run request site preset = .ok (report, progress)) :
    (overItems request snapshot site preset).2.rows <+: progress.rows := by
  cases hcancelled : (overItems request snapshot site preset).1.cancelled with
  | true =>
    rw [run_of_cancelled hsnapshot hcancelled] at hrun
    obtain ⟨-, rfl⟩ := Prod.mk.inj (Except.ok.inj hrun)
    exact List.prefix_rfl
  | false =>
    rw [run_of_not_cancelled hsnapshot hcancelled] at hrun
    obtain ⟨-, rfl⟩ := Prod.mk.inj (Except.ok.inj hrun)
    exact rows_prefix_applyPlugins _ _ _

/-- A run that is barred among its items. -/
theorem run_of_barred (hsnapshot : Snapshot.ofSite site = .ok snapshot)
    (hrows : (overItems request snapshot site preset false).2.rows ≠ []) :
    ∃ report, run request site preset false =
      .ok (report, (overItems request snapshot site preset false).2) := by
  cases hcancelled : (overItems request snapshot site preset false).1.cancelled with
  | true => exact ⟨_, run_of_cancelled hsnapshot hcancelled⟩
  | false =>
    rw [run_of_not_cancelled hsnapshot hcancelled, applyPlugins_of_barred hrows]
    exact ⟨_, rfl⟩

theorem begins_of_overItems {items : List StoredItem} (hsnapshot : Snapshot.ofSite site = .ok snapshot)
    (hrows : (overItems request snapshot site preset false).2.rows ≠ [])
    (hitems : items <+: preset.items) (hover : overItems request snapshot site preset false =
      overItems request snapshot site { preset with items, plugins := [] }) :
    Begins request site preset (overItems request snapshot site preset false).2 := by
  refine ⟨hrows, { preset with items, plugins := [] }, hitems, List.nil_prefix, ?_⟩
  rw [hover]
  cases hcancelled : (overItems request snapshot site
      { preset with items, plugins := [] }).1.cancelled with
  | true => exact ⟨_, run_of_cancelled hsnapshot hcancelled⟩
  | false => exact ⟨_, run_of_not_cancelled hsnapshot hcancelled⟩

/-- A run without an application is like any other if it writes nothing, and else only begins. -/
theorem run_false {report : ApplyReport} (hrun : run request site preset = .ok (report, progress)) :
    progress.rows = [] ∧ run request site preset false = .ok (report, progress) ∨
      progress.rows ≠ [] ∧ ∃ other barred, run request site preset false = .ok (other, barred) ∧
        Begins request site preset barred := by
  obtain ⟨snapshot, hsnapshot, -⟩ := bind_eq_ok.1 hrun
  rcases overItems_false request snapshot site preset
    with ⟨hnil, hover⟩ | ⟨hall, hrows, items, hitems, hover⟩
  · cases hcancelled : (overItems request snapshot site preset).1.cancelled with
    | true =>
      rw [run_of_cancelled hsnapshot hcancelled] at hrun
      obtain ⟨rfl, rfl⟩ := Prod.mk.inj (Except.ok.inj hrun)
      rw [run_of_cancelled hsnapshot (by rwa [hover]), hover]
      exact .inl ⟨hnil, rfl⟩
    | false =>
      rw [run_of_not_cancelled hsnapshot hcancelled] at hrun
      obtain ⟨rfl, rfl⟩ := Prod.mk.inj (Except.ok.inj hrun)
      rw [run_of_not_cancelled hsnapshot (by rwa [hover]), hover]
      rcases applyPlugins_false request preset.plugins [] hnil
        with ⟨hnil, heq⟩ | ⟨hall, hrows, plugins, hplugins, heq⟩
      · rw [heq]
        exact .inl ⟨hnil, rfl⟩
      · rw [heq] at hrows ⊢
        exact .inr ⟨hall, _, _, rfl, hrows, { preset with plugins }, List.prefix_rfl, hplugins, _,
          run_of_not_cancelled hsnapshot hcancelled⟩
  · obtain ⟨other, hbarred⟩ := run_of_barred hsnapshot hrows
    refine .inr ⟨fun hnil => hall ?_, other, _, hbarred,
      begins_of_overItems hsnapshot hrows hitems hover⟩
    exact List.prefix_nil.1 (hnil ▸ rows_prefix_run hsnapshot hrun)

theorem run_eq_error {refusal : Refusal} (hrun : run request site preset = .error refusal) :
    run request site preset false = .error refusal := by
  cases hsnapshot : Snapshot.ofSite site with
  | error found =>
    unfold run at hrun ⊢
    rw [hsnapshot] at hrun ⊢
    exact hrun
  | ok snapshot =>
    cases hcancelled : (overItems request snapshot site preset).1.cancelled with
    | true =>
      rw [run_of_cancelled hsnapshot hcancelled] at hrun
      cases hrun
    | false =>
      rw [run_of_not_cancelled hsnapshot hcancelled] at hrun
      cases hrun

end Apply

end SitePresets
