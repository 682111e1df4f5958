import SitePresets.Proofs.Apply.Preview
import SitePresets.Proofs.Service.Advance

/-!
# Sound services

What holds of a service whatever has been done with it, as long as nothing was forced on it from the
outside: every ledger can be restored row by row. Every step preserves that.
-/

namespace SitePresets

namespace Apply

theorem backs_of_run {request : ApplyRequest} {site : Site} {preset : Preset} {report : ApplyReport}
    {progress : Progress} (hrun : run request site preset = .ok (report, progress))
    (hroot : site.tree.FacetsApart) (hpreset : preset.Sound) (hfit : site.store.StatesFit) :
    progress.site.store.Backs (LedgerRow.arrange progress.rows) := by
  cases hreal : request.simulate with
  | true =>
    obtain rfl := progress_run hreal hrun
    exact ⟨fun row hrow => (nomatch hrow : False).elim, .nil⟩
  | false =>
    obtain ⟨snapshot, hsnapshot, -⟩ := bind_eq_ok.1 hrun
    obtain ⟨report, middle, after, reached, rows, hsame, hran⟩ := exists_ran hreal hsnapshot preset
    obtain ⟨-, rfl⟩ := Prod.mk.inj (Except.ok.inj (hrun.symm.trans hsame))
    obtain ⟨writes, hmade, hpart, -⟩ := hran.performs
    have hnodup := nodup_keys hmade hsnapshot hroot hpreset.keys_nodup hran.reached_prefix hpart
    have hrows : progress.rows = (writes.map fun write => write.1.row write.2.id) ++ rows := by
      rw [hran.switched.rows_eq, hmade.rows_eq]
      rfl
    rw [hrows]
    refine hmade.backs_arrange hran.switched.switches.values hnodup fun row hrow => ?_
    obtain ⟨plugin, value, old, heq, hold⟩ := hran.switched.plugin row hrow
    refine ⟨plugin, value, old, heq, ?_⟩
    rw [hran.switched.switches.values.holds_eq]
    exact hold ((Site.Moves.of_wroteAll hmade.wrote).fit hfit)

end Apply

namespace Service

/-- A service whose values can be read, which protects nothing, and whose ledgers can be restored. -/
structure Sound (service : Service) : Prop where
  apart : service.site.tree.FacetsApart
  readable : service.site.store.Readable
  fit : service.site.store.StatesFit
  readOnly_eq : service.site.readOnly = []
  pinned_eq : service.site.pinned = []
  library : service.library.Sound
  backs : ∀ application ∈ service.library.applications, service.site.store.Backs application.rows
  arranged : ∀ application ∈ service.library.applications, LedgerRow.Arranged application.rows

variable {service after : Service}

namespace Sound

theorem moves (h : service.Sound) (hsite : service.site.Moves after.site)
    (hlibrary : service.library.Edits after.library) : after.Sound where
  apart := hsite.tree_eq ▸ h.apart
  readable := hsite.readable h.readable
  fit := hsite.fit h.fit
  readOnly_eq := hsite.readOnly_eq.trans h.readOnly_eq
  pinned_eq := hsite.pinned_eq.trans h.pinned_eq
  library := hlibrary.sound h.library
  backs application happlication := by
    obtain ⟨old, hold, hpart⟩ := hlibrary.applications application happlication
    exact (hsite.later.backs (h.backs old hold)).sublist hpart
  arranged application happlication := by
    obtain ⟨old, hold, hpart⟩ := hlibrary.applications application happlication
    exact (h.arranged old hold).sublist hpart

theorem moves_site {site : Site} (h : service.Sound) (hsite : service.site.Moves site) :
    Sound { service with site } :=
  h.moves hsite (.refl _)

theorem edits_library {library : Library} (h : service.Sound)
    (hlibrary : service.library.Edits library) : (service.withLibrary library).Sound :=
  h.moves (.refl _) hlibrary

theorem exists_snapshot (h : service.Sound) :
    ∃ snapshot, Snapshot.ofSite service.site = .ok snapshot :=
  Snapshot.exists_ofSite fun _ _ _ => Site.exists_read (h.readable _) fun _ _ => h.readable _

/-- Nothing stands in the way of restoring a row of a ledger. -/
theorem ready (h : service.Sound) {application : Application}
    (happlication : application ∈ service.library.applications)
    (hnumbers : service.site.store.holds service.site.store.nextChangeId) {user : Option Int}
    (huser : user.all fitsColumn) {row : LedgerRow} (hrow : row ∈ application.rows) :
    Rollback.Ready service.site user row := by
  have htracks := (h.backs application happlication).tracks row hrow
  refine ⟨htracks, fun logId hid => ?_, Store.accepts_of_fits huser _, ?_, ?_⟩
  · exact Store.holds_of_le (Nat.le_of_lt (htracks.lt hid)) hnumbers
  · rw [h.readOnly_eq]
    exact fun _ _ => List.not_mem_nil
  · rw [h.pinned_eq]
    exact fun _ _ => List.not_mem_nil

/-! ### Any step -/

/-- A run is recorded, or its writes stay without an application. -/
theorem record {preset : Preset} {user : Option Int} {report : ApplyReport} {progress : Progress}
    (h : service.Sound) (hpreset : preset.Sound) (hsite : service.site.Moves progress.site)
    (hbacks : progress.site.store.Backs (LedgerRow.arrange progress.rows)) :
    (service.record preset user report progress).2.Sound := by
  have hsound := h.moves_site hsite
  rcases service.record_cases preset user report progress with
    hafter | ⟨application, -, -, -, hrows, hafter⟩
  · rw [hafter]
    exact hsound
  · rw [hafter]
    have hstamped : Preset.Sound { preset with timeApplied := service.clock } :=
      ⟨hpreset.items, hpreset.plugins⟩
    exact {
      apart := hsound.apart
      readable := hsound.readable
      fit := hsound.fit
      readOnly_eq := hsound.readOnly_eq
      pinned_eq := hsound.pinned_eq
      library := (Library.Edits.replacePreset hstamped).sound h.library
      backs := by
        refine List.forall_mem_append.2 ⟨hsound.backs, ?_⟩
        rw [List.forall_mem_singleton, hrows]
        exact hbacks
      arranged := by
        refine List.forall_mem_append.2 ⟨hsound.arranged, ?_⟩
        rw [List.forall_mem_singleton, hrows]
        exact LedgerRow.arranged_arrange _ }

variable {limits : Limits}

theorem advances (h : service.Sound) (hadvances : service.Advances limits after)
    (htrees : ∀ tree, limits.trees tree → tree.FacetsApart) (hprotection : ¬ limits.protection) :
    after.Sound := by
  induction hadvances with
  | settled hsite hlibrary => exact h.moves (hsite ▸ .refl _) (hlibrary ▸ .refl _)
  | declared htree => exact { h with apart := htrees _ htree }
  | guarded hguarded => exact absurd hguarded hprotection
  | site hsite => exact h.moves_site (.of_evolves hsite)
  | library hlibrary => exact h.edits_library (hlibrary.edits h.library)
  | applied hpreset hrun =>
    have hsound := h.library _ hpreset
    exact h.record hsound (Apply.moves_run hrun) (Apply.backs_of_run hrun h.apart hsound h.fit)
  | trans _ _ hfirst hrest => exact hrest (hfirst h)

theorem apply (h : service.Sound) (presetId : Int) (request : ApplyRequest) (timeout : Option Int) :
    (service.apply presetId request timeout).2.Sound :=
  have happly : service.Advances { trees := fun _ => False, protection := False }
      (service.apply presetId request timeout).2 := .of_apply service presetId request timeout
  h.advances happly (fun _ => False.elim) id

theorem becomes (h : service.Sound) (hbecomes : service.Becomes limits after)
    (htrees : ∀ tree, limits.trees tree → tree.FacetsApart) (hprotection : ¬ limits.protection) :
    after.Sound := by
  cases hbecomes with
  | advanced hadvances => exact h.advances hadvances htrees hprotection
  | reduced hsite happlication hrows =>
    refine h.moves (.of_evolves hsite) ?_
    dsimp only
    unfold Library.keepRows
    split
    · exact .removeApplication _
    · exact .replaceApplication happlication hrows
  | deleted =>
    exact h.edits_library (.of_subset (fun hsound other hother =>
      hsound other (List.mem_filter.1 hother).1) (List.filter_subset_self _))

end Sound

end Service

end SitePresets
