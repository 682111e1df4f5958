import SitePresets.Proofs.Rollback.Outcome
import SitePresets.Proofs.Rollback.Stands

/-!
# Rollback as an inverse

An application without plugins that is rolled back after everything later than it was undone. All its
writes still stand, so all its rows are restored, and every value is back to what it was.
-/

namespace SitePresets

namespace Rollback

/-- Undoing the rows of some writes gives every key back what it held before them. Other rows may be
undone too, if they stand for no writes. -/
theorem Undone.get_eq_of_writes {start middle site after : Site} {writes : List (Planned × Change)}
    {rows : List LedgerRow} (hundone : Undone site rows after)
    (hwrote : start.WroteAll (writes.map Prod.snd) middle)
    (hnodup : ((writes.map Prod.snd).map Change.key).Nodup)
    (hget : ∀ key, site.store.get key = middle.store.get key)
    (hchange : ∀ write ∈ writes, write.1.row write.2.id ∈ rows ∧
      site.store.changeOf? (write.1.row write.2.id) = some write.2)
    (hrows : ∀ row ∈ rows, ∀ change, site.store.changeOf? row = some change →
      ∃ write ∈ writes, write.1.row write.2.id = row) (key : Key) :
    after.store.get key = start.store.get key := by
  by_cases hkey : ∃ write ∈ writes, write.2.key = key
  · obtain ⟨write, hwrite, rfl⟩ := hkey
    obtain ⟨hrow, hfound⟩ := hchange write hwrite
    rw [hundone.get_restored _ hrow _ hfound]
    exact (hwrote.old_of_mem hnodup (List.mem_map_of_mem hwrite)).symm
  · rw [hundone.get_other, hget, hwrote.get_of_not_mem]
    · rw [List.map_map]
      intro hmem
      obtain ⟨write, hwrite, hwritten⟩ := List.mem_map.1 hmem
      exact hkey ⟨write, hwrite, hwritten⟩
    · intro row hrow change hfound hsame
      obtain ⟨write, hwrite, rfl⟩ := hrows row hrow change hfound
      obtain rfl := Option.some.inj ((hchange write hwrite).2.symm.trans hfound)
      exact hkey ⟨write, hwrite, hsame⟩

end Rollback

namespace Service

/-- A service that is back where another was: with the same values, a log that goes on, and the same
applications. -/
structure Returns (service after : Service) : Prop where
  keeps : service.site.Keeps after.site
  nextChangeId_le : service.site.store.nextChangeId ≤ after.site.store.nextChangeId
  change_eq : ∀ id : Nat, id < service.site.store.nextChangeId →
    after.site.store.change? id = service.site.store.change? id
  get_eq : ∀ key, after.site.store.get key = service.site.store.get key
  applications_eq : after.library.applications = service.library.applications
  locked_eq : after.locked = service.locked

/-- An application, and the writes that it stands for. -/
structure Records (service : Service) (request : ApplyRequest) (application : Application)
    (snapshot : Snapshot) (writes : List (Planned × Change)) (next : Service) : Prop where
  snapshot_eq : Snapshot.ofSite service.site = .ok snapshot
  unlocked : service.locked = false
  wrote : service.site.WroteAll (writes.map Prod.snd) next.site
  fulfils : ∀ write ∈ writes, write.2.key = write.1.key ∧ write.2.new = write.1.text
  unprotected : ∀ write ∈ writes, write.1.key ∉ service.site.readOnly
  planned : ∀ write ∈ writes, ∃ item : Item, write.1 ∈ Apply.plan request snapshot item
  keys_nodup : ((writes.map Prod.snd).map Change.key).Nodup
  rows_eq : application.rows = LedgerRow.arrange (writes.map fun write => write.1.row write.2.id)
  backs : next.site.store.Backs application.rows
  id_eq : application.id = service.library.nextApplicationId
  applications_eq : next.library.applications = service.library.applications ++ [application]
  locked_eq : next.locked = service.locked

/-- An application all of whose writes last. -/
structure Applied (service : Service) (request : ApplyRequest) (application : Application)
    (snapshot : Snapshot) (writes : List (Planned × Change)) (next : Service) : Prop extends
    Records service request application snapshot writes next where
  lasting : ∀ write ∈ writes, write.1.reverts = false

variable {service next current after : Service} {request : ApplyRequest} {application : Application}
  {snapshot : Snapshot} {writes : List (Planned × Change)} {user : Option Int}

namespace Returns

theorem refl (service : Service) : service.Returns service :=
  ⟨.refl _, Nat.le_refl _, fun _ _ => rfl, fun _ => rfl, rfl, rfl⟩

theorem later (h : service.Returns after) : service.site.store.Later after.site.store :=
  ⟨h.nextChangeId_le, fun id hid => .inl (h.change_eq id hid), h.keeps.holds_eq⟩

end Returns

namespace Records

theorem mem_rows (h : Records service request application snapshot writes next) {row : LedgerRow} :
    row ∈ application.rows ↔ ∃ write ∈ writes, write.1.row write.2.id = row := by
  rw [h.rows_eq, LedgerRow.mem_arrange, List.mem_map]

theorem id_ne (h : Records service request application snapshot writes next) {other : Application}
    (hother : other ∈ service.library.applications) : other.id ≠ application.id := by
  rw [h.id_eq]
  exact Library.id_ne_next hother

theorem change_of_mem (h : Records service request application snapshot writes next)
    (hreturns : next.Returns current)
    (hnumbers : next.site.store.holds next.site.store.nextChangeId) {write : Planned × Change}
    (hwrite : write ∈ writes) :
    current.site.store.change? write.2.id = .ok (some write.2) := by
  have hmem : write.2 ∈ writes.map Prod.snd := List.mem_map_of_mem hwrite
  have hlt := (h.wrote.id_of_mem hmem).2
  rw [hreturns.change_eq _ hlt]
  refine h.wrote.change_of_mem hmem ?_
  rw [← h.wrote.keeps.holds_eq]
  exact Store.holds_of_le (Nat.le_of_lt hlt) hnumbers

theorem changeOf_row (h : Records service request application snapshot writes next)
    (hreturns : next.Returns current)
    (hnumbers : next.site.store.holds next.site.store.nextChangeId) {write : Planned × Change}
    (hwrite : write ∈ writes) :
    current.site.store.changeOf? (write.1.row write.2.id) = some write.2 :=
  Store.changeOf_eq_some.2 ⟨_, write.1.logId_row _, h.change_of_mem hreturns hnumbers hwrite⟩

theorem staysReadable (h : Records service request application snapshot writes next)
    (hreturns : next.Returns current) :
    service.site.store.StaysReadable current.site.store := by
  intro key hkey
  rw [hreturns.get_eq]
  exact h.wrote.staysReadable key hkey

theorem restorable_iff (h : Records service request application snapshot writes next)
    (hreturns : next.Returns current)
    (hnumbers : next.site.store.holds next.site.store.nextChangeId) {write : Planned × Change}
    (hwrite : write ∈ writes) :
    Rollback.Restorable current.site (write.1.row write.2.id) ↔ write.1.reverts = false := by
  obtain ⟨item, hplanned⟩ := h.planned write hwrite
  obtain ⟨hkey, hnew⟩ := h.fulfils write hwrite
  refine Rollback.restorable_row h.snapshot_eq (h.wrote.keeps.trans hreturns.keeps)
    (h.staysReadable hreturns) hplanned hkey hnew (h.change_of_mem hreturns hnumbers hwrite) ?_
  rw [hreturns.get_eq]
  exact h.wrote.get_of_mem h.keys_nodup (List.mem_map_of_mem hwrite)

theorem ready (h : Records service request application snapshot writes next)
    (hreturns : next.Returns current)
    (hnumbers : next.site.store.holds next.site.store.nextChangeId) (huser : next.site.store.accepts user)
    {row : LedgerRow} (hrow : row ∈ application.rows) : Rollback.Ready current.site user row := by
  have htracks := h.backs.tracks row hrow
  refine ⟨hreturns.later.tracks htracks, fun logId hid => ?_,
    (hreturns.keeps.accepts_eq user).trans huser, ?_⟩
  · rw [hreturns.keeps.holds_eq]
    exact Store.holds_of_le (Nat.le_of_lt (htracks.lt hid)) hnumbers
  · obtain ⟨write, hwrite, rfl⟩ := h.mem_rows.1 hrow
    constructor
    · intro change hchange
      obtain rfl := Option.some.inj ((h.changeOf_row hreturns hnumbers hwrite).symm.trans hchange)
      rw [(h.fulfils write hwrite).1, hreturns.keeps.readOnly_eq, h.wrote.keeps.readOnly_eq]
      exact h.unprotected write hwrite
    · intro plugin hplugin
      rw [Planned.plugin_row] at hplugin
      cases hplugin

theorem getApplication_eq (h : Records service request application snapshot writes next)
    (hreturns : next.Returns current) (hid : fitsColumn application.id) :
    current.library.getApplication application.id = .ok application :=
  Library.getApplication_of_new h.id_eq (hreturns.applications_eq.trans h.applications_eq) hid

/-- With all rows undone a service is back where it was before the apply. -/
theorem returns_of_undone (h : Records service request application snapshot writes next)
    (hreturns : next.Returns current)
    (hnumbers : next.site.store.holds next.site.store.nextChangeId)
    (hundone : Rollback.Undone current.site application.rows after.site)
    (hlibrary : after.library = current.library.removeApplication application.id)
    (hlocked : after.locked = current.locked) : service.Returns after where
  keeps := by
    refine h.wrote.keeps.trans (hreturns.keeps.trans (hundone.keeps fun row hrow => ?_))
    obtain ⟨write, -, rfl⟩ := h.mem_rows.1 hrow
    exact write.1.plugin_row _
  nextChangeId_le := by
    have hle := h.wrote.nextChangeId_eq
    have hnext := hreturns.nextChangeId_le
    have hlast := hundone.later.nextChangeId_le
    omega
  change_eq id hid := by
    have hnext : id < next.site.store.nextChangeId := by
      rw [h.wrote.nextChangeId_eq]
      omega
    rw [hundone.change_eq id (Nat.lt_of_lt_of_le hnext hreturns.nextChangeId_le),
      hreturns.change_eq id hnext, h.wrote.change_of_lt hid]
  get_eq := hundone.get_eq_of_writes h.wrote h.keys_nodup hreturns.get_eq
    (fun write hwrite => ⟨h.mem_rows.2 ⟨write, hwrite, rfl⟩, h.changeOf_row hreturns hnumbers hwrite⟩)
    fun _ hrow _ _ => h.mem_rows.1 hrow
  applications_eq := by
    rw [hlibrary]
    unfold Library.removeApplication
    dsimp only
    rw [hreturns.applications_eq, h.applications_eq, List.filter_append,
      List.filter_eq_self.2 fun other hother => decide_eq_true (h.id_ne hother)]
    simp
  locked_eq := hlocked.trans (hreturns.locked_eq.trans h.locked_eq)

/-- A rollback once everything after the application is undone. -/
theorem exists_outcome (h : Records service request application snapshot writes next)
    (hreturns : next.Returns current)
    (hnumbers : next.site.store.holds next.site.store.nextChangeId) (huser : next.site.store.accepts user)
    (hid : fitsColumn application.id) (timeout : Option Int) :
    ∃ report after, current.rollback application.id user .never timeout = .ok (report, after) ∧
      Rollback.Outcome current application application.rows [] report after := by
  obtain ⟨now, hnow⟩ :=
    (h.wrote.keeps.trans hreturns.keeps).exists_ofSite (h.staysReadable hreturns) h.snapshot_eq
  have hplugins : (application.rows.filterMap LedgerRow.plugin?).Nodup := by
    rw [List.filterMap_eq_nil_iff.2]
    · exact List.nodup_nil
    · intro row hrow
      obtain ⟨write, -, rfl⟩ := h.mem_rows.1 hrow
      exact write.1.plugin_row _
  have hlock : current.locked = false := by
    rw [hreturns.locked_eq, h.locked_eq, h.unlocked]
  obtain ⟨rest, report, after, hsplit, hrollback, houtcome⟩ :=
    Rollback.exists_outcome .never timeout (h.getApplication_eq hreturns hid) hlock hnow
      (fun row hrow => h.ready hreturns hnumbers huser hrow)
      (Rollback.pairwise_distinct (hreturns.later.backs h.backs) hplugins)
  rw [Cancellation.reached_never] at hsplit houtcome
  obtain rfl := List.self_eq_append_right.1 hsplit
  exact ⟨report, after, hrollback, houtcome⟩

/-- What a run over items has written, and is recorded, is an application of that. -/
theorem of_made {preset : Preset} {reached : List Item} {progress : Progress} {library : Library}
    (hsnapshot : Snapshot.ofSite service.site = .ok snapshot) (hroot : service.site.tree.FacetsApart)
    (hlock : service.locked = false) (hpreset : preset.Sound)
    (hmade : Progress.Made { site := service.site } writes progress)
    (hreached : reached <+: preset.items.map StoredItem.item)
    (hpart : (writes.map Prod.fst).Sublist (reached.flatMap (Apply.plan request snapshot)))
    (hrecord : service.library.recordApplication service.clock preset user progress.rows =
      .ok (application, library)) :
    Records service request application snapshot writes
      { service with site := progress.site, library } := by
  obtain ⟨hid, -, hrows, happlications, -⟩ := Library.recordApplication_eq_ok hrecord
  have hnodup := Apply.nodup_keys hmade hsnapshot hroot hpreset.keys_nodup hreached hpart
  have hnone : ∀ row ∈ ([] : List LedgerRow), ∃ plugin value old,
      row = .plugin plugin value old ∧ progress.site.store.holds old := fun _ h => nomatch h
  have hbacks := hmade.backs_arrange (.refl _) hnodup hnone
  rw [List.append_nil] at hbacks
  have hrows : application.rows =
      LedgerRow.arrange (writes.map fun write => write.1.row write.2.id) := by
    rw [hrows, hmade.rows_eq]
    rfl
  exact {
    snapshot_eq := hsnapshot
    unlocked := hlock
    wrote := hmade.wrote
    fulfils := hmade.fulfils
    unprotected := hmade.unprotected
    planned := by
      intro write hwrite
      obtain ⟨item, -, hplanned⟩ :=
        List.mem_flatMap.1 (hpart.subset (List.mem_map_of_mem hwrite))
      exact ⟨item, hplanned⟩
    keys_nodup := hnodup
    rows_eq := hrows
    backs := hrows ▸ hbacks
    id_eq := hid
    applications_eq := happlications
    locked_eq := rfl }

end Records

/-- Rolling an application back undoes it, once everything after it is undone. -/
theorem Applied.exists_rollback (h : Applied service request application snapshot writes next)
    (hreturns : next.Returns current)
    (hnumbers : next.site.store.holds next.site.store.nextChangeId) (huser : next.site.store.accepts user)
    (hid : fitsColumn application.id) (timeout : Option Int) :
    ∃ report after, current.rollback application.id user .never timeout = .ok (report, after) ∧
      report.failed = [] ∧ report.applicationDeleted = true ∧ service.Returns after := by
  obtain ⟨report, after, hrollback, houtcome⟩ := h.exists_outcome hreturns hnumbers huser hid timeout
  have hall (row : LedgerRow) (hrow : row ∈ application.rows) :
      Rollback.isRestorable current.site row = true := by
    obtain ⟨write, hwrite, rfl⟩ := h.mem_rows.1 hrow
    exact Rollback.isRestorable_iff.2
      ((h.restorable_iff hreturns hnumbers hwrite).2 (h.lasting write hwrite))
  have hrestored : application.rows.filter (Rollback.isRestorable current.site) = application.rows :=
    List.filter_eq_self.2 hall
  have hkept : application.rows.filter (!Rollback.isRestorable current.site ·) = [] := by
    refine List.filter_eq_nil_iff.2 fun row hrow => ?_
    rw [hall row hrow]
    exact Bool.false_ne_true
  have hfailed := houtcome.failed
  have hdeleted : report.applicationDeleted = true := by
    rw [houtcome.applicationDeleted_eq, hkept]
    rfl
  rw [hkept] at hfailed
  refine ⟨report, after, hrollback, List.forall₂_nil_left_iff.1 hfailed, hdeleted, ?_⟩
  have hundone := houtcome.undone
  have hlibrary := houtcome.library_eq
  rw [hrestored] at hundone
  rw [if_pos hdeleted] at hlibrary
  have hlocked : after.locked = current.locked := by
    rw [houtcome.service_eq]
  exact h.returns_of_undone hreturns hnumbers hundone hlibrary hlocked

end Service

end SitePresets
