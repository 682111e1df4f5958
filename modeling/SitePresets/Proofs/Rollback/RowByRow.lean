import Mathlib.Data.List.Pairwise
import SitePresets.Proofs.Rollback.Outcome
import SitePresets.Proofs.Service.Reachable

/-!
# Rollback, row by row

What a rollback does with each row of an application, whatever has happened since the rows were
written. A row is told by its own: whether the run reaches it, and whether its write still stands.
-/

namespace SitePresets

namespace Rollback

/-- What a rollback has done with each row of an application. -/
structure RowByRow (service : Service) (application : Application) (reached rest : List LedgerRow)
    (report : RollbackReport) (after : Service) : Prop where
  /-- Values come first, then facets, then plugins. -/
  arranged : LedgerRow.Arranged application.rows
  /-- The report has one entry for each row, filed under what became of it. -/
  restored : List.Forall₂ (Reports [.restored])
    (reached.filter (isRestorable service.site)) report.restored
  failed : List.Forall₂ (Reports [.failed, .diverged])
    (reached.filter (!isRestorable service.site ·)) report.failed
  skipped : List.Forall₂ (Reports [.cancelled]) rest report.skipped
  cancelled_eq : report.cancelled = !rest.isEmpty
  /-- Restored rows give back what their changes have replaced. -/
  get_restored : ∀ row ∈ reached, Restorable service.site row →
    ∀ change, service.site.store.changeOf? row = some change →
      after.site.store.get change.key = .ok change.old
  plugin_restored : ∀ plugin value old, .plugin plugin value old ∈ reached →
    Restorable service.site (.plugin plugin value old) → after.site.store.plugin? plugin = some old
  /-- Rows that are not restored leave what they stand for alone. -/
  get_kept : ∀ row ∈ reached.filter (!isRestorable service.site ·) ++ rest,
    ∀ change, service.site.store.changeOf? row = some change →
      after.site.store.get change.key = service.site.store.get change.key
  plugin_kept : ∀ row ∈ reached.filter (!isRestorable service.site ·) ++ rest,
    ∀ plugin, row.plugin? = some plugin →
      after.site.store.plugin? plugin = service.site.store.plugin? plugin
  /-- So does the rollback with everything else. -/
  get_other : ∀ key, (∀ row ∈ reached, Restorable service.site row →
    ∀ change, service.site.store.changeOf? row = some change → change.key ≠ key) →
      after.site.store.get key = service.site.store.get key
  plugin_other : ∀ plugin, (∀ row ∈ reached, Restorable service.site row →
    row.plugin? ≠ some plugin) →
      after.site.store.plugin? plugin = service.site.store.plugin? plugin
  presets_eq : after.library.presets = service.library.presets
  /-- The ledger keeps the rows that were not restored, and goes with the last of them. -/
  application_eq : after.library.application? application.id =
    if report.applicationDeleted then none
    else some { application with
      rows := reached.filter (!isRestorable service.site ·) ++ rest }
  application_other : ∀ other : Int, other ≠ application.id →
    after.library.application? other = service.library.application? other
  applicationDeleted_iff : report.applicationDeleted ↔
    rest = [] ∧ ∀ row ∈ application.rows, Restorable service.site row

variable {service after : Service} {application : Application} {reached rest : List LedgerRow}
  {report : RollbackReport}

theorem mem_filter_isRestorable {site : Site} {rows : List LedgerRow} {row : LedgerRow} :
    row ∈ rows.filter (isRestorable site) ↔ row ∈ rows ∧ Restorable site row := by
  rw [List.mem_filter, isRestorable_iff]

instance (store : Store) : Std.Symm (Distinct store) where
  symm _ _ h := {
    key := fun change other hchange hother => (h.key other change hother hchange).symm
    plugin := fun plugin hb ha => h.plugin plugin ha hb }

/-- The rows that stay are distinct from the ones that are restored. -/
theorem distinct_of_kept {store : Store} {test : LedgerRow → Bool} {row other : LedgerRow}
    (hdistinct : (reached ++ rest).Pairwise (Distinct store))
    (hother : other ∈ reached.filter test) (hrow : row ∈ reached.filter (!test ·) ++ rest) :
    Distinct store other row := by
  obtain ⟨hreached, -, hrest⟩ := List.pairwise_append.1 hdistinct
  obtain ⟨hother, htest⟩ := List.mem_filter.1 hother
  rcases List.mem_append.1 hrow with hrow | hrow
  · obtain ⟨hrow, hfalse⟩ := List.mem_filter.1 hrow
    refine hreached.forall hother hrow ?_
    rintro rfl
    rw [htest] at hfalse
    cases hfalse
  · exact hrest other hother row hrow

theorem rowByRow_of_outcome {applicationId : Int} (hsound : service.Sound)
    (happlication : service.library.getApplication applicationId = .ok application)
    (hdistinct : application.rows.Pairwise (Distinct service.site.store))
    (hsplit : application.rows = reached ++ rest)
    (houtcome : Outcome service application reached rest report after) :
    RowByRow service application reached rest report after := by
  have hfound := (Library.application_of_getApplication happlication).2
  have hid : (application.id : Int) = applicationId := by simpa using List.find?_some hfound
  have hmem := Library.mem_of_getApplication happlication
  have hlibrary := houtcome.library_eq
  rw [hsplit] at hdistinct
  exact {
    arranged := hsound.arranged application hmem
    restored := houtcome.restored
    failed := houtcome.failed
    skipped := houtcome.skipped
    cancelled_eq := houtcome.cancelled_eq
    get_restored := fun row hrow hrestorable =>
      houtcome.undone.get_restored row (mem_filter_isRestorable.2 ⟨hrow, hrestorable⟩)
    plugin_restored := fun plugin value old hrow hrestorable =>
      houtcome.undone.plugin_restored plugin value old
        (mem_filter_isRestorable.2 ⟨hrow, hrestorable⟩)
    get_kept := fun row hrow change hchange =>
      houtcome.undone.get_other change.key fun other hother written hwritten =>
        (distinct_of_kept hdistinct hother hrow).key written change hwritten hchange
    plugin_kept := fun row hrow plugin hplugin =>
      houtcome.undone.plugin_other plugin fun other hother hsame =>
        (distinct_of_kept hdistinct hother hrow).plugin plugin hsame hplugin
    get_other := fun key hkey => houtcome.undone.get_other key fun row hrow =>
      hkey row (mem_filter_isRestorable.1 hrow).1 (mem_filter_isRestorable.1 hrow).2
    plugin_other := fun plugin hplugin => houtcome.undone.plugin_other plugin fun row hrow =>
      hplugin row (mem_filter_isRestorable.1 hrow).1 (mem_filter_isRestorable.1 hrow).2
    presets_eq := by
      rw [hlibrary]
      split <;> rfl
    application_eq := by
      rw [hlibrary]
      split
      · rw [Library.application_removeApplication, if_pos rfl]
      · rw [Library.application_replaceApplication, if_pos rfl, hid, hfound]
        rfl
    application_other := fun other hother => by
      rw [hlibrary]
      split
      · rw [Library.application_removeApplication, if_neg hother]
      · rw [Library.application_replaceApplication, if_neg hother]
    applicationDeleted_iff := by
      rw [houtcome.applicationDeleted_eq, List.isEmpty_iff, List.append_eq_nil_iff,
        List.filter_eq_nil_iff, and_comm]
      refine and_congr_right fun hrest => ?_
      rw [hsplit, hrest, List.append_nil]
      refine forall₂_congr fun row _ => ?_
      rw [← isRestorable_iff]
      cases isRestorable service.site row <;> simp }

/-- Rollback is safe and complete row by row, in every reachable state and wherever it is cancelled.
It restores the rows that it reaches and whose writes still stand, and touches nothing else. -/
theorem rollback_row_by_row (hreachable : service.Reachable) {applicationId : Int}
    (happlication : service.library.getApplication applicationId = .ok application)
    (hplugins : (application.rows.filterMap LedgerRow.plugin?).Nodup)
    (hlock : service.locked = false)
    (hnumbers : service.site.store.holds service.site.store.nextChangeId)
    {user : Option Int} (huser : service.site.store.accepts user) (cancellation : Cancellation)
    (timeout : Option Int) :
    ∃ rest report after,
      application.rows =
        cancellation.reached (isRestorable service.site) 0 0 application.rows ++ rest ∧
      service.rollback applicationId user cancellation timeout = .ok (report, after) ∧
      RowByRow service application
        (cancellation.reached (isRestorable service.site) 0 0 application.rows) rest report after := by
  have hsound := hreachable.sound
  have hbacks := hsound.backs application (Library.mem_of_getApplication happlication)
  have hdistinct := pairwise_distinct hbacks hplugins
  obtain ⟨snapshot, hsnapshot⟩ := hsound.exists_snapshot
  have hready (row : LedgerRow) (hrow : row ∈ application.rows) : Ready service.site user row := by
    refine ⟨hbacks.tracks row hrow, fun logId hid => ?_, huser, ?_, ?_⟩
    · exact Store.holds_of_le (Nat.le_of_lt ((hbacks.tracks row hrow).lt hid)) hnumbers
    · rw [hsound.readOnly_eq]
      exact fun _ _ => List.not_mem_nil
    · rw [hsound.pinned_eq]
      exact fun _ _ => List.not_mem_nil
  obtain ⟨rest, report, after, hsplit, hrollback, houtcome⟩ :=
    exists_outcome cancellation timeout happlication hlock hsnapshot hready hdistinct
  exact ⟨rest, report, after, hsplit, hrollback,
    rowByRow_of_outcome hsound happlication hdistinct hsplit houtcome⟩

end Rollback

namespace SmallSite

/-- The service after an apply, and after somebody has written one of its keys since. -/
def later : Service :=
  (service.after (.apply 2 {} none)).after (.site (.set notice (some "open") none))

theorem reachable_later : later.Reachable :=
  .step _ (.step _ (.start service_fresh) trivial) trivial

def application : Application where
  id := 1
  presetId := 2
  user := none
  timeApplied := 0
  rows := [.setting 1, .setting 2, .facet 3 "comments" .advanced, .plugin chat 0 1]

theorem rollback_later :
    ∃ rest report after,
      application.rows = Cancellation.reached (.beforeRow 3) (Rollback.isRestorable later.site) 0 0
        application.rows ++ rest ∧
      later.rollback 1 none (.beforeRow 3) none = .ok (report, after) ∧
      Rollback.RowByRow later application
        (Cancellation.reached (.beforeRow 3) (Rollback.isRestorable later.site) 0 0 application.rows)
        rest report after :=
  Rollback.rollback_row_by_row reachable_later (by decide) (by decide) (by decide) (by decide) rfl
    (.beforeRow 3) none

/-- The small site over a database, after an apply. -/
def keptService : Service :=
  newService.after (.apply 1 {} none)

/-- Every row of the application stands, but the database has no place for the user of the rollback, and
refuses what it writes. -/
theorem rollback_of_wide_user :
    keptService.Reachable ∧
      (∀ row ∈ [LedgerRow.setting 1, .facet 2 "comments" .advanced],
        Rollback.isRestorable keptService.site row) ∧
        keptService.library.applications.map Application.rows =
            [[.setting 1, .facet 2 "comments" .advanced]] ∧
          (keptService.rollback 1 wideUser .never none).toOption.map (fun result =>
              (result.1.restored.length, result.1.failed.length, result.1.applicationDeleted)) =
            some (0, 2, false) :=
  ⟨.step _ (.start newService_fresh) trivial, by decide +kernel, by decide +kernel, by decide +kernel⟩

/-- The value that was written over is not restorable. -/
example : application.rows.filter (Rollback.isRestorable later.site) =
    [.setting 2, .facet 3 "comments" .advanced, .plugin chat 0 1] := by
  decide

end SmallSite

end SitePresets
