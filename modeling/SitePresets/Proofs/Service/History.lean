import SitePresets.Proofs.Service.Advance
import SitePresets.Proofs.Store.History

/-!
# The log of a service is its history

Every step of a session only continues the history of the store: an operation that writes goes through
the log, and one that fails leaves the database as it was. So the log of a database that was empty once
tells all of its values.
-/

namespace SitePresets

theorem Site.Evolves.extends {site after : Site} (h : site.Evolves after) :
    site.store.Extends after.store := by
  induction h with
  | refl site => exact .refl _
  | wrote hwrote => exact .of_wrote hwrote.store
  | switched hswitches => exact .of_sameValues hswitches.values
  | trans _ _ hfirst hrest => exact hfirst.trans hrest

/-- A step that does not reach around the log: it forgets nothing of it, and it puts no rows beside
it. -/
def Step.Logged : Step → Prop
  | .world (.truncateLog _) | .world (.poke _ _) => False
  | _ => True

theorem Step.Logged.within {step : Step} (h : step.Logged) : step.Within {} := by
  cases step with
  | site | apply | rollback => trivial
  | library step => cases step <;> simp [Step.Within]
  | world step =>
    cases step with
    | truncateLog | poke => exact h.elim
    | _ => trivial

namespace Service

variable {limits : Limits} {service after : Service}

/-- The history of a service is only continued. -/
def Extends (service after : Service) : Prop :=
  service.site.store.Extends after.site.store

theorem Advances.extends (h : service.Advances limits after) : service.Extends after := by
  unfold Extends
  induction h with
  | settled hsite => exact hsite ▸ .refl _
  | declared | guarded | library => exact .refl _
  | site hsite => exact hsite.extends
  | applied _ hrun =>
    rw [site_record]
    exact (Apply.evolves_run hrun).extends
  | trans _ _ hfirst hrest => exact hfirst.trans hrest

theorem Becomes.extends (h : service.Becomes limits after) : service.Extends after := by
  cases h with
  | advanced h => exact h.extends
  | reduced hsite => exact hsite.extends
  | deleted => exact Store.Extends.refl _

/-- Every step only continues the history, also one that fails. -/
theorem Extends.of_step (service : Service) {step : Step} (hlogged : step.Logged) :
    service.Extends (service.after step) :=
  Becomes.extends (.of_step (fun _ _ => trivial) (fun _ => trivial) hlogged.within)

theorem Extends.of_run (service : Service) {steps : List Step} (hlogged : ∀ step ∈ steps, step.Logged) :
    service.Extends (service.run steps).2 := by
  induction steps generalizing service with
  | nil => exact Store.Extends.refl _
  | cons step rest ih =>
    have hstep := Extends.of_step service (hlogged step List.mem_cons_self)
    exact Store.Extends.trans hstep (ih _ fun step hstep => hlogged step (List.mem_cons_of_mem _ hstep))

end Service

/-- A database whose log is a complete history of its contents. -/
structure Rows.History (rows : Rows) (changes : List Change) (contents : Contents) : Prop where
  get_eq : ∀ key, rows.get key = .ok (contents key)
  read_eq : rows.log.mapM readRow = .ok changes
  ids_eq : rows.log.map LogRow.id = List.range' 1 rows.log.length
  /-- Each change starts from what the one before it has left under its key. -/
  chained : Change.Chained changes
  last_eq : ∀ key, contents key = Change.lastOf changes key
  redo_eq : changes.foldl Change.redo Contents.blank = contents
  undo_eq : changes.foldr Change.undo contents = Contents.blank

theorem Store.Records.history {rows : Rows} {changes : List Change}
    (h : (Store.rows rows).Records changes) : rows.History changes (Change.lastOf changes) where
  get_eq := h.get_eq
  read_eq := Store.changes_rows.1 h.changes_eq
  ids_eq := by
    have hids := Store.ids_of_readRows (mapM_eq_ok.1 (Store.changes_rows.1 h.changes_eq))
    have hlength : rows.log.length = changes.length := by
      simpa using congrArg List.length hids
    rw [hids, h.ids_eq, hlength]
  chained := h.chained
  last_eq _ := rfl
  redo_eq := Change.foldl_redo changes
  undo_eq := Change.foldr_undo h.chained

/-- A session that starts with an empty database leaves one whose log is its history. -/
theorem Service.log_is_history {service : Service} {start : Rows}
    (hstart : service.site.store = .rows start) (hvalues : start.values = .empty)
    (hlog : start.log = []) {steps : List Step} (hlogged : ∀ step ∈ steps, step.Logged) :
    ∃ rows changes contents, (service.run steps).2.site.store = .rows rows ∧
      rows.History changes contents := by
  have hextends : service.site.store.Extends (service.run steps).2.site.store :=
    Extends.of_run service hlogged
  rw [hstart] at hextends
  obtain ⟨rows, hrows⟩ := hextends.exists_rows
  obtain ⟨changes, hrecords⟩ := hextends.records [] (.of_empty hvalues hlog)
  rw [List.nil_append, hrows] at hrecords
  exact ⟨rows, changes, _, hrows, hrecords.history⟩

namespace SmallSite

/-- A value is written and removed, a preset is applied and rolled back, and a write is refused. -/
def busySteps : List Step := [
  .site (.set notice (some "open") none),
  .site (.set notice none (some 7)),
  .apply 2 {} none,
  .rollback 1 none .never none,
  .site (.set notice (some "late") (some 9223372036854775808))]

theorem busy_log_is_history :
    ∃ rows changes contents, (newService.run busySteps).2.site.store = .rows rows ∧
      rows.History changes contents :=
  Service.log_is_history rfl rfl rfl (by simp [busySteps, Step.Logged])

end SmallSite

end SitePresets
