import SitePresets.Proofs.Rollback.Rows

/-!
# Rolling an application back

What a rollback leaves behind as a whole: the site, the report, and what is left of the application in
the library.
-/

namespace SitePresets

namespace Library

theorem id_ne_next {library : Library} {other : Application} (hother : other ∈ library.applications) :
    other.id ≠ library.nextApplicationId := by
  have hlt := Numbering.lt_next (List.mem_map_of_mem (f := Application.id) hother)
  intro heq
  rw [heq] at hlt
  exact Nat.lt_irrefl _ hlt

/-- A new application is found by its number. -/
theorem getApplication_of_new {library current : Library} {application : Application}
    (hid : application.id = library.nextApplicationId)
    (happlications : current.applications = library.applications ++ [application])
    (hfits : fitsColumn application.id) :
    current.getApplication application.id = .ok application := by
  have hfound : current.application? application.id = some application := by
    unfold application?
    rw [happlications, List.find?_append, List.find?_eq_none.2]
    · simp
    · intro other hother heq
      exact id_ne_next hother ((Int.natCast_inj.1 (of_decide_eq_true heq)).trans hid)
  have hcheck : checkNumber application.id = .ok () := checkNumber_eq_ok.2 hfits
  unfold getApplication
  rw [hcheck, ok_bind, hfound]
  rfl

variable (library : Library)

theorem application_removeApplication (id : Nat) (other : Int) :
    (library.removeApplication id).application? other =
      if other = id then none else library.application? other := by
  unfold removeApplication application?
  rw [List.find?_filter]
  split
  · rename_i heq
    refine List.find?_eq_none.2 fun application _ => ?_
    simp only [decide_eq_true_eq, not_and, heq]
    omega
  · rename_i hne
    refine congrArg (List.find? · library.applications) (funext fun application => ?_)
    by_cases h : (application.id : Int) = other
    · have hid : application.id ≠ id := by
        rintro rfl
        exact hne h.symm
      simp [h, hid]
    · simp [h]

theorem application_replaceApplication (application : Application) (other : Int) :
    (library.replaceApplication application).application? other =
      if other = application.id then (library.application? other).map fun _ => application
      else library.application? other := by
  unfold replaceApplication application?
  rw [List.find?_map]
  have hid (found : Application) :
      (if found.id = application.id then application else found).id = found.id := by
    split
    · rename_i h
      exact h.symm
    · rfl
  simp only [Function.comp_def, hid]
  cases hfind : library.applications.find? fun found => (found.id : Int) = other with
  | none => simp
  | some found =>
    have hfound : (found.id : Int) = other := by simpa using List.find?_some hfind
    simp only [Option.map_some]
    by_cases h : found.id = application.id
    · have hother : other = application.id := by omega
      rw [if_pos h, if_pos hother]
    · have hother : other ≠ application.id := by omega
      rw [if_neg h, if_neg hother]

end Library

namespace Rollback

/-- What rolling an application back has come to. The run has reached some rows and not the rest. -/
structure Outcome (service : Service) (application : Application) (reached rest : List LedgerRow)
    (report : RollbackReport) (after : Service) : Prop where
  undone : Undone service.site (reached.filter (isRestorable service.site)) after.site
  restored : List.Forall₂ (Reports [.restored])
    (reached.filter (isRestorable service.site)) report.restored
  failed : List.Forall₂ (Reports [.failed, .diverged])
    (reached.filter (!isRestorable service.site ·)) report.failed
  skipped : List.Forall₂ (Reports [.cancelled]) rest report.skipped
  cancelled_eq : report.cancelled = !rest.isEmpty
  applicationDeleted_eq : report.applicationDeleted =
    (reached.filter (!isRestorable service.site ·) ++ rest).isEmpty
  library_eq : after.library =
    if report.applicationDeleted then service.library.removeApplication application.id
    else service.library.replaceApplication { application with
      rows := reached.filter (!isRestorable service.site ·) ++ rest }
  service_eq : after = { service with site := after.site, library := after.library }

theorem rollback_of_run {service : Service} {applicationId : Int} {application : Application}
    {user : Option Int} {cancellation : Cancellation} {state : State} (timeout : Option Int)
    (happlication : service.library.getApplication applicationId = .ok application)
    (hlock : service.locked = false)
    (hrun : run user cancellation service.site application = .ok state) :
    service.rollback applicationId user cancellation timeout = .ok (state.report, {
      service with
      site := state.site
      library :=
        if state.report.applicationDeleted then service.library.removeApplication application.id
        else service.library.replaceApplication { application with rows := state.kept } }) := by
  unfold Service.rollback
  rw [leaving_eq_ok.2 happlication, ok_bind, leaving_eq_ok.2 (Service.checkLock_eq_ok.2 hlock),
    ok_bind, mapError_eq_ok.2 hrun]
  rfl

theorem pairwise_distinct {store : Store} {rows : List LedgerRow} (hbacks : store.Backs rows)
    (hplugins : (rows.filterMap LedgerRow.plugin?).Nodup) : rows.Pairwise (Distinct store) := by
  rw [List.Nodup, List.pairwise_filterMap] at hplugins
  exact hbacks.apart.imp₂ (fun a b hkey hplugin =>
    ⟨hkey, fun plugin ha hb => hplugin plugin ha plugin hb rfl⟩) hplugins

/-- A rollback of an application whose rows can be restored independently of one another. -/
theorem exists_outcome {service : Service} {applicationId : Int} {application : Application}
    {snapshot : Snapshot} {user : Option Int} (cancellation : Cancellation) (timeout : Option Int)
    (happlication : service.library.getApplication applicationId = .ok application)
    (hlock : service.locked = false) (hsnapshot : Snapshot.ofSite service.site = .ok snapshot)
    (hready : ∀ row ∈ application.rows, Ready service.site user row)
    (hdistinct : application.rows.Pairwise (Distinct service.site.store)) :
    ∃ rest report after,
      application.rows =
        cancellation.reached (isRestorable service.site) 0 0 application.rows ++ rest ∧
      service.rollback applicationId user cancellation timeout = .ok (report, after) ∧
      Outcome service application
        (cancellation.reached (isRestorable service.site) 0 0 application.rows) rest report after := by
  obtain ⟨rest, state, hsplit, hrows, houtcome⟩ := restoreRows_outcome hsnapshot cancellation 0
    { site := service.site
      report := { applicationId := application.id, presetId := application.presetId } }
    (.refl _) hready hdistinct rfl
  have hrun : run user cancellation service.site application = .ok { state with
      report := { state.report with applicationDeleted := state.kept.isEmpty } } := by
    unfold run
    rw [leaving_eq_ok.2 hsnapshot, ok_bind, hrows]
    rfl
  have hkept : state.kept = _ := houtcome.kept_eq
  obtain ⟨restored, hrestored, hreports⟩ := houtcome.restored
  obtain ⟨failed, hfailed, hfails⟩ := houtcome.failed
  rw [List.nil_append] at hrestored hfailed hkept
  refine ⟨rest, _, _, hsplit, rollback_of_run timeout happlication hlock hrun, ?_⟩
  exact {
    undone := houtcome.undone
    restored := hrestored ▸ hreports
    failed := hfailed ▸ hfails
    skipped := houtcome.skipped
    cancelled_eq := houtcome.cancelled_eq
    applicationDeleted_eq := by
      rw [← hkept]
    library_eq := by
      rw [← hkept]
    service_eq := rfl }

end Rollback

end SitePresets
