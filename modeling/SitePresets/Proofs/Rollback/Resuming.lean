import SitePresets.Proofs.Rollback.Passing
import SitePresets.Proofs.Rollback.RowByRow

/-!
# Resuming a rollback

A rollback that was cancelled can be resumed: the next one, over the rows that are left, comes to what one
rollback would have come to. One that was not cancelled leaves nothing to do.
-/

namespace SitePresets

namespace Library

variable {library : Library}

theorem replaceApplication_replaceApplication (application other : Application)
    (hid : other.id = application.id) :
    (library.replaceApplication application).replaceApplication other =
      library.replaceApplication other := by
  unfold replaceApplication
  rw [Library.mk.injEq, List.map_map]
  refine ⟨rfl, List.map_congr_left fun found _ => ?_⟩
  rw [Function.comp_apply, hid]
  by_cases h : found.id = application.id
  · rw [if_pos h, if_pos h, if_pos rfl]
  · rw [if_neg h, if_neg h]

theorem removeApplication_replaceApplication (application : Application) :
    (library.replaceApplication application).removeApplication application.id =
      library.removeApplication application.id := by
  unfold replaceApplication removeApplication
  rw [Library.mk.injEq, List.filter_map]
  refine ⟨rfl, ?_⟩
  have hid (found : Application) :
      (if found.id = application.id then application else found).id = found.id := by
    split
    · rename_i h
      exact h.symm
    · rfl
  simp only [Function.comp_def, hid]
  refine (List.map_congr_left fun found hfound => ?_).trans (List.map_id _)
  exact if_neg (of_decide_eq_true (List.mem_filter.1 hfound).2)

theorem getApplication_replaceApplication {id : Int} {application other : Application}
    (h : library.getApplication id = .ok application) (hid : other.id = application.id) :
    (library.replaceApplication other).getApplication id = .ok other := by
  obtain ⟨hfits, hfound⟩ := application_of_getApplication h
  have hsame : (application.id : Int) = id := by simpa using List.find?_some hfound
  have hother : (library.replaceApplication other).application? id = some other := by
    rw [application_replaceApplication, if_pos (by rw [hid, hsame]), hfound]
    rfl
  have hcheck : checkNumber id = .ok () := checkNumber_eq_ok.2 hfits
  unfold getApplication
  rw [hcheck, ok_bind, hother]
  rfl

end Library

namespace Rollback

/-! ### A run and its passes -/

variable {user : Option Int} {snapshot : Snapshot} {start site middle after : Site}
  {rows rest : List LedgerRow} {passed first second : Passed} {prior : List Change} {state out : State}

/-- What a run that passes over some rows, and not over the rest, has made of its state. -/
structure Comes (state : State) (passed : Passed) (rest : List LedgerRow) (site : Site)
    (out : State) : Prop where
  site_eq : out.site = site
  kept_eq : out.kept = state.kept ++ passed.kept ++ rest
  restored_eq : out.report.restored = state.report.restored ++ passed.restored
  failed_eq : out.report.failed = state.report.failed ++ passed.failed

theorem exists_cancel (hlogged : AllLogged start.store rows) (hprior : start.WroteAll prior state.site) :
    ∃ out, state.cancel rows = .ok out ∧ Comes state {} rows state.site out := by
  have hentry (row : LedgerRow) (hrow : row ∈ rows) :
      ∃ entry, cancelledEntry state.site row = .ok entry ∧ True := by
    obtain ⟨logId, found, hfound⟩ := hlogged row hrow
    exact ⟨_, cancelledEntry_eq hfound.id_eq (hfound.change_later hprior), trivial⟩
  obtain ⟨entries, -, hcancel⟩ := cancel_of_entries hentry
  refine ⟨_, hcancel, ?_⟩
  exact ⟨rfl, by simp, (List.append_nil _).symm, (List.append_nil _).symm⟩

theorem Comes.restore {entry : Entry} {next : Site}
    (h : Comes (state.restored entry next) passed rest site out) :
    Comes state { passed with restored := entry :: passed.restored } rest site out where
  site_eq := h.site_eq
  kept_eq := h.kept_eq
  restored_eq := by simpa [State.restored] using h.restored_eq
  failed_eq := h.failed_eq

theorem Comes.fail {entry : Entry} {row : LedgerRow}
    (h : Comes (state.failed entry row) passed rest site out) :
    Comes state { passed with failed := entry :: passed.failed, kept := row :: passed.kept } rest site
      out where
  site_eq := h.site_eq
  kept_eq := by simpa [State.failed] using h.kept_eq
  restored_eq := h.restored_eq
  failed_eq := by simpa [State.failed] using h.failed_eq

/-- A pass that is divided: one over some rows, and one over the rest. -/
structure Divided (user : Option Int) (snapshot : Snapshot) (site : Site) (rows : List LedgerRow)
    (passed : Passed) (after : Site) (reached rest : List LedgerRow) (first second : Passed)
    (middle : Site) : Prop where
  rows_eq : rows = reached ++ rest
  passed_eq : passed = first.append second
  reached : Pass user snapshot site reached first middle
  rest : Pass user snapshot middle rest second after

/-- A run goes along the pass over its rows, up to where it is cancelled. -/
theorem restoreRows_of_pass (hpass : Pass user snapshot site rows passed after)
    (hsnapshot : Snapshot.ofSite start = .ok snapshot) (hlogged : AllLogged start.store rows)
    (hprior : start.WroteAll prior site) (cancellation : Cancellation) (index : Nat) (state : State)
    (hstate : state.site = site) :
    ∃ reached rest first second middle out,
      Divided user snapshot site rows passed after reached rest first second middle ∧
      (cancellation = .never → rest = []) ∧
      restoreRows user cancellation snapshot index state rows = .ok out ∧
      Comes state first rest middle out := by
  -- Where the run is cancelled, it has passed over nothing more.
  have hstop {rows : List LedgerRow} {passed : Passed} {prior : List Change} {state : State}
      (hpass : Pass user snapshot state.site rows passed after) (hlogged : AllLogged start.store rows)
      (hprior : start.WroteAll prior state.site) {index : Nat}
      (hdue : cancellation.isDue index state.writes = true) :
      ∃ reached rest first second middle out,
        Divided user snapshot state.site rows passed after reached rest first second middle ∧
        (cancellation = .never → rest = []) ∧
        leaving state.site (state.cancel rows) = .ok out ∧ Comes state first rest middle out := by
    obtain ⟨out, hout, hcomes⟩ := exists_cancel hlogged hprior
    refine ⟨[], rows, {}, passed, state.site, out, ⟨rfl, rfl, .nil, hpass⟩, ?_,
      leaving_eq_ok.2 hout, hcomes⟩
    rintro rfl
    cases hdue
  induction hpass generalizing prior index state with
  | @nil site =>
    refine ⟨[], [], {}, {}, site, state, ⟨rfl, rfl, .nil, .nil⟩, fun _ => rfl, rfl, ?_⟩
    exact ⟨hstate, by simp, (List.append_nil _).symm, (List.append_nil _).symm⟩
  | @restored site next after row rest entry passed hrow hrest ih =>
    subst hstate
    unfold restoreRows
    split
    · rename_i hdue
      exact hstop (.restored hrow hrest) hlogged hprior hdue
    · obtain ⟨logId, found, hfound⟩ := hlogged row List.mem_cons_self
      obtain ⟨written, change, -, hwrote, -⟩ :=
        ((restoreRow_iff hfound hprior).1 hrow).wrote hsnapshot hfound
      obtain ⟨reached, more, first, second, middle, out, hdivided, hnever, hout, hcomes⟩ :=
        ih hlogged.of_cons (hprior.append (.of_wrote hwrote)) (index + 1)
          (state.restored entry next) rfl hstop
      rw [leaving_eq_ok.2 hrow, ok_bind]
      refine ⟨row :: reached, more, _, second, middle, out, ⟨congrArg (row :: ·) hdivided.rows_eq, ?_,
        .restored hrow hdivided.reached, hdivided.rest⟩, hnever, hout, hcomes.restore⟩
      rw [hdivided.passed_eq]
      rfl
  | @failed site after row rest entry passed hrow hrest ih =>
    subst hstate
    unfold restoreRows
    split
    · rename_i hdue
      exact hstop (.failed hrow hrest) hlogged hprior hdue
    · obtain ⟨reached, more, first, second, middle, out, hdivided, hnever, hout, hcomes⟩ :=
        ih hlogged.of_cons hprior (index + 1) (state.failed entry row) rfl hstop
      rw [leaving_eq_ok.2 hrow, ok_bind]
      refine ⟨row :: reached, more, _, second, middle, out, ⟨congrArg (row :: ·) hdivided.rows_eq, ?_,
        .failed hrow hdivided.reached, hdivided.rest⟩, hnever, hout, hcomes.fail⟩
      rw [hdivided.passed_eq]
      rfl

/-! ### Services -/

/-- A service of whose application some rows are left. -/
def leaves (service : Service) (application : Application) (site : Site) (rows : List LedgerRow) :
    Service :=
  { service with
    site
    library :=
      if rows.isEmpty then service.library.removeApplication application.id
      else service.library.replaceApplication { application with rows } }

variable {service : Service} {application : Application} {applicationId : Int} {timeout : Option Int}

theorem leaves_leaves (hrows : rows.isEmpty = false) :
    leaves (leaves service application middle rows) { application with rows } after rest =
      leaves service application after rest := by
  unfold leaves
  dsimp only
  rw [hrows, if_neg Bool.false_ne_true]
  split
  · exact congrArg (fun library => { service with site := after, library })
      (Library.removeApplication_replaceApplication { application with rows })
  · exact congrArg (fun library => { service with site := after, library })
      (Library.replaceApplication_replaceApplication { application with rows }
        { application with rows := rest } rfl)

theorem getApplication_leaves (site : Site)
    (happlication : service.library.getApplication applicationId = .ok application)
    (hrows : rows.isEmpty = false) :
    (leaves service application site rows).library.getApplication applicationId =
      .ok { application with rows } := by
  unfold leaves
  dsimp only
  rw [hrows, if_neg Bool.false_ne_true]
  exact Library.getApplication_replaceApplication happlication rfl

theorem AllLogged.later {changes : List Change} (h : AllLogged site.store rows)
    (hwrote : site.WroteAll changes after) : AllLogged after.store rows := by
  intro row hrow
  obtain ⟨logId, found, hfound⟩ := h row hrow
  exact ⟨logId, found, hfound.id_eq, (Store.Later.of_wroteAll hwrote).tracks hfound.tracks,
    hfound.change_later hwrote⟩

section Service

variable (happlication : service.library.getApplication applicationId = .ok application)
  (hlock : service.locked = false) (hsnapshot : Snapshot.ofSite service.site = .ok snapshot)
  (hlogged : AllLogged service.site.store application.rows)
  (hpass : Pass user snapshot service.site application.rows passed after)

include happlication hlock hsnapshot hlogged hpass

theorem rollback_of_pass (cancellation : Cancellation) (timeout : Option Int) :
    ∃ reached rest first second middle report,
      Divided user snapshot service.site application.rows passed after reached rest first second
        middle ∧
      (cancellation = .never → rest = []) ∧
      service.rollback applicationId user cancellation timeout =
        .ok (report, leaves service application middle (first.kept ++ rest)) ∧
      report.restored = first.restored ∧ report.failed = first.failed ∧
      report.applicationDeleted = (first.kept ++ rest).isEmpty := by
  obtain ⟨reached, rest, first, second, middle, out, hdivided, hnever, hout, hcomes⟩ :=
    restoreRows_of_pass hpass hsnapshot hlogged .nil cancellation 0
      { site := service.site
        report := { applicationId := application.id, presetId := application.presetId } } rfl
  have hrun : run user cancellation service.site application = .ok { out with
      report := { out.report with applicationDeleted := out.kept.isEmpty } } := by
    unfold run
    rw [leaving_eq_ok.2 hsnapshot, ok_bind, hout]
    rfl
  have hkept : out.kept = first.kept ++ rest := hcomes.kept_eq
  have hrollback := rollback_of_run timeout happlication hlock hrun
  rw [hkept, hcomes.site_eq] at hrollback
  exact ⟨reached, rest, first, second, middle, _, hdivided, hnever, hrollback, hcomes.restored_eq,
    hcomes.failed_eq, rfl⟩

/-- A rollback that is not cancelled goes along the whole pass. -/
theorem rollback_of_whole_pass (timeout : Option Int) :
    ∃ report, service.rollback applicationId user .never timeout =
        .ok (report, leaves service application after passed.kept) ∧
      report.restored = passed.restored ∧ report.failed = passed.failed ∧
      report.applicationDeleted = passed.kept.isEmpty := by
  obtain ⟨reached, rest, first, second, middle, report, hdivided, hnever, hrollback, hrestored,
    hfailed, hdeleted⟩ := rollback_of_pass happlication hlock hsnapshot hlogged hpass .never timeout
  obtain rfl := hnever rfl
  obtain ⟨rfl, rfl⟩ := hdivided.rest.eq_of_nil
  have hpassed : passed = first := by
    rw [hdivided.passed_eq]
    unfold Passed.append
    simp only [List.append_nil]
  rw [hpassed]
  rw [List.append_nil] at hrollback hdeleted
  exact ⟨report, hrollback, hrestored, hfailed, hdeleted⟩

end Service

/-- A rollback of the rows that are left. -/
theorem rollback_of_left (happlication : service.library.getApplication applicationId = .ok application)
    (hlock : service.locked = false) (hrows : rows.isEmpty = false)
    (hsnapshot : Snapshot.ofSite site = .ok snapshot) (hlogged : AllLogged site.store rows)
    (hpass : Pass user snapshot site rows passed after) (timeout : Option Int) :
    ∃ report, (leaves service application site rows).rollback applicationId user .never timeout =
        .ok (report, leaves service application after passed.kept) ∧
      report.restored = passed.restored ∧ report.failed = passed.failed ∧
      report.applicationDeleted = passed.kept.isEmpty := by
  have hleft := getApplication_leaves site happlication hrows
  obtain ⟨report, hrollback, hreport⟩ :=
    rollback_of_whole_pass hleft hlock hsnapshot hlogged hpass timeout
  rw [leaves_leaves hrows] at hrollback
  exact ⟨report, hrollback, hreport⟩

/-- How a rollback that may have been cancelled compares with one that was not. -/
structure Resumes (applicationId : Int) (user : Option Int) (timeout : Option Int)
    (first : RollbackReport) (middle : Service) (whole : RollbackReport) (after : Service) : Prop where
  /-- If the first deleted the application, it was whole. -/
  deleted : first.applicationDeleted = true → middle = after ∧ first.restored = whole.restored
  /-- Otherwise it can be resumed: the two leave the same service, with the same site, the same log and
  the same rows in the ledger, and in total they restore the same rows. -/
  resumed : first.applicationDeleted = false →
    ∃ second, middle.rollback applicationId user .never timeout = .ok (second, after) ∧
      whole.restored = first.restored ++ second.restored ∧ second.failed = whole.failed ∧
        second.applicationDeleted = whole.applicationDeleted
  /-- What a whole rollback has left behind, it leaves behind when it is repeated. -/
  repeated : whole.applicationDeleted = false →
    ∃ again, after.rollback applicationId user .never timeout = .ok (again, after) ∧
      again.restored = [] ∧ again.failed = whole.failed

theorem resumes_of_pass {report whole : RollbackReport} {reached : List LedgerRow}
    (happlication : service.library.getApplication applicationId = .ok application)
    (hlock : service.locked = false) (hsnapshot : Snapshot.ofSite service.site = .ok snapshot)
    (hlogged : AllLogged service.site.store application.rows)
    (hapart : application.rows.Pairwise service.site.store.RowsApart)
    (hpass : Pass user snapshot service.site application.rows passed after)
    (hdivided : Divided user snapshot service.site application.rows passed after reached rest first
      second middle)
    (hfirst : report.restored = first.restored)
    (hdeleted : report.applicationDeleted = (first.kept ++ rest).isEmpty)
    (hwhole : whole.restored = passed.restored) (hfailed : whole.failed = passed.failed)
    (hwholeDeleted : whole.applicationDeleted = passed.kept.isEmpty) :
    Resumes applicationId user timeout report (leaves service application middle (first.kept ++ rest))
      whole (leaves service application after passed.kept) where
  deleted := by
    intro h
    rw [hdeleted, List.isEmpty_iff, List.append_eq_nil_iff] at h
    obtain ⟨hkept, rfl⟩ := h
    obtain ⟨rfl, rfl⟩ := hdivided.rest.eq_of_nil
    rw [hwhole, hfirst, hdivided.passed_eq]
    unfold Passed.append
    simp only [List.append_nil, and_self]
  resumed := by
    intro h
    rw [hdeleted] at h
    rw [hdivided.rows_eq] at hlogged hapart
    have hreached : AllLogged service.site.store reached := fun row hrow =>
      hlogged row (List.mem_append_left rest hrow)
    obtain ⟨changes, hchanges, -⟩ := hdivided.reached.wrote hsnapshot hreached .nil
    obtain ⟨later, hlater⟩ := hchanges.keeps.exists_ofSite hchanges.staysReadable hsnapshot
    have hleft : AllLogged service.site.store (first.kept ++ rest) := fun row hrow =>
      hlogged row (((hdivided.reached.kept_sublist).append_right rest).subset hrow)
    obtain ⟨second, hrollback, hrestored, hreport, hgone⟩ := rollback_of_left happlication hlock h
      hlater (hleft.later hchanges)
      (hdivided.reached.resume hsnapshot hdivided.rest hlater hlogged hapart) timeout
    rw [hwhole, hfailed, hwholeDeleted, hfirst, hdivided.passed_eq]
    exact ⟨second, hrollback, by rw [hrestored]; rfl, hreport, hgone⟩
  repeated := by
    intro h
    rw [hwholeDeleted] at h
    obtain ⟨changes, hchanges, -⟩ := hpass.wrote hsnapshot hlogged .nil
    obtain ⟨later, hlater⟩ := hchanges.keeps.exists_ofSite hchanges.staysReadable hsnapshot
    have hkept : AllLogged service.site.store passed.kept := fun row hrow =>
      hlogged row (hpass.kept_sublist.subset hrow)
    obtain ⟨again, hrollback, hrestored, hreport, -⟩ := rollback_of_left happlication hlock h
      hlater (hkept.later hchanges) (hpass.keeps_again hsnapshot hlater hlogged hapart) timeout
    exact ⟨again, hrollback, hrestored, hreport.trans hfailed.symm⟩

/-- A cancelled rollback can be resumed, in every reachable state and wherever it is cancelled: together
with the next one it comes to what one rollback would have come to. -/
theorem rollback_resumes (hreachable : service.Reachable)
    (happlication : service.library.getApplication applicationId = .ok application)
    (hplain : ∀ row ∈ application.rows, row.plugin? = none) (hlock : service.locked = false)
    (hnumbers : service.site.store.holds service.site.store.nextChangeId) (user : Option Int)
    (cancellation : Cancellation) (timeout : Option Int) :
    ∃ whole after first middle,
      service.rollback applicationId user .never timeout = .ok (whole, after) ∧
      service.rollback applicationId user cancellation timeout = .ok (first, middle) ∧
      Resumes applicationId user timeout first middle whole after := by
  have hsound := hreachable.sound
  have hbacks := hsound.backs application (Library.mem_of_getApplication happlication)
  obtain ⟨snapshot, hsnapshot⟩ := hsound.exists_snapshot
  have hlogged : AllLogged service.site.store application.rows := fun row hrow =>
    exists_logged (hbacks.tracks row hrow) (hplain row hrow) fun logId hid =>
      Store.holds_of_le (Nat.le_of_lt ((hbacks.tracks row hrow).lt hid)) hnumbers
  obtain ⟨passed, site, hpass⟩ := exists_pass user hsnapshot hlogged .nil
  obtain ⟨whole, hwhole, hrestored, hfailed, hgone⟩ :=
    rollback_of_whole_pass happlication hlock hsnapshot hlogged hpass timeout
  obtain ⟨reached, rest, first, second, middle, report, hdivided, -, hrollback, hfirst, -, hdeleted⟩ :=
    rollback_of_pass happlication hlock hsnapshot hlogged hpass cancellation timeout
  exact ⟨whole, _, report, _, hwhole, hrollback, resumes_of_pass happlication hlock hsnapshot hlogged
    hbacks.apart hpass hdivided hfirst hdeleted hrestored hfailed hgone⟩

end Rollback

namespace SmallSite

/-- The service after an apply that has set no plugin, and after somebody has written one of its keys. -/
def meddled : Service :=
  (service.after (.apply 1 {} none)).after (.site (.set notice (some "open") none))

theorem reachable_meddled : meddled.Reachable :=
  .step _ (.step _ (.start service_fresh) trivial) trivial

/-- The run is cancelled after one write: the first row has diverged, the second is restored, and the
facet is left to the next run. -/
theorem meddled_resumes :
    ∃ whole after first middle, meddled.rollback 1 none .never none = .ok (whole, after) ∧
      meddled.rollback 1 none (.afterWrites 1) none = .ok (first, middle) ∧
      Rollback.Resumes 1 none none first middle whole after := by
  have happlication : meddled.library.getApplication 1 =
      .ok ⟨1, 1, none, 0, [.setting 1, .setting 2, .facet 3 "comments" .advanced]⟩ := by
    decide
  exact Rollback.rollback_resumes reachable_meddled happlication (by decide) (by decide) rfl none
    (.afterWrites 1) none

end SmallSite

end SitePresets
