import SitePresets.Proofs.Apply.Outcome
import SitePresets.Proofs.Rollback.Inverse
import SitePresets.Proofs.Service.Moving

/-!
# Stacks of applications

Applies that are rolled back in the order of a stack leave every value as it was before them. What
carries the induction is that the rollbacks of later applies return the service to where their
applies found it, so that every write of the apply below still stands.
-/

namespace SitePresets

/-- A preset that assigns values, and nothing to plugins. -/
structure Preset.Plain (preset : Preset) : Prop where
  values : ∀ row ∈ preset.items, row.item.value.isSome
  plugins_eq : preset.plugins = []

/-- A library whose preset with a number is plain, if it has one. -/
def Library.PlainAt (library : Library) (id : Int) : Prop :=
  ∀ preset ∈ library.presets, (preset.id : Int) = id → preset.Plain

theorem Library.PlainAt.record {library after : Library} {now : Int} {preset : Preset}
    {user : Option Int} {rows : List LedgerRow} {application : Application} {id : Int}
    (h : library.PlainAt id) (hpreset : preset ∈ library.presets)
    (hrecord : library.recordApplication now preset user rows = .ok (application, after)) :
    after.PlainAt id := by
  obtain ⟨-, -, -, -, hpresets⟩ := recordApplication_eq_ok hrecord
  intro other hother hid
  rw [hpresets] at hother
  obtain ⟨old, hold, rfl⟩ := List.mem_map.1 hother
  split at hid
  · rename_i hsame
    have hplain := h preset hpreset hid
    rw [if_pos hsame]
    exact ⟨hplain.values, hplain.plugins_eq⟩
  · rename_i hsame
    rw [if_neg hsame]
    exact h old hold hid

structure ApplyCall where
  preset : Int
  request : ApplyRequest
  timeout : Option Int

namespace Service

/-- The application that an apply has created, if any. -/
def created? : Except Error ApplyReport → Option Nat
  | .ok report => report.applicationId
  | .error _ => none

/-- Applies one after another: the numbers of the applications that they create, in that order, and
the service that they leave. -/
def applyAll (service : Service) : List ApplyCall → List Nat × Service
  | [] => ([], service)
  | call :: rest =>
    let (result, next) := service.apply call.preset call.request call.timeout
    let (ids, after) := next.applyAll rest
    ((created? result).toList ++ ids, after)

/-- Rollbacks one after another, with the report of each. -/
def rollbackAll (service : Service) (user timeout : Option Int) :
    List Nat → Except (Failure Error Service) (List RollbackReport × Service)
  | [] => .ok ([], service)
  | id :: rest => do
    let (report, next) ← service.rollback id user .never timeout
    let (reports, after) ← next.rollbackAll user timeout rest
    return (report :: reports, after)

variable {service next current after : Service} {call : ApplyCall} {user timeout : Option Int}

/-- What an apply of a plain preset comes to: nothing at all, or one application for its writes. -/
inductive AppliesPlainly (service : Service) (call : ApplyCall) :
    Except Error ApplyReport × Service → Prop
  | nothing {result : Except Error ApplyReport} (hcreated : created? result = none) :
    AppliesPlainly service call (result, service)
  | application {report : ApplyReport} {application : Application} {snapshot : Snapshot}
    {writes : List (Planned × Change)} {library : Library} {site : Site}
    (hcreated : report.applicationId = some application.id)
    (happlied : Applied service call.request application snapshot writes
      { service with site, library })
    (hsound : library.Sound) (hplain : ∀ id, service.library.PlainAt id → library.PlainAt id) :
    AppliesPlainly service call (.ok report, { service with site, library })

/-- What a run over items with values has written, and is recorded, lasts. -/
theorem applied_of_made {request : ApplyRequest} {snapshot : Snapshot} {preset : Preset}
    {reached : List Item} {writes : List (Planned × Change)} {progress : Progress}
    {application : Application} {library : Library}
    (hsnapshot : Snapshot.ofSite service.site = .ok snapshot) (hroot : service.site.tree.FacetsApart)
    (hlock : service.locked = false) (hpreset : preset.Sound)
    (hvalues : ∀ row ∈ preset.items, row.item.value.isSome)
    (hmade : Progress.Made { site := service.site } writes progress)
    (hreached : reached <+: preset.items.map StoredItem.item)
    (hpart : (writes.map Prod.fst).Sublist (reached.flatMap (Apply.plan request snapshot)))
    (hrecord : service.library.recordApplication service.clock preset user progress.rows =
      .ok (application, library)) :
    Applied service request application snapshot writes
      { service with site := progress.site, library } where
  toRecords := .of_made hsnapshot hroot hlock hpreset hmade hreached hpart hrecord
  lasting := by
    intro write hwrite
    obtain ⟨item, hitem, hplanned⟩ :=
      List.mem_flatMap.1 (hpart.subset (List.mem_map_of_mem hwrite))
    obtain ⟨row, hrow, rfl⟩ := List.mem_map.1 (hreached.subset hitem)
    exact Apply.reverts_of_value hplanned (hvalues row hrow)

theorem appliesPlainly (hroot : service.site.tree.FacetsApart) (hsound : service.library.Sound)
    (hplain : service.library.PlainAt call.preset) (hreal : call.request.simulate = false)
    (huser : service.site.store.accepts call.request.user → call.request.user.all fitsColumn)
    (hclock : fitsColumn service.clock) :
    AppliesPlainly service call (service.apply call.preset call.request call.timeout) := by
  rcases service.apply_cases call.preset call.request call.timeout with
    ⟨error, happly⟩ | ⟨preset, report, progress, hpreset, hlock, hrun, hroom, happly⟩ |
      ⟨preset, progress, hpreset, -, hbarred, hbegins, -⟩
  · rw [happly]
    exact .nothing rfl
  · have hmem := Library.mem_of_getPreset hpreset
    have hid : (preset.id : Int) = call.preset := by
      simpa using List.find?_some (Library.preset_of_getPreset hpreset).2
    have hplain := hplain preset hmem hid
    obtain ⟨snapshot, hsnapshot, -⟩ := bind_eq_ok.1 hrun
    obtain ⟨_, middle, _, reached, rows, hsame, hran⟩ := Apply.exists_ran hreal hsnapshot preset
    obtain ⟨rfl, rfl⟩ := Prod.mk.inj (Except.ok.inj (hrun.symm.trans hsame))
    obtain ⟨-, rfl⟩ := hran.plain hplain.plugins_eq
    obtain ⟨writes, hmade, hpart, -⟩ := hran.performs
    rw [happly]
    by_cases hnil : progress.rows = []
    · have hwrites : writes = [] := by
        have hrows := hmade.rows_eq.symm.trans hnil
        exact List.map_eq_nil_iff.1 (List.append_eq_nil_iff.1 hrows).2
      subst hwrites
      have hsite : progress.site = service.site := hmade.wrote.eq_of_nil
      rw [record_of_nil hnil, hsite]
      exact .nothing hran.applicationId_eq
    · obtain ⟨application, library, hrecord, hafter⟩ :=
        record_of_ne_nil preset report hnil (hroom hnil)
          (Apply.fits_of_run_items hreal hrun hplain.plugins_eq)
      have hpreset := hsound preset hmem
      have happlied := applied_of_made hsnapshot hroot hlock hpreset hplain.values hmade
        hran.reached_prefix hpart hrecord
      rw [hafter]
      exact .application rfl happlied (Library.sound_recordApplication hsound hpreset hrecord)
        fun id hplain => hplain.record hmem hrecord
  · -- A store that cannot name the user writes nothing, and then there is nothing to record.
    by_cases haccepts : service.site.store.accepts call.request.user
    · rw [Library.canRecord_iff.2 ⟨hclock, huser haccepts⟩] at hbarred
      cases hbarred
    · obtain ⟨begun, -, hplugins, report, hrun⟩ := hbegins.run_eq
      have hnone : begun.plugins = [] := by
        rw [(hplain preset (Library.mem_of_getPreset hpreset) ?_).plugins_eq] at hplugins
        · exact List.prefix_nil.1 hplugins
        · simpa using List.find?_some (Library.preset_of_getPreset hpreset).2
      exact absurd (Apply.run_of_unaccepted hreal haccepts hnone hrun ▸ rfl) hbegins.rows_ne_nil

theorem applyAll_cons (service : Service) (call : ApplyCall) (rest : List ApplyCall) :
    service.applyAll (call :: rest) =
      ((created? (service.apply call.preset call.request call.timeout).1).toList ++
          ((service.apply call.preset call.request call.timeout).2.applyAll rest).1,
        ((service.apply call.preset call.request call.timeout).2.applyAll rest).2) := rfl

theorem rollbackAll_append {ids more : List Nat} {reports others : List RollbackReport}
    (h : service.rollbackAll user timeout ids = .ok (reports, current))
    (h' : current.rollbackAll user timeout more = .ok (others, after)) :
    service.rollbackAll user timeout (ids ++ more) = .ok (reports ++ others, after) := by
  induction ids generalizing service reports with
  | nil =>
    obtain ⟨rfl, rfl⟩ := Prod.mk.inj (Except.ok.inj h)
    exact h'
  | cons id rest ih =>
    obtain ⟨⟨report, next⟩, hrollback, h⟩ := bind_eq_ok.1 h
    obtain ⟨⟨rests, last⟩, hrest, h⟩ := bind_eq_ok.1 h
    obtain ⟨rfl, rfl⟩ := Prod.mk.inj (Except.ok.inj h)
    exact bind_eq_ok.2 ⟨_, hrollback, bind_eq_ok.2 ⟨_, ih hrest, rfl⟩⟩

theorem moves_applyAll (service : Service) (calls : List ApplyCall) :
    service.site.Moves (service.applyAll calls).2.site := by
  induction calls generalizing service with
  | nil => exact .refl _
  | cons call rest ih => exact (service.moves_apply _ _ _).trans (ih _)

/-- Rolling back all that a sequence of applies has created, the newest first, leaves every value as
it was before them, also those that were not set. -/
theorem rollbackAll_applyAll {calls : List ApplyCall} (hroot : service.site.tree.FacetsApart)
    (hsound : service.library.Sound)
    (hplain : ∀ call ∈ calls, service.library.PlainAt call.preset)
    (hreal : ∀ call ∈ calls, call.request.simulate = false)
    (husers : ∀ call ∈ calls,
      service.site.store.accepts call.request.user → call.request.user.all fitsColumn)
    (hclock : fitsColumn service.clock) (huser : service.site.store.accepts user)
    (timeout : Option Int)
    (hids : ∀ id ∈ (service.applyAll calls).1, fitsColumn id)
    (hnumbers : (service.applyAll calls).2.site.store.holds
      (service.applyAll calls).2.site.store.nextChangeId) :
    ∃ reports after,
      (service.applyAll calls).2.rollbackAll user timeout (service.applyAll calls).1.reverse =
        .ok (reports, after) ∧
      (∀ report ∈ reports, report.failed = [] ∧ report.applicationDeleted = true) ∧
      service.Returns after := by
  induction calls generalizing service with
  | nil => exact ⟨[], service, rfl, fun _ h => (nomatch h : False).elim, .refl service⟩
  | cons call rest ih =>
    have hfirst := List.forall_mem_cons.1 hplain
    have hcall := appliesPlainly hroot hsound hfirst.1 (hreal call List.mem_cons_self)
      (husers call List.mem_cons_self) hclock
    rw [applyAll_cons] at hids hnumbers ⊢
    generalize service.apply call.preset call.request call.timeout = applied at *
    have hreal := fun call hcall => hreal call (List.mem_cons_of_mem _ hcall)
    have husers := fun call hcall => husers call (List.mem_cons_of_mem _ hcall)
    cases hcall with
    | nothing hcreated =>
      rw [hcreated] at hids ⊢
      exact ih hroot hsound hfirst.2 hreal husers hclock huser hids hnumbers
    | @application report application snapshot writes library site hcreated happlied hsound hkept =>
      have hnext : created? (.ok report) = some application.id := hcreated
      rw [hnext] at hids ⊢
      have hids := List.forall_mem_cons.1 hids
      have haccepts (user : Option Int) : site.store.accepts user = service.site.store.accepts user :=
        happlied.wrote.keeps.accepts_eq user
      have huser : site.store.accepts user := (haccepts user).trans huser
      obtain ⟨reports, current, hrollback, hreports, hreturns⟩ :=
        @ih { service with site, library } (happlied.wrote.keeps.tree_eq ▸ hroot) hsound
          (fun call hcall => hkept _ (hfirst.2 call hcall)) hreal
          (fun call hcall h => husers call hcall (haccepts _ ▸ h)) hclock huser hids.2 hnumbers
      have hlater := (moves_applyAll { service with site, library } rest).later
      rw [hlater.holds_eq] at hnumbers
      have hnumbers := Store.holds_of_le hlater.nextChangeId_le hnumbers
      obtain ⟨last, after, hlast, hfailed, hdeleted, hafter⟩ :=
        happlied.exists_rollback hreturns hnumbers huser hids.1 timeout
      have hsingle : current.rollbackAll user timeout [application.id] = .ok ([last], after) :=
        bind_eq_ok.2 ⟨_, hlast, rfl⟩
      have hreverse : ((some application.id).toList ++
          (Service.applyAll { service with site, library } rest).1).reverse =
            (Service.applyAll { service with site, library } rest).1.reverse ++ [application.id] :=
        List.reverse_cons
      rw [hreverse]
      refine ⟨reports ++ [last], after, rollbackAll_append hrollback hsingle, ?_, hafter⟩
      intro report hreport
      rcases List.mem_append.1 hreport with hreport | hreport
      · exact hreports report hreport
      · rw [List.mem_singleton.1 hreport]
        exact ⟨hfailed, hdeleted⟩

end Service

namespace SmallSite

/-- Two applies: one that leaves the flag out, and one that is left with the flag. -/
def calls : List ApplyCall :=
  [⟨1, { exclusions := [comments] }, none⟩, ⟨1, {}, none⟩]

theorem library_plainAt : service.library.PlainAt 1 := by
  intro preset hpreset hid
  rcases List.mem_cons.1 hpreset with rfl | hpreset
  · exact ⟨by decide, rfl⟩
  · rw [List.mem_singleton.1 hpreset] at hid
    cases hid

theorem rollbackAll_calls :
    ∃ reports after,
      (service.applyAll calls).2.rollbackAll none none (service.applyAll calls).1.reverse =
        .ok (reports, after) ∧
      (∀ report ∈ reports, report.failed = [] ∧ report.applicationDeleted = true) ∧
      service.Returns after := by
  have hcalls : ∀ call ∈ calls, call.preset = 1 := by decide
  exact Service.rollbackAll_applyAll tree_facetsApart library_sound
    (fun call hcall => hcalls call hcall ▸ library_plainAt) (by decide) (by decide) rfl rfl none (by decide)
    rfl

example : (service.applyAll calls).1 = [1, 2] := by
  decide

/-- An apply for a user whose number the library has no place for. -/
def wideCall : ApplyCall :=
  ⟨1, { user := wideUser }, none⟩

/-- An apply that cannot be recorded creates no application. What it has written into the memory is left when
there is nothing to roll back. -/
theorem rollbackAll_unrecorded :
    service.site.tree.FacetsApart ∧ service.library.PlainAt wideCall.preset ∧
      (service.applyAll [wideCall]).1 = [] ∧ service.site.store.get notice = .ok none ∧
        ∃ reports after,
          (service.applyAll [wideCall]).2.rollbackAll none none
              (service.applyAll [wideCall]).1.reverse = .ok (reports, after) ∧
            after.site.store.get notice = .ok (some "closed") ∧ ¬ service.Returns after := by
  have hids : (service.applyAll [wideCall]).1 = [] := by decide +kernel
  have hbefore : service.site.store.get notice = .ok none := by decide
  have hafter : (service.applyAll [wideCall]).2.site.store.get notice = .ok (some "closed") := by
    decide +kernel
  rw [hids]
  refine ⟨tree_facetsApart, library_plainAt, rfl, hbefore, [], _, rfl, hafter, fun hreturns => ?_⟩
  rw [hreturns.get_eq, hbefore] at hafter
  cases hafter

end SmallSite

end SitePresets
