import SitePresets.Proofs.Apply.Again

/-!
# Applies without hindrance

An apply that nothing stands in the way of carries out the plan of every item. It reports the items with a
plan as applied, and if there are none it leaves the site as it is.
-/

namespace SitePresets.Apply

variable {request : ApplyRequest} {site : Site} {snapshot : Snapshot}

/-- An apply that nothing stands in the way of on a site. -/
structure Unhindered (request : ApplyRequest) (site : Site) : Prop where
  real : request.simulate = false
  override : request.override
  never : request.cancellation = .never
  user : request.user.all fitsColumn
  unprotected : site.readOnly = []

namespace Unhindered

theorem permits (h : Unhindered request site) (planned : Planned) :
    site.permits request.user planned := by
  have haccepts : site.store.accepts request.user = true := Store.accepts_of_fits h.user _
  unfold Site.permits Site.refusal?
  rw [h.unprotected, haccepts, if_neg List.not_mem_nil]
  rfl

theorem objections (h : Unhindered request site) (plan : List Planned) :
    plan.findSome? (site.objection? request.user) = none :=
  List.findSome?_eq_none_iff.2 fun planned _ => permits_iff.1 (h.permits planned)

theorem outcome_of_plan (h : Unhindered request site) {item : Item}
    (hplan : plan request snapshot item ≠ []) :
    outcome request snapshot site item = (.applied, none) := by
  unfold plan at hplan
  unfold outcome
  cases hjudge : judge request snapshot item with
  | wanted live wanted =>
    rw [hjudge] at hplan
    dsimp only at hplan ⊢
    unfold fare
    rw [h.objections]
    exact if_neg fun hempty => hplan (List.isEmpty_iff.1 hempty)
  | _ =>
    rw [hjudge] at hplan
    exact absurd rfl hplan

/-- The items that are applied are those with a plan. -/
theorem briefs_applied (h : Unhindered request site) {items : List Item} {entries : List Entry}
    (hentries : entries.map Entry.brief =
      items.map fun item => (item.key, outcome request snapshot site item)) :
    (entries.filter fun entry => entry.status = .applied).map Entry.brief =
      (items.filter fun item => !(plan request snapshot item).isEmpty).map fun item =>
        (item.key, .applied, none) := by
  rw [Entry.map_brief_filter fun status => decide (status = .applied), hentries, List.filter_map]
  have hplanned : items.filter ((fun brief : Key × Status × Option String =>
      decide (brief.2.1 = .applied)) ∘ fun item => (item.key, outcome request snapshot site item)) =
        items.filter fun item => !(plan request snapshot item).isEmpty := by
    refine List.filter_congr fun item _ => ?_
    by_cases hplan : plan request snapshot item = []
    · simp [hplan, outcome_of_plan_nil hplan]
    · simp [hplan, h.outcome_of_plan hplan]
  rw [hplanned]
  refine List.map_congr_left fun item hitem => ?_
  have hplan : plan request snapshot item ≠ [] := by
    simpa using (List.mem_filter.1 hitem).2
  exact congrArg (item.key, ·) (h.outcome_of_plan hplan)

theorem run_eq (h : Unhindered request site) (hsnapshot : Snapshot.ofSite site = .ok snapshot)
    {preset : Preset} (hstates : preset.plugins = []) :
    ∃ report progress, run request site preset = .ok (report, progress) ∧
      report.applied.map Entry.brief =
        ((preset.items.map StoredItem.item).filter fun item =>
          !(plan request snapshot item).isEmpty).map (fun item => (item.key, .applied, none)) ∧
      (report.applied = [] → progress = { site }) := by
  have hcancelled : (overItems request snapshot site preset).1.cancelled = false :=
    cancelled_of_never h.never _ _ _ _
  obtain ⟨writes, entries, -, -, hfiles, hentries⟩ := outcome_of_applyItems h.real (.refl site)
    (fun planned => readable_plan hsnapshot) hcancelled
  have happlied := (congrArg (List.map Entry.brief) hfiles.applied).trans (h.briefs_applied hentries)
  have hrun := run_of_not_cancelled hsnapshot hcancelled
  rw [hstates] at hrun
  refine ⟨_, _, hrun, happlied, fun hnil => ?_⟩
  have hnil : (overItems request snapshot site preset).1.applied = [] := hnil
  have hplan : ∀ item ∈ preset.items.map StoredItem.item, plan request snapshot item = [] := by
    intro item hitem
    have hnone := List.map_eq_nil_iff.1 (happlied.symm.trans (congrArg (List.map Entry.brief) hnil))
    simpa using List.filter_eq_nil_iff.1 hnone item hitem
  exact (applyItems_of_plan_nil h.real hplan hcancelled).1

end Unhindered

end SitePresets.Apply
