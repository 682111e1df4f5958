import SitePresets.Proofs.Apply.Unhindered
import SitePresets.Proofs.Service.Exporting

/-!
# Applying what was exported

The items of an export, applied to the site later on. An item whose value was none of the setting fails and
leaves the setting as it is. Every other one makes the setting mean what it meant, with the facets that it
had.
-/

namespace SitePresets

/-- A setting of a site, and the same setting of the site later on. -/
structure Site.Rereads (site : Site) (live : Descriptor) (after : Site) (now : Descriptor) : Prop where
  shows : site.Shows live.declared live
  shows_now : after.Shows live.declared now
  arranged : live.Arranged
  arranged_now : now.Arranged
  alike : live.Alike now

namespace Site

variable {site after : Site} {snapshot later : Snapshot} {live now : Descriptor}

theorem Persists.exists_rereads (h : site.Persists after)
    (hplugins : site.store.SamePlugins after.store) (hsnapshot : Snapshot.ofSite site = .ok snapshot)
    (hlater : Snapshot.ofSite after = .ok later) (hlive : live ∈ snapshot.inOrder) :
    ∃ now, later.get? live.key = some now ∧ site.Rereads live after now := by
  have hget := (Snapshot.mem_inOrder hsnapshot).1 hlive
  obtain ⟨now, hnow, hshows, halike⟩ := h.exists_alike hplugins hsnapshot hlater hget
  obtain ⟨declared, -, hread⟩ := Snapshot.read_of_get hsnapshot hget
  obtain ⟨_, -, hread'⟩ := Snapshot.read_of_get hlater hnow
  have hlive := shows_of_read hread
  refine ⟨now, hnow, ?_, hshows, arranged_of_read hread, arranged_of_read hread', halike⟩
  rw [hlive.declared_eq]
  exact hlive

namespace Rereads

theorem raw_isSome (h : site.Rereads live after now) : live.raw.isSome := by
  obtain ⟨stored, -, hraw⟩ := h.shows.raw_eq
  rw [hraw]
  rfl

/-- A setting is read as before if its variables hold what they held. -/
theorem eq_of_get (h : site.Rereads live after now)
    (hget : ∀ key, after.store.get key = site.store.get key) :
    now.value = live.value ∧ now.facets = live.facets := by
  constructor
  · obtain ⟨stored, hstored, hraw⟩ := h.shows.raw_eq
    obtain ⟨stored', hstored', hraw'⟩ := h.shows_now.raw_eq
    have hsame : stored' = stored :=
      Except.ok.inj (hstored'.symm.trans ((hget _).trans hstored))
    unfold Descriptor.value
    rw [h.alike.clean_eq, hraw, hraw', hsame]
  · refine h.arranged.facets_eq h.arranged_now h.alike.kind_eq fun facet hfacet => ?_
    obtain ⟨stored, hstored, hshown⟩ := h.shows.facet_eq facet hfacet
    obtain ⟨stored', hstored', hshown'⟩ := h.shows_now.facet_eq facet (h.alike.kind_eq ▸ hfacet)
    rw [h.alike.facetKey_eq] at hstored'
    have hsame : stored' = stored :=
      Except.ok.inj (hstored'.symm.trans ((hget _).trans hstored))
    rw [hshown, hshown', hsame]

end Rereads

end Site

namespace Apply

open Exchange

variable {request : ApplyRequest} {site after : Site} {snapshot later : Snapshot}
  {live now : Descriptor}

/-- What an exported item might write: the value of the setting and all its facets. -/
def exportedWrites (live now : Descriptor) : List Planned :=
  ⟨now, none, live.value⟩ ::
    live.facets.map fun (facet, on) => ⟨now, some facet, some (Value.flagText on)⟩

theorem candidates_exportItem (h : site.Rereads live after now) :
    candidates now (now.withStored (exportItem live).value (exportItem live).attributes) =
      exportedWrites live now := by
  unfold candidates exportedWrites
  rw [value_exportItem h.alike h.raw_isSome, facets_exportItem h.alike h.arranged]

/-- An exported item is wanted, unless the value was none of the setting. -/
theorem judge_exportItem (hoverride : request.override) (hnow : later.get? live.key = some now)
    (h : site.Rereads live after now) :
    judge request later (exportItem live) =
      if live.value.isSome then
        .wanted now (now.withStored (exportItem live).value (exportItem live).attributes)
      else .invalid now := by
  have hkey : (exportItem live).key = live.key := rfl
  have hvalid : (now.withStored (exportItem live).value (exportItem live).attributes).isValid =
      live.value.isSome := by
    rw [← value_exportItem h.alike h.raw_isSome (exportItem live).attributes]
    rfl
  unfold judge
  rw [if_neg fun hexcluded => hexcluded.2 hoverride, hkey, hnow]
  dsimp only
  rw [hvalid]

theorem plan_exportItem (hoverride : request.override) (hnow : later.get? live.key = some now)
    (h : site.Rereads live after now) :
    plan request later (exportItem live) =
      if live.value.isSome then (exportedWrites live now).filter Planned.differs else [] := by
  unfold plan
  rw [judge_exportItem hoverride hnow h]
  cases live.value.isSome with
  | false => rfl
  | true => exact (planWanted_eq_filter _ _).trans (by rw [candidates_exportItem h]; rfl)

theorem facetEquals_of_mem (h : live.Arranged) {facet : Facet} {on : Bool}
    (hfacet : (facet, on) ∈ live.facets) :
    live.facetEquals facet (some (Value.flagText on)) = true := by
  by_contra hdiffers
  exact (facetEquals_flagText live facet on).1 (by simpa using hdiffers) (h.mem_facets.1 hfacet)

/-- Nothing is planned for a setting that has its value and its facets. -/
theorem plan_of_eq (hoverride : request.override) (hnow : later.get? live.key = some now)
    (h : site.Rereads live after now) (hvalue : now.value = live.value)
    (hfacets : now.facets = live.facets) : plan request later (exportItem live) = [] := by
  rw [plan_exportItem hoverride hnow h]
  cases hlive : live.value with
  | none => rfl
  | some value =>
    refine List.filter_eq_nil_iff.2 fun planned hplanned => ?_
    unfold exportedWrites at hplanned
    rcases List.mem_cons.1 hplanned with rfl | hplanned
    · obtain ⟨source, -, hsource⟩ := Option.bind_eq_some_iff.1 hlive
      have hequals : now.equals live.value = true := by
        unfold Descriptor.equals
        rw [hvalue, h.alike.same_eq, hlive]
        exact ValueRule.same_cleaned hsource
      simp [Planned.differs, hequals]
    · obtain ⟨⟨facet, on⟩, hrow, rfl⟩ := List.mem_map.1 hplanned
      have hequals : now.facetEquals facet (some (Value.flagText on)) = true :=
        facetEquals_of_mem h.arranged_now (hfacets ▸ hrow)
      simp [Planned.differs, hequals]

/-- If nothing is planned for a setting, then it means what it meant, and has the facets that it had. -/
theorem restored_of_plan (hoverride : request.override) (hnow : later.get? live.key = some now)
    (h : site.Rereads live after now) {value : String} (hvalue : live.value = some value)
    (hplan : plan request later (exportItem live) = []) :
    now.equals (some value) ∧ now.facets = live.facets := by
  rw [plan_exportItem hoverride hnow h, hvalue] at hplan
  have hsame := List.filter_eq_nil_iff.1 hplan
  unfold exportedWrites at hsame
  rw [List.forall_mem_cons] at hsame
  obtain ⟨hequals, hfacets⟩ := hsame
  constructor
  · rw [hvalue] at hequals
    simpa [Planned.differs] using hequals
  · refine h.arranged.facets_eq h.arranged_now h.alike.kind_eq fun facet hfacet => ?_
    obtain ⟨stored, -, hshown⟩ := h.shows.facet_eq facet hfacet
    rw [hshown]
    have hrow := h.arranged.mem_facets.2 hshown
    have hdiffers := hfacets _ (List.mem_map_of_mem hrow)
    by_contra hne
    exact hdiffers (by simpa [Planned.differs] using (facetEquals_flagText now facet _).2 hne)

/-! ### A run -/

theorem outcome_exportItem (hunhindered : Unhindered request after)
    (hnow : later.get? live.key = some now) (h : site.Rereads live after now) :
    outcome request later after (exportItem live) =
      if live.value.isSome then
        if (plan request later (exportItem live)).isEmpty then (.unchanged, some Reason.unchanged)
        else (.applied, none)
      else (.failed, some Reason.invalidValue) := by
  unfold outcome plan
  rw [judge_exportItem hunhindered.override hnow h]
  cases live.value.isSome with
  | false => rfl
  | true =>
    simp only [if_true]
    unfold fare
    rw [hunhindered.objections]

namespace Carried

variable {last : Site} {items : List Item} {writes : List (Planned × Change)}

/-- What could not be applied is left as it is. -/
theorem untouched (h : Carried request after later items last writes) (hoverride : request.override)
    (hitem : exportItem live ∈ items) (hnow : later.get? live.key = some now)
    (hrereads : site.Rereads live after now) (hvalue : live.value = none) :
    last.store.get live.key = after.store.get live.key ∧ ∀ facet ∈ live.kind.facets,
      last.store.get (live.facetKey facet) = after.store.get (live.facetKey facet) := by
  have hplan : plan request later (exportItem live) = [] := by
    rw [plan_exportItem hoverride hnow hrereads, hvalue]
    rfl
  have hget (planned : Planned) (hplanned : planned ∈ exportedWrites live now) :
      last.store.get planned.key = after.store.get planned.key := by
    rw [← candidates_exportItem hrereads] at hplanned
    exact h.get_of_unwritten (h.unwritten_of_plan hitem hnow hplan hplanned)
  constructor
  · rw [← hrereads.alike.key_eq]
    exact hget _ List.mem_cons_self
  · intro facet hfacet
    obtain ⟨stored, -, hshown⟩ := hrereads.shows.facet_eq facet hfacet
    rw [← hrereads.alike.facetKey_eq]
    exact hget _ (List.mem_cons_of_mem _
      (List.mem_map_of_mem (hrereads.arranged.mem_facets.2 hshown)))

/-- What could be applied means what it meant when it was exported. -/
theorem restored (h : Carried request after later items last writes)
    (hunhindered : Unhindered request after) (hpersists : site.Persists after)
    (hplugins : site.store.SamePlugins after.store) (hsnapshot : Snapshot.ofSite site = .ok snapshot)
    (hlive : live ∈ snapshot.inOrder) (hitem : exportItem live ∈ items) {value : String}
    (hvalue : live.value = some value) :
    ∃ now, last.lookup live.key = .ok (some now) ∧ now.equals (some value) ∧
      now.facets = live.facets := by
  have hkeeps := h.wrote.keeps
  have hpersists := hpersists.trans (hkeeps.persists h.wrote.staysReadable)
  have hplugins := hplugins.trans hkeeps.samePlugins
  obtain ⟨final, hfinal⟩ := hpersists.exists_ofSite hplugins hsnapshot
  obtain ⟨now, hnow, hrereads⟩ := hpersists.exists_rereads hplugins hsnapshot hfinal hlive
  have hpermits : ∀ planned ∈ plan request final (exportItem live),
      last.permits request.user planned := by
    intro planned _
    rw [hkeeps.permits_eq]
    exact hunhindered.permits planned
  have hplan := (h.settles_of_value hfinal hitem rfl).2
  rw [List.takeWhile_eq_self_iff.2 hpermits] at hplan
  refine ⟨now, ?_, restored_of_plan hunhindered.override hnow hrereads hvalue hplan⟩
  rw [Snapshot.lookup_eq_get hfinal, hnow]

end Carried

end Apply

/-- What applying an export makes of a site: the settings whose values were none of them fail and stay as
they are, and every other one is as it was exported. -/
structure ApplyReport.Restores (report : ApplyReport) (snapshot : Snapshot) (site after : Site) :
    Prop where
  cancelled_eq : report.cancelled = false
  notApplicable_eq : report.notApplicable = []
  failed_eq : report.failed.map Entry.brief =
    (snapshot.inOrder.filter fun live => live.value.isNone).map fun live =>
      (live.key, .failed, some Reason.invalidValue)
  untouched : ∀ live ∈ snapshot.inOrder, live.value = none →
    after.store.get live.key = site.store.get live.key ∧ ∀ facet ∈ live.kind.facets,
      after.store.get (live.facetKey facet) = site.store.get (live.facetKey facet)
  restored : ∀ live ∈ snapshot.inOrder, ∀ value, live.value = some value →
    ∃ now, after.lookup live.key = .ok (some now) ∧ now.equals (some value) ∧
      now.facets = live.facets

theorem ApplyReport.Restores.of_recorded {report : ApplyReport} {snapshot : Snapshot}
    {site after : Site} (h : report.Restores snapshot site after) (id : Option Nat) :
    { report with applicationId := id }.Restores snapshot site after :=
  ⟨h.cancelled_eq, h.notApplicable_eq, h.failed_eq, h.untouched, h.restored⟩

namespace Apply

open Exchange

variable {request : ApplyRequest} {site after : Site} {snapshot later : Snapshot}
  {live now : Descriptor} {preset : Preset}

theorem briefs_exported (hunhindered : Unhindered request after) (hpersists : site.Persists after)
    (hplugins : site.store.SamePlugins after.store) (hsnapshot : Snapshot.ofSite site = .ok snapshot)
    (hlater : Snapshot.ofSite after = .ok later) {entries : List Entry}
    (hentries : entries.map Entry.brief =
      (snapshot.inOrder.map exportItem).map fun item =>
        (item.key, outcome request later after item)) :
    (entries.filter fun entry => entry.status = .notApplicable) = [] ∧
      (entries.filter fun entry => entry.status = .failed).map Entry.brief =
        (snapshot.inOrder.filter fun live => live.value.isNone).map fun live =>
          (live.key, .failed, some Reason.invalidValue) := by
  have houtcome (live : Descriptor) (hlive : live ∈ snapshot.inOrder) :
      (outcome request later after (exportItem live)).1 ≠ .notApplicable ∧
        ((outcome request later after (exportItem live)).1 = .failed ↔ live.value.isNone) ∧
          (live.value.isNone →
            outcome request later after (exportItem live) = (.failed, some Reason.invalidValue)) := by
    obtain ⟨now, hnow, hrereads⟩ := hpersists.exists_rereads hplugins hsnapshot hlater hlive
    rw [outcome_exportItem hunhindered hnow hrereads]
    cases live.value with
    | none => simp
    | some value =>
      simp only [Option.isSome_some, if_true]
      split <;> simp
  rw [List.map_map] at hentries
  constructor
  · rw [← List.map_eq_nil_iff (f := Entry.brief),
      Entry.map_brief_filter fun status => decide (status = .notApplicable), hentries, List.filter_map,
      List.map_eq_nil_iff, List.filter_eq_nil_iff]
    intro live hlive
    simpa using (houtcome live hlive).1
  · rw [Entry.map_brief_filter fun status => decide (status = .failed), hentries, List.filter_map]
    have hfailed : snapshot.inOrder.filter ((fun brief : Key × Status × Option String =>
        decide (brief.2.1 = .failed)) ∘ (fun item => (item.key, outcome request later after item)) ∘
          exportItem) = snapshot.inOrder.filter fun live => live.value.isNone := by
      refine List.filter_congr fun live hlive => Bool.eq_iff_iff.2 ?_
      exact decide_eq_true_iff.trans (houtcome live hlive).2.1
    rw [hfailed]
    refine List.map_congr_left fun live hlive => ?_
    obtain ⟨hmem, hnone⟩ := List.mem_filter.1 hlive
    exact congrArg (live.key, ·) ((houtcome live hmem).2.2 hnone)

/-- A run over what was exported from a site restores it, and writes nothing if nothing has changed. -/
theorem run_exported (hroot : site.tree.FacetsApart) (hpersists : site.Persists after)
    (hplugins : site.store.SamePlugins after.store) (hsnapshot : Snapshot.ofSite site = .ok snapshot)
    (hunhindered : Unhindered request after)
    (hitems : preset.items.map StoredItem.item = snapshot.inOrder.map exportItem)
    (hstates : preset.plugins = []) :
    ∃ report progress, run request after preset = .ok (report, progress) ∧
      report.Restores snapshot after progress.site ∧
        ((∀ key, after.store.get key = site.store.get key) →
          report.applied = [] ∧ progress = { site := after }) := by
  obtain ⟨later, hlater⟩ := hpersists.exists_ofSite hplugins hsnapshot
  have hcancelled : (overItems request later after preset).1.cancelled = false :=
    cancelled_of_never hunhindered.never _ _ _ _
  obtain ⟨writes, entries, hmade, hwrites, hfiles, hentries⟩ := outcome_of_applyItems hunhindered.real
    (.refl after) (fun planned => readable_plan hlater) hcancelled
  rw [hitems] at hwrites hentries
  have hmade : Progress.Made { site := after } writes (overItems request later after preset).2 := hmade
  have hcarried : Carried request after later (snapshot.inOrder.map exportItem)
      (overItems request later after preset).2.site writes := {
    reads := hlater
    apart := hpersists.tree_eq ▸ hroot
    keys := by
      rw [List.map_map]
      exact Snapshot.nodup_inOrder hsnapshot
    wrote := hmade.wrote
    fulfils := hmade.fulfils
    writes_eq := hwrites }
  obtain ⟨hnotApplicable, hfailed⟩ :=
    briefs_exported hunhindered hpersists hplugins hsnapshot hlater hentries
  have hrun := run_of_not_cancelled hlater hcancelled
  rw [hstates] at hrun
  refine ⟨_, _, hrun, ⟨hcancelled, ?_, ?_, ?_, ?_⟩, fun hget => ?_⟩
  · exact hfiles.notApplicable.trans hnotApplicable
  · exact (congrArg (List.map Entry.brief) hfiles.failed).trans hfailed
  · intro live hlive hvalue
    obtain ⟨now, hnow, hrereads⟩ := hpersists.exists_rereads hplugins hsnapshot hlater hlive
    exact hcarried.untouched hunhindered.override (List.mem_map_of_mem hlive) hnow hrereads hvalue
  · intro live hlive value hvalue
    exact hcarried.restored hunhindered hpersists hplugins hsnapshot hlive (List.mem_map_of_mem hlive)
      hvalue
  · have hplan : ∀ item ∈ preset.items.map StoredItem.item, plan request later item = [] := by
      rw [hitems]
      refine List.forall_mem_map.2 fun live hlive => ?_
      obtain ⟨now, hnow, hrereads⟩ := hpersists.exists_rereads hplugins hsnapshot hlater hlive
      obtain ⟨hvalue, hfacets⟩ := hrereads.eq_of_get hget
      exact plan_of_eq hunhindered.override hnow hrereads hvalue hfacets
    obtain ⟨hprogress, happlied⟩ := applyItems_of_plan_nil hunhindered.real hplan hcancelled
    exact ⟨happlied, hprogress⟩

end Apply

end SitePresets
