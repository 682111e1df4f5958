import SitePresets.Proofs.Apply.Plugins

/-!
# How items fare

What a real run reports for each item and what it writes for it, told from the snapshot at its start and
from what the site protects: the plan of an item is carried out up to the first write that is refused.
-/

namespace SitePresets

/-! ### Refused writes -/

namespace Site

variable {site after : Site} {user : Option Int} {key : Key} {refusal : Refusal}

/-- Why a site refuses to write a key that it can read. -/
def refusal? (site : Site) (user : Option Int) (key : Key) : Option Refusal :=
  if key ∈ site.readOnly then some .readOnly
  else if site.store.accepts user then none
  else some .numberTooLarge

theorem Keeps.refusal_eq (h : site.Keeps after) (user : Option Int) (key : Key) :
    after.refusal? user key = site.refusal? user key := by
  unfold refusal?
  rw [h.readOnly_eq, h.accepts_eq]

theorem set_of_refusal (hold : ∃ old, site.store.get key = .ok old)
    (hrefusal : site.refusal? user key = some refusal) (value : Option String) :
    site.set key value user = .error refusal := by
  unfold refusal? at hrefusal
  unfold set
  split at hrefusal
  · rename_i hkey
    rw [if_pos hkey, Option.some.inj hrefusal]
  · rename_i hkey
    split at hrefusal
    · cases hrefusal
    · rename_i huser
      obtain ⟨old, hold⟩ := hold
      rw [if_neg hkey, ← Option.some.inj hrefusal]
      cases hstore : site.store with
      | memory memory =>
        rw [hstore] at huser
        cases user <;> exact absurd rfl huser
      | rows rows =>
        rw [hstore] at hold huser
        have hold : rows.get key = .ok old := hold
        have huser : ¬ user.all fitsColumn = true := huser
        show ((rows.set key value user).bind _).bind _ = _
        unfold Rows.set
        rw [hold, ok_bind, if_neg huser]
        rfl

theorem writable_of_permitted {planned : Planned} (hold : ∃ old, site.store.get planned.key = .ok old)
    (hpermitted : site.refusal? user planned.key = none) : site.Writable user [planned] := by
  unfold refusal? at hpermitted
  split at hpermitted
  · cases hpermitted
  · rename_i hkey
    split at hpermitted
    · rename_i huser
      refine ⟨huser, fun other hother => ?_, fun other hother => ?_⟩
      · exact List.mem_singleton.1 hother ▸ hkey
      · exact List.mem_singleton.1 hother ▸ hold
    · cases hpermitted

def permits (site : Site) (user : Option Int) (planned : Planned) : Bool :=
  (site.refusal? user planned.key).isNone

theorem Keeps.permits_eq (h : site.Keeps after) (user : Option Int) :
    after.permits user = site.permits user := by
  funext planned
  unfold permits
  rw [h.refusal_eq]

end Site

namespace Planned

/-- What a report says when a write is refused. -/
def reason (planned : Planned) (refusal : Refusal) : String :=
  match planned.facet with
  | none => Reason.writeFailed refusal
  | some facet => Reason.facetWriteFailed facet refusal

theorem perform_of_refusal {planned : Planned} {user : Option Int} {site : Site} {refusal : Refusal}
    (hold : ∃ old, site.store.get planned.key = .ok old)
    (hrefusal : site.refusal? user planned.key = some refusal) :
    planned.perform user site = .error refusal := by
  obtain ⟨live, facet, text⟩ := planned
  cases facet with
  | none =>
    show site.write live text user = _
    unfold Site.write
    have hrefused : site.set live.key text user = .error refusal :=
      Site.set_of_refusal hold hrefusal text
    rw [hrefused, error_bind]
  | some facet =>
    have hrefused : site.set (live.facetKey facet) text user = .error refusal :=
      Site.set_of_refusal hold hrefusal text
    exact hrefused

end Planned

/-- Why a site objects to a planned write, if it does. -/
def Site.objection? (site : Site) (user : Option Int) (planned : Planned) : Option String :=
  (site.refusal? user planned.key).map planned.reason

namespace Progress

variable {before after : Progress} {user : Option Int} {planned : Planned}

/-- A write of a key that can be read is refused by the site, or it is made. -/
theorem write_of_readable (user : Option Int) (hold : ∃ old, before.site.store.get planned.key = .ok old) :
    (∃ refusal, before.site.refusal? user planned.key = some refusal ∧
        before.write false (planned.perform user) planned.row = .error refusal) ∨
      before.site.refusal? user planned.key = none ∧ ∃ change after,
        before.write false (planned.perform user) planned.row = .ok (some change.id, after) ∧
          before.Made [(planned, change)] after := by
  cases hrefusal : before.site.refusal? user planned.key with
  | some refusal =>
    refine .inl ⟨refusal, rfl, ?_⟩
    unfold write
    rw [if_neg Bool.false_ne_true, Planned.perform_of_refusal hold hrefusal, error_bind]
  | none =>
    refine .inr ⟨rfl, ?_⟩
    rcases before.write_cases user planned with ⟨refusal, -, hrefused⟩ | hmade
    · exact absurd (Site.writable_of_permitted hold hrefusal) hrefused
    · exact hmade

end Progress

namespace Apply

/-- How an item fares with a plan: it fails with the first write that is refused, and it is applied if
there is anything to write. -/
def fare (site : Site) (user : Option Int) (plan : List Planned) (idle : Status × Option String) :
    Status × Option String :=
  match plan.findSome? (site.objection? user) with
  | some reason => (.failed, some reason)
  | none => if plan.isEmpty then idle else (.applied, none)

/-- How a run carries out a plan for an item. -/
structure Carries (before : Progress) (user : Option Int) (plan : List Planned) (entry : Entry)
    (result : Entry × Progress) : Prop where
  key_eq : result.1.key = entry.key
  fares : (result.1.status, result.1.reason) =
    fare before.site user plan (entry.status, entry.reason)
  made : ∃ writes, before.Made writes result.2 ∧
    writes.map Prod.fst = plan.takeWhile (before.site.permits user)

namespace Carries

variable {before middle : Progress} {user : Option Int} {planned : Planned} {rest : List Planned}
  {entry next : Entry} {result : Entry × Progress} {change : Change}

theorem nil (before : Progress) (user : Option Int) (entry : Entry) :
    Carries before user [] entry (entry, before) :=
  ⟨rfl, rfl, [], .refl before, rfl⟩

theorem of_refused {refusal : Refusal} (hrefusal : before.site.refusal? user planned.key = some refusal)
    (hkey : next.key = entry.key) (hstatus : next.status = .failed)
    (hreason : next.reason = some (planned.reason refusal)) :
    Carries before user (planned :: rest) entry (next, before) where
  key_eq := hkey
  fares := by
    have hobjection : before.site.objection? user planned = some (planned.reason refusal) := by
      unfold Site.objection?
      rw [hrefusal]
      rfl
    unfold fare
    rw [List.findSome?_cons, hobjection, hstatus, hreason]
  made := by
    refine ⟨[], .refl before, ?_⟩
    rw [List.takeWhile_cons_of_neg]
    · rfl
    · unfold Site.permits
      rw [hrefusal]
      exact Bool.false_ne_true

theorem cons (hpermitted : before.site.refusal? user planned.key = none)
    (hmade : before.Made [(planned, change)] middle) (hkey : next.key = entry.key)
    (hstatus : next.status = .applied) (hreason : next.reason = none)
    (hrest : Carries middle user rest next result) :
    Carries before user (planned :: rest) entry result where
  key_eq := hrest.key_eq.trans hkey
  fares := by
    have hobjections : middle.site.objection? user = before.site.objection? user := by
      funext other
      unfold Site.objection?
      rw [hmade.wrote.keeps.refusal_eq]
    have hobjection : before.site.objection? user planned = none := by
      unfold Site.objection?
      rw [hpermitted]
      rfl
    have hfares := hrest.fares
    unfold fare at hfares ⊢
    rw [hobjections, hstatus, hreason] at hfares
    rw [List.findSome?_cons, hobjection, hfares]
    cases rest.findSome? (before.site.objection? user) with
    | some reason => rfl
    | none => cases rest <;> rfl
  made := by
    obtain ⟨writes, hwrites, heq⟩ := hrest.made
    refine ⟨(planned, change) :: writes, hmade.append hwrites, ?_⟩
    rw [List.map_cons, heq, hmade.wrote.keeps.permits_eq, List.takeWhile_cons_of_pos]
    unfold Site.permits
    rw [hpermitted]
    rfl

end Carries

variable {request : ApplyRequest} {snapshot : Snapshot}

theorem carries_writeFacets (hreal : request.simulate = false) (live : Descriptor)
    {facets : List (Facet × Bool)} {entry : Entry} {progress : Progress}
    (hread : ∀ planned ∈ facets.map fun (facet, on) =>
        (⟨live, some facet, some (Value.flagText on)⟩ : Planned),
      ∃ old, progress.site.store.get planned.key = .ok old) :
    Carries progress request.user
      (facets.map fun (facet, on) => ⟨live, some facet, some (Value.flagText on)⟩) entry
      (writeFacets request live entry progress facets) := by
  induction facets generalizing entry progress with
  | nil => exact .nil _ _ _
  | cons row rest ih =>
    obtain ⟨facet, on⟩ := row
    rw [List.map_cons, List.forall_mem_cons] at hread
    rw [writeFacets, hreal]
    rcases Progress.write_of_readable request.user hread.1 with
      ⟨refusal, hrefusal, hwrite⟩ | ⟨hpermitted, change, after, hwrite, hmade⟩
    · have hwrite : progress.write false
          (·.writeFacet live facet (some (Value.flagText on)) request.user)
          (.facet · live.key.name facet) = .error refusal := hwrite
      rw [hwrite]
      exact .of_refused hrefusal rfl rfl rfl
    · have hwrite : progress.write false
          (·.writeFacet live facet (some (Value.flagText on)) request.user)
          (.facet · live.key.name facet) = .ok (some change.id, after) := hwrite
      rw [hwrite]
      dsimp only
      refine .cons hpermitted hmade ?_ ?_ ?_ (ih fun planned hplanned => ?_)
      · rfl
      · rfl
      · rfl
      · exact hmade.wrote.staysReadable _ (hread.2 planned hplanned)

theorem carries_writeWanted (hreal : request.simulate = false) (live wanted : Descriptor)
    (entry : Entry) {progress : Progress} (hreason : entry.reason = none)
    (hread : ∀ planned ∈ planWanted live wanted,
      ∃ old, progress.site.store.get planned.key = .ok old) :
    Carries progress request.user (planWanted live wanted)
      { entry with reason := some Reason.unchanged }
      (writeWanted request live wanted entry progress) := by
  unfold planWanted at hread ⊢
  unfold writeWanted
  split
  · rename_i hequals
    rw [if_pos hequals] at hread
    exact carries_writeFacets hreal live hread
  · rename_i hdiffers
    rw [if_neg hdiffers, List.forall_mem_cons] at hread
    rw [hreal]
    rcases Progress.write_of_readable request.user hread.1 with
      ⟨refusal, hrefusal, hwrite⟩ | ⟨hpermitted, change, after, hwrite, hmade⟩
    · have hwrite : progress.write false (·.write live wanted.value request.user) .setting =
          .error refusal := hwrite
      dsimp only
      rw [hwrite]
      exact .of_refused hrefusal rfl rfl rfl
    · have hwrite : progress.write false (·.write live wanted.value request.user) .setting =
          .ok (some change.id, after) := hwrite
      dsimp only
      rw [hwrite]
      dsimp only
      refine .cons hpermitted hmade ?_ ?_ ?_ (carries_writeFacets hreal live fun planned hplanned => ?_)
      · rfl
      · rfl
      · exact hreason
      · exact hmade.wrote.staysReadable _ (hread.2 planned hplanned)

/-- How an item fares by the snapshot. -/
def outcome (request : ApplyRequest) (snapshot : Snapshot) (site : Site) (item : Item) :
    Status × Option String :=
  match judge request snapshot item with
  | .excluded => (.excluded, some Reason.excluded)
  | .unknown => (.notApplicable, some Reason.notApplicable)
  | .invalid _ => (.failed, some Reason.invalidValue)
  | .wanted live wanted =>
    fare site request.user (planWanted live wanted) (.unchanged, some Reason.unchanged)

theorem carries_applyItem (hreal : request.simulate = false) (item : Item) (progress : Progress)
    (hread : ∀ planned ∈ plan request snapshot item,
      ∃ old, progress.site.store.get planned.key = .ok old) :
    (applyItem request snapshot item progress).1.key = item.key ∧
      ((applyItem request snapshot item progress).1.status,
        (applyItem request snapshot item progress).1.reason) =
          outcome request snapshot progress.site item ∧
        ∃ writes, progress.Made writes (applyItem request snapshot item progress).2 ∧
          writes.map Prod.fst =
            (plan request snapshot item).takeWhile (progress.site.permits request.user) := by
  unfold plan at hread ⊢
  unfold applyItem outcome
  generalize judge request snapshot item = verdict at hread ⊢
  cases verdict with
  | wanted live wanted =>
    have hcarries := carries_writeWanted hreal live wanted
      { key := item.key, status := .unchanged, visibleName := some live.declared.label
        old := live.value, new := item.value } rfl hread
    exact ⟨hcarries.key_eq, hcarries.fares, hcarries.made⟩
  | _ => exact ⟨rfl, rfl, [], .refl progress, rfl⟩

/-! ### All items -/

/-- A user whom the store has no place for writes nothing. -/
theorem applyItems_of_unaccepted (hreal : request.simulate = false) {progress : Progress}
    (hsnapshot : Snapshot.ofSite progress.site = .ok snapshot)
    (hrefuses : ¬ progress.site.store.accepts request.user) (items : List Item) (index : Nat)
    (report : ApplyReport) :
    (applyItems request snapshot index report progress items).2 = progress := by
  have hpermits (planned : Planned) : ¬ progress.site.permits request.user planned = true := by
    unfold Site.permits Site.refusal?
    rw [if_neg hrefuses]
    split <;> exact Bool.false_ne_true
  induction items generalizing index report with
  | nil => rfl
  | cons item rest ih =>
    rw [applyItems_cons]
    split
    · rfl
    · have hread : ∀ planned ∈ plan request snapshot item,
          ∃ old, progress.site.store.get planned.key = .ok old := fun planned hplanned =>
        readable_plan hsnapshot (List.mem_flatMap.2 ⟨item, List.mem_singleton_self item, hplanned⟩)
      obtain ⟨-, -, writes, hmade, hwrites⟩ := carries_applyItem hreal item progress hread
      have hnone : (plan request snapshot item).takeWhile (progress.site.permits request.user) = [] := by
        cases plan request snapshot item with
        | nil => rfl
        | cons planned rest => rw [List.takeWhile_cons, if_neg (hpermits planned)]
      obtain rfl := List.map_eq_nil_iff.1 (hwrites.trans hnone)
      rw [hmade.eq_of_nil]
      exact ih _ _

theorem run_of_unaccepted (hreal : request.simulate = false) {site : Site} {preset : Preset}
    {report : ApplyReport} {progress : Progress} (hrefuses : ¬ site.store.accepts request.user)
    (hplugins : preset.plugins = []) (hrun : run request site preset = .ok (report, progress)) :
    progress = { site } := by
  obtain ⟨snapshot, hsnapshot, -⟩ := bind_eq_ok.1 hrun
  have hitems : (overItems request snapshot site preset).2 = { site } :=
    applyItems_of_unaccepted hreal hsnapshot hrefuses _ _ _
  cases hcancelled : (overItems request snapshot site preset).1.cancelled with
  | true =>
    rw [run_of_cancelled hsnapshot hcancelled] at hrun
    exact (Prod.mk.inj (Except.ok.inj hrun)).2.symm.trans hitems
  | false =>
    rw [run_of_not_cancelled hsnapshot hcancelled, hplugins] at hrun
    exact (Prod.mk.inj (Except.ok.inj hrun)).2.symm.trans hitems

theorem outcome_of_keeps {site after : Site} (h : site.Keeps after) (item : Item) :
    outcome request snapshot after item = outcome request snapshot site item := by
  have hobjections : after.objection? request.user = site.objection? request.user := by
    funext planned
    unfold Site.objection?
    rw [h.refusal_eq]
  unfold outcome fare
  rw [hobjections]

end Apply

/-- What an entry says of an item: its status and the reason for it. -/
def Entry.brief (entry : Entry) : Key × Status × Option String :=
  (entry.key, entry.status, entry.reason)

theorem Entry.map_brief_filter (test : Status → Bool) (entries : List Entry) :
    (entries.filter fun entry => test entry.status).map Entry.brief =
      (entries.map Entry.brief).filter fun brief => test brief.2.1 := by
  rw [List.filter_map]
  rfl

/-- Whether an item with a status was neither written nor failed. -/
def Status.isSkipped : Status → Bool
  | applied | notApplicable | failed => false
  | _ => true

/-- A report that has got entries, each under its status. -/
structure ApplyReport.Files (report : ApplyReport) (entries : List Entry) (after : ApplyReport) :
    Prop where
  applied : after.applied = report.applied ++ entries.filter fun entry => entry.status = .applied
  skipped : after.skipped = report.skipped ++ entries.filter fun entry => entry.status.isSkipped
  notApplicable : after.notApplicable =
    report.notApplicable ++ entries.filter fun entry => entry.status = .notApplicable
  failed : after.failed = report.failed ++ entries.filter fun entry => entry.status = .failed

namespace ApplyReport.Files

variable {report after : ApplyReport} {entry : Entry} {entries : List Entry}

theorem nil (report : ApplyReport) : report.Files [] report :=
  ⟨(List.append_nil _).symm, (List.append_nil _).symm, (List.append_nil _).symm,
    (List.append_nil _).symm⟩

theorem cons (h : (report.add entry).Files entries after) : report.Files (entry :: entries) after where
  applied := by
    rw [h.applied, List.filter_cons]
    unfold add
    cases entry.status <;> simp
  skipped := by
    rw [h.skipped, List.filter_cons]
    unfold add
    cases entry.status <;> simp [Status.isSkipped]
  notApplicable := by
    rw [h.notApplicable, List.filter_cons]
    unfold add
    cases entry.status <;> simp
  failed := by
    rw [h.failed, List.filter_cons]
    unfold add
    cases entry.status <;> simp

theorem withPlugins (h : report.Files entries after) (plugins : List Entry) :
    report.Files entries { after with plugins } :=
  ⟨h.applied, h.skipped, h.notApplicable, h.failed⟩

end ApplyReport.Files

/-- A report that says something of each item, in the order of the items. -/
structure ApplyReport.Tells (report : ApplyReport) (briefs : List (Key × Status × Option String)) :
    Prop where
  applied : report.applied.map Entry.brief = briefs.filter fun brief => brief.2.1 = .applied
  skipped : report.skipped.map Entry.brief = briefs.filter fun brief => brief.2.1.isSkipped
  notApplicable : report.notApplicable.map Entry.brief =
    briefs.filter fun brief => brief.2.1 = .notApplicable
  failed : report.failed.map Entry.brief = briefs.filter fun brief => brief.2.1 = .failed

theorem ApplyReport.Files.tells {start report : ApplyReport} {entries : List Entry}
    (h : start.Files entries report) (hstart : start.entries = []) :
    report.Tells (entries.map Entry.brief) := by
  unfold ApplyReport.entries at hstart
  simp only [List.append_eq_nil_iff] at hstart
  obtain ⟨⟨⟨happlied, hskipped⟩, hnotApplicable⟩, hfailed⟩ := hstart
  refine ⟨?_, ?_, ?_, ?_⟩
  · rw [h.applied, happlied]
    exact Entry.map_brief_filter (fun status => decide (status = .applied)) entries
  · rw [h.skipped, hskipped]
    exact Entry.map_brief_filter Status.isSkipped entries
  · rw [h.notApplicable, hnotApplicable]
    exact Entry.map_brief_filter (fun status => decide (status = .notApplicable)) entries
  · rw [h.failed, hfailed]
    exact Entry.map_brief_filter (fun status => decide (status = .failed)) entries

namespace Apply

variable {request : ApplyRequest} {snapshot : Snapshot}

/-- A run over the items that is not cancelled carries out what the site permits of the plan of each, and
files an entry for each. -/
theorem outcome_of_applyItems (hreal : request.simulate = false) {site : Site} {items : List Item}
    {index : Nat} {report : ApplyReport} {progress : Progress} (hkeeps : site.Keeps progress.site)
    (hread : ∀ planned ∈ items.flatMap (plan request snapshot),
      ∃ old, progress.site.store.get planned.key = .ok old)
    (huncancelled :
      (applyItems request snapshot index report progress items).1.cancelled = false) :
    ∃ writes entries,
      progress.Made writes (applyItems request snapshot index report progress items).2 ∧
        writes.map Prod.fst = items.flatMap (fun item =>
          (plan request snapshot item).takeWhile (site.permits request.user)) ∧
          report.Files entries (applyItems request snapshot index report progress items).1 ∧
            entries.map Entry.brief =
              items.map fun item => (item.key, outcome request snapshot site item) := by
  induction items generalizing index report progress with
  | nil => exact ⟨[], [], .refl progress, rfl, .nil report, rfl⟩
  | cons item rest ih =>
    rw [List.flatMap_cons] at hread
    rw [applyItems_cons] at huncancelled ⊢
    split at huncancelled
    · rw [(foldl_add_cancelled _ _).1] at huncancelled
      cases huncancelled
    · rename_i hdue
      rw [if_neg hdue]
      obtain ⟨hkey, hfares, writes, hmade, hwrites⟩ := carries_applyItem hreal item progress
        fun planned hplanned => hread planned (List.mem_append_left _ hplanned)
      have hkeeps' := hkeeps.trans hmade.wrote.keeps
      obtain ⟨more, entries, hmore, hrest, hfiles, hentries⟩ := ih hkeeps'
        (fun planned hplanned => hmade.wrote.staysReadable _
          (hread planned (List.mem_append_right _ hplanned))) huncancelled
      have hbrief : (applyItem request snapshot item progress).1.brief =
          (item.key, outcome request snapshot site item) := by
        unfold Entry.brief
        rw [hkey, hfares, outcome_of_keeps hkeeps]
      refine ⟨writes ++ more, (applyItem request snapshot item progress).1 :: entries,
        hmade.append hmore, ?_, hfiles.cons, ?_⟩
      · rw [List.map_append, hwrites, hrest, hkeeps.permits_eq, List.flatMap_cons]
      · rw [List.map_cons, List.map_cons, hentries, hbrief]

theorem outcome_of_plan_nil {site : Site} {item : Item} (hplan : plan request snapshot item = []) :
    (outcome request snapshot site item).1 ≠ .applied := by
  unfold plan at hplan
  unfold outcome
  cases hjudge : judge request snapshot item with
  | wanted live wanted =>
    rw [hjudge] at hplan
    dsimp only at hplan ⊢
    rw [hplan]
    exact fun h => nomatch h
  | _ => exact fun h => nomatch h

/-- A run over items without plans leaves everything as it is. -/
theorem applyItems_of_plan_nil (hreal : request.simulate = false) {items : List Item} {index : Nat}
    {report : ApplyReport} {progress : Progress}
    (hplan : ∀ item ∈ items, plan request snapshot item = [])
    (huncancelled :
      (applyItems request snapshot index report progress items).1.cancelled = false) :
    (applyItems request snapshot index report progress items).2 = progress ∧
      (applyItems request snapshot index report progress items).1.applied = report.applied := by
  have hnil : items.flatMap (plan request snapshot) = [] := List.flatMap_eq_nil_iff.2 hplan
  obtain ⟨writes, entries, hmade, hwrites, hfiles, hentries⟩ := outcome_of_applyItems hreal
    (.refl progress.site) (fun planned hplanned => by rw [hnil] at hplanned; cases hplanned)
    huncancelled
  have hwritten : writes.map Prod.fst = [] := by
    rw [hwrites]
    exact List.flatMap_eq_nil_iff.2 fun item hitem => by rw [hplan item hitem]; rfl
  have hentry : (entries.filter fun entry => entry.status = .applied) = [] := by
    refine List.filter_eq_nil_iff.2 fun entry hentry => ?_
    have hbrief : entry.brief ∈ entries.map Entry.brief := List.mem_map_of_mem hentry
    rw [hentries] at hbrief
    obtain ⟨item, hitem, hbrief⟩ := List.mem_map.1 hbrief
    have hstatus : entry.status = (outcome request snapshot progress.site item).1 :=
      congrArg (fun brief => brief.2.1) hbrief.symm
    rw [hstatus]
    simpa using outcome_of_plan_nil (hplan item hitem)
  rw [List.map_eq_nil_iff] at hwritten
  refine ⟨(hwritten ▸ hmade).eq_of_nil, ?_⟩
  rw [hfiles.applied, hentry, List.append_nil]

end Apply

end SitePresets
