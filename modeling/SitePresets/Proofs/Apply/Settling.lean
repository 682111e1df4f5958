import SitePresets.Proofs.Apply.Idempotence
import SitePresets.Proofs.Rollback.Plugins
import SitePresets.Proofs.Site.Switching

/-!
# Applying again after plugins were set

Items are judged by the snapshot at the start, and the plugins of a preset are set after its items. So an
item may have to wait for a plugin that its own preset enables: the first apply turns it away, and the
second one applies it. Nothing else is left for the second apply, and nothing at all for a third.
-/

namespace SitePresets

/-- How setting plugins lets an item in that was turned away: its setting has become available, or the
handler that it names has become one of the choices. -/
inductive Site.LetsIn (site after : Site) (item : Item) : Status × Option String → Prop where
  | scope (hbefore : site.store.scopeAvailable item.key.scope = false)
    (hafter : after.store.scopeAvailable item.key.scope) :
    LetsIn site after item (.notApplicable, some Reason.notApplicable)
  | choice {declared : Declaration} {type handler : String}
    (hoffered : site.offered? item.key = some declared)
    (hkind : Resolver.kindOf site.chain declared = .handlerSelect)
    (htype : declared.handlerType = some type) (hvalue : item.value = some handler)
    (hbefore : handler ∉ site.store.handlersOf type) (hafter : handler ∈ after.store.handlersOf type) :
    LetsIn site after item (.failed, some Reason.invalidValue)

theorem Site.Switches.refusal_eq {site after : Site} (h : site.Switches after) (user : Option Int) :
    after.refusal? user = site.refusal? user := by
  funext key
  unfold refusal? Store.accepts
  rw [h.readOnly_eq, h.values.holds_eq]

theorem Site.LetsIn.ne_unchanged {site after : Site} {item : Item} {told : Status × Option String}
    (h : site.LetsIn after item told) : told.1 ≠ .unchanged := by
  cases h <;> exact nofun

/-- What a report tells of an item stands in one of its entries. -/
theorem ApplyReport.Tells.mem_entries {report : ApplyReport}
    {briefs : List (Key × Status × Option String)} (h : report.Tells briefs)
    {brief : Key × Status × Option String} (hbrief : brief ∈ briefs) :
    brief ∈ report.entries.map Entry.brief := by
  unfold entries
  simp only [List.map_append, h.applied, h.skipped, h.notApplicable, h.failed, List.mem_append,
    List.mem_filter, hbrief, true_and]
  cases brief.2.1 <;> simp [Status.isSkipped]

namespace Apply

variable {request : ApplyRequest} {site middle after : Site} {snapshot later : Snapshot} {items : List Item}
  {writes : List (Planned × Change)} {item : Item} {live now wanted again : Descriptor}

/-! ### Items -/

section Switched

variable {choices : Option (List (String × String))}

/-- A setting is planned alike among two sets of choices that both have what is wanted. -/
theorem planWanted_withChoices (hvalue : item.value.isSome)
    (hvalid : (live.withStored item.value item.attributes).isValid)
    (hagain : ((live.withChoices choices).withStored item.value item.attributes).isValid) :
    planWanted (live.withChoices choices)
        ((live.withChoices choices).withStored item.value item.attributes) =
      (planWanted live (live.withStored item.value item.attributes)).map
        (Planned.on · (live.withChoices choices)) := by
  obtain ⟨source, hsource⟩ := Option.isSome_iff_exists.1 hvalue
  have hfamily : (live.withChoices choices).rule.family = live.rule.family := rfl
  have hnumeric : (live.withChoices choices).rule.numeric = live.rule.numeric := rfl
  obtain ⟨cleaned, hcleaned⟩ : ∃ cleaned, live.rule.cleanText source = some cleaned := by
    rw [hsource] at hvalid
    exact Option.isSome_iff_exists.1 hvalid
  have haccepted : (live.withChoices choices).rule.cleanText source = some cleaned := by
    rw [hsource] at hagain
    exact ValueRule.cleanText_eq_of_accepted hfamily hnumeric hcleaned hagain
  have hvalue : (live.withStored item.value item.attributes).value = some cleaned := by
    rw [hsource]
    exact hcleaned
  have hvalue_again :
      ((live.withChoices choices).withStored item.value item.attributes).value = some cleaned := by
    rw [hsource]
    exact haccepted
  have hequals : (live.withChoices choices).equals (some cleaned) = live.equals (some cleaned) :=
    ValueRule.same_eq_of_accepted hfamily hnumeric hcleaned haccepted live.raw
  have hfacets : planFacets (live.withChoices choices)
        ((live.withChoices choices).withStored item.value item.attributes) =
      (planFacets live (live.withStored item.value item.attributes)).map
        (Planned.on · (live.withChoices choices)) := by
    unfold planFacets
    rw [List.map_map]
    rfl
  unfold planWanted
  rw [hvalue, hvalue_again, hequals, hfacets]
  split <;> rfl

end Switched

/-- An item that both snapshots want fares as if no plugin had been switched. -/
theorem outcome_of_switches (h : middle.Switches after) (hsnapshot : Snapshot.ofSite middle = .ok snapshot)
    (hlater : Snapshot.ofSite after = .ok later) (hvalue : item.value.isSome)
    (hjudge : judge request snapshot item = .wanted live wanted)
    (hagain : judge request later item = .wanted now again) :
    outcome request later after item = outcome request snapshot middle item ∧
      ((plan request later item).takeWhile (after.permits request.user)).length =
        ((plan request snapshot item).takeWhile (middle.permits request.user)).length := by
  obtain ⟨-, hlive, rfl, hvalid⟩ := judge_eq_wanted.1 hjudge
  obtain ⟨-, hnow, rfl, hvalid_again⟩ := judge_eq_wanted.1 hagain
  obtain rfl := h.now_eq hsnapshot hlater hlive hnow
  have hdeclared : ∀ planned ∈ planWanted live (live.withStored item.value item.attributes),
      (live.withChoices (Site.choicesOf after.store live.kind live.declared)).declared =
        planned.live.declared := by
    intro planned hplanned
    rw [live_of_mem_planWanted hplanned]
    rfl
  obtain ⟨hfare, htake⟩ := fare_on (h.refusal_eq request.user) hdeclared
    (.unchanged, some Reason.unchanged)
  unfold outcome plan
  rw [hjudge, hagain]
  dsimp only
  rw [planWanted_withChoices hvalue hvalid hvalid_again, hfare, htake, List.length_map]
  exact ⟨rfl, rfl⟩

/-- A setting that rejects an item until plugins are switched chooses among handlers. -/
theorem handlers_of_rejected {store after : Store} (hvalue : item.value.isSome)
    (hchoices : live.choices = Site.choicesOf store live.kind live.declared)
    (hnow : now = live.withChoices (Site.choicesOf after live.kind live.declared))
    (hinvalid : ¬ (live.withStored item.value item.attributes).isValid)
    (hvalid : (now.withStored item.value item.attributes).isValid) :
    live.kind = .handlerSelect ∧ ∃ type handler, live.declared.handlerType = some type ∧
      item.value = some handler ∧ handler ∉ store.handlersOf type ∧ handler ∈ after.handlersOf type := by
  obtain ⟨handler, hhandler⟩ := Option.isSome_iff_exists.1 hvalue
  rw [hhandler] at hinvalid hvalid
  rcases Site.choicesOf_cases live.kind live.declared with hsame | ⟨hkind, type, htype, hhandlers⟩
  · rw [hnow, hsame store, ← hchoices] at hvalid
    exact absurd hvalid hinvalid
  have hfamily : live.rule.family = .choice := congrArg Kind.family hkind
  have hfamily_now : now.rule.family = .choice := by
    rw [hnow]
    exact hfamily
  have hbefore : live.rule.isChoice handler = decide (handler ∈ store.handlersOf type) :=
    Site.isChoice_handlers (hchoices.trans (hhandlers store)) handler
  have hafter : now.rule.isChoice handler = decide (handler ∈ after.handlersOf type) :=
    Site.isChoice_handlers ((congrArg Descriptor.choices hnow).trans (hhandlers after)) handler
  rw [← ValueRule.isSome_cleanText_of_choice hfamily] at hbefore
  rw [← ValueRule.isSome_cleanText_of_choice hfamily_now] at hafter
  refine ⟨hkind, type, handler, htype, hhandler, fun hmem => hinvalid ?_, ?_⟩
  · exact hbefore.trans (decide_eq_true hmem)
  · exact of_decide_eq_true (hafter.symm.trans hvalid)

/-- An item that is wanted only once plugins have been switched has been let in by them. -/
theorem letsIn_of_switches (hkeeps : site.Keeps middle) (h : middle.Switches after)
    (hsnapshot : Snapshot.ofSite middle = .ok snapshot) (hlater : Snapshot.ofSite after = .ok later)
    (hvalue : item.value.isSome) (hunwanted : ∀ live wanted, judge request snapshot item ≠ .wanted live wanted)
    (hagain : judge request later item = .wanted now again) :
    site.LetsIn after item (outcome request snapshot middle item) := by
  obtain ⟨hkept, hnow, rfl, hvalid⟩ := judge_eq_wanted.1 hagain
  unfold outcome
  rcases judge_cases request snapshot item with
    ⟨hmem, hoverride, -⟩ | ⟨-, ⟨hnone, hjudge⟩ | ⟨live, hlive, hjudge⟩⟩
  · rw [hoverride] at hkept
    exact absurd hmem (hkept.resolve_right Bool.false_ne_true)
  · obtain ⟨hbefore, hafter⟩ := h.scopeAvailable_of_new hsnapshot hlater hnone hnow
    rw [hkeeps.samePlugins.scopeAvailable_eq] at hbefore
    rw [hjudge]
    exact .scope hbefore hafter
  · have hinvalid : ¬ (live.withStored item.value item.attributes).isValid := by
      intro hvalid
      rw [if_pos hvalid] at hjudge
      exact hunwanted _ _ hjudge
    rw [if_neg hinvalid] at hjudge
    rw [hjudge]
    have hsame := h.now_eq hsnapshot hlater hlive hnow
    obtain ⟨declared, hoffered, hread⟩ := Snapshot.read_of_get hsnapshot hlive
    have hshows := Site.shows_of_read hread
    obtain rfl := hshows.declared_eq
    obtain ⟨hkind, type, handler, htype, hhandler, hbefore, hafter⟩ :=
      handlers_of_rejected hvalue hshows.choices_eq hsame hinvalid hvalid
    rw [hshows.kind_eq, hkeeps.chain_eq] at hkind
    rw [hkeeps.offered_eq] at hoffered
    rw [(hkeeps.samePlugins.handlersOf_perm type).mem_iff] at hbefore
    exact .choice hoffered hkind htype hhandler hbefore hafter

theorem settled_eq_self {fared : Status × Option String} (h : (settled fared).1 ≠ .unchanged) :
    settled fared = fared := by
  unfold settled at h ⊢
  split
  · rename_i happlied
    rw [if_pos happlied] at h
    exact absurd rfl h
  · rfl

/-- An item is settled after a run, or the plugins that it has set have let it in. -/
theorem Carried.settles_or_letsIn (h : Carried request site snapshot items middle writes)
    (hswitches : middle.Switches after) (hlater : Snapshot.ofSite after = .ok later) (hitem : item ∈ items)
    (hvalue : item.value.isSome) :
    ((outcome request later after item).1 ≠ .applied ∧
        (plan request later item).takeWhile (after.permits request.user) = []) ∨
      site.LetsIn after item (outcome request snapshot site item) := by
  -- Between its items and its plugins the first run has left a site on which all items are settled.
  obtain ⟨between, hbetween⟩ := h.wrote.keeps.exists_ofSite h.wrote.staysReadable h.reads
  obtain ⟨hsettled, hidle⟩ := h.settles_of_value hbetween hitem hvalue
  cases hagain : judge request later item with
  | wanted now again =>
    by_cases hwanted : ∃ live wanted, judge request between item = .wanted live wanted
    · obtain ⟨live, wanted, hjudge⟩ := hwanted
      obtain ⟨hsame, hlength⟩ := outcome_of_switches hswitches hbetween hlater hvalue hjudge hagain
      rw [hidle] at hlength
      rw [hsame, hsettled]
      exact .inl ⟨settledBrief_ne_applied (item.key, _), List.length_eq_zero_iff.1 hlength⟩
    · have hunwanted : ∀ live wanted, judge request between item ≠ .wanted live wanted :=
        fun live wanted hjudge => hwanted ⟨live, wanted, hjudge⟩
      have hletsIn := letsIn_of_switches h.wrote.keeps hswitches hbetween hlater hvalue hunwanted hagain
      rw [hsettled] at hletsIn
      rw [settled_eq_self hletsIn.ne_unchanged] at hletsIn
      exact .inr hletsIn
  | _ =>
    unfold outcome plan
    rw [hagain]
    exact .inl ⟨nofun, rfl⟩

/-! ### Plugins -/

theorem status_applyPlugin_of_state {progress : Progress} {row : StoredPlugin}
    (h : progress.site.store.plugin? row.plugin = some row.enabled) :
    (applyPlugin request progress row).1.status ≠ .applied := by
  unfold applyPlugin
  rw [h]
  dsimp only
  rw [if_pos Iff.rfl]
  exact nofun

/-- A run over plugins that names each of them once sets none again. -/
theorem applyPlugins_settles (hreal : request.simulate = false) {plugins : List StoredPlugin}
    (hdistinct : (plugins.map StoredPlugin.plugin).Nodup) (entries : List Entry) (progress : Progress)
    {row : StoredPlugin} (hrow : row ∈ plugins) {other : Progress}
    (hother : (applyPlugins request entries progress plugins).2.site.SameState other.site row.plugin) :
    (applyPlugin request other row).1.status ≠ .applied := by
  induction plugins generalizing entries progress with
  | nil => cases hrow
  | cons first rest ih =>
    obtain ⟨hfirst, hrest⟩ := List.nodup_cons.1 hdistinct
    rcases List.mem_cons.1 hrow with rfl | hrow
    · obtain ⟨rows, hsets⟩ := setsOnce_applyPlugins hreal hrest
        (entries ++ [(applyPlugin request progress row).1]) (applyPlugin request progress row).2
      -- The other rows name other plugins, so the state that counts is the one this row has left.
      have hstate : (applyPlugin request progress row).2.site.SameState other.site row.plugin :=
        (hsets.sameState hfirst).trans hother
      rcases applyPlugin_cases hreal progress row with ⟨hidle, hsame⟩ | hset
      · rw [hsame] at hstate
        rw [(applyPlugin_idle hreal hidle).2 other hstate]
        exact hidle
      · obtain ⟨⟨old, site⟩, hset, hafter⟩ := bind_eq_ok.1 hset
        have henabled := hstate.plugin_eq
        rw [← Except.ok.inj hafter, Site.plugin_of_setPlugin hset, if_pos rfl] at henabled
        exact status_applyPlugin_of_state henabled
    · exact ih hrest _ _ hrow hother

/-- A run over plugins none of which it would set on a site sets none on it. -/
theorem applyPlugins_of_settled (hreal : request.simulate = false) {plugins : List StoredPlugin}
    {entries : List Entry} {progress : Progress} (hentries : ∀ entry ∈ entries, entry.status ≠ .applied)
    (h : ∀ row ∈ plugins, (applyPlugin request progress row).1.status ≠ .applied) :
    (applyPlugins request entries progress plugins).2 = progress ∧
      ∀ entry ∈ (applyPlugins request entries progress plugins).1, entry.status ≠ .applied := by
  induction plugins generalizing entries with
  | nil => exact ⟨rfl, hentries⟩
  | cons row rest ih =>
    obtain ⟨hrow, hrest⟩ := List.forall_mem_cons.1 h
    rw [applyPlugins_cons, (applyPlugin_idle hreal hrow).1]
    refine ih (List.forall_mem_append.2 ⟨hentries, ?_⟩) hrest
    exact List.forall_mem_singleton.2 hrow

/-- What lets an item in is a plugin that the preset enables: the one that its setting belongs to, or the one
that it names. -/
theorem exists_enabling {plugins : List StoredPlugin} {told : Status × Option String}
    (h : site.LetsIn after item told) (hkeeps : site.Keeps middle) (hset : middle.SetFrom plugins after) :
    ∃ row ∈ plugins, 0 < row.enabled ∧
      (Plugin.ofScope item.key.scope = row.plugin ∨ item.value = some row.plugin.text) := by
  cases h with
  | scope hbefore hafter =>
    obtain ⟨hchanged, henabled⟩ := Store.plugin_of_available hbefore hafter
    rw [← hkeeps.plugin_eq] at hchanged
    obtain ⟨row, hrow, hplugin, hstate⟩ := (hset.plugin_eq _).resolve_left hchanged
    exact ⟨row, hrow, henabled _ hstate, .inl hplugin.symm⟩
  | choice _ _ _ hvalue hbefore hafter =>
    obtain ⟨state, hstate, htype, henabled, htext⟩ := Store.mem_handlersOf.1 hafter
    rcases hset.mem_rows state hstate with hbefore' | ⟨row, hrow, rfl⟩
    · rw [hkeeps.pluginTable_eq] at hbefore'
      exact absurd (Store.mem_handlersOf.2 ⟨state, hbefore', htype, henabled, htext⟩) hbefore
    · exact ⟨row, hrow, henabled, .inr (htext ▸ hvalue)⟩

/-! ### Runs -/

/-- An item that was waiting for plugins: a first report has turned it away, and they have let it in. -/
def Awaited (site after : Site) (report : ApplyReport) (item : Item) : Prop :=
  ∃ told, (item.key, told) ∈ report.entries.map Entry.brief ∧ site.LetsIn after item told

/-- What a run of a preset leaves for a second one: no plugin, and no item but those that were let in. -/
structure Leaves (request : ApplyRequest) (site : Site) (preset : Preset) (report : ApplyReport)
    (after : Site) (later : Snapshot) : Prop where
  apart : after.tree.FacetsApart
  items : ∀ row ∈ preset.items,
    ((outcome request later after row.item).1 ≠ .applied ∧
      (plan request later row.item).takeWhile (after.permits request.user) = []) ∨
    Awaited site after report row.item
  enabling : ∀ item, Awaited site after report item → ∃ row ∈ preset.plugins, 0 < row.enabled ∧
    (Plugin.ofScope item.key.scope = row.plugin ∨ item.value = some row.plugin.text)
  plugins : ∀ other : Progress, after.Keeps other.site → ∀ row ∈ preset.plugins,
    (applyPlugin request other row).1.status ≠ .applied
  uncancelled : (∀ row ∈ preset.items, ¬ Awaited site after report row.item) →
    (overItems request later after preset).1.cancelled = false

/-- What a second run of a preset comes to over what the first one has left. -/
structure Settled (site : Site) (preset : Preset) (report : ApplyReport) (after : Site)
    (more : List (Planned × Change)) (again : ApplyReport) (last : Progress) : Prop where
  made : Progress.Made { site := after } more last
  applicationId_eq : again.applicationId = none
  plugins : ∀ entry ∈ again.plugins, entry.status ≠ .applied
  applied : again.cancelled = false → ∀ entry ∈ again.applied, ∃ row ∈ preset.items,
    entry.key = row.item.key ∧ Awaited site after report row.item
  unchanged : (∀ row ∈ preset.items, ¬ Awaited site after report row.item) →
    again.cancelled = false ∧ again.applied = [] ∧ more = []

section Runs

variable {preset : Preset} {report : ApplyReport} {progress : Progress}

theorem leaves_of_run (hreal : request.simulate = false) (hroot : site.tree.FacetsApart)
    (hkeys : ((preset.items.map StoredItem.item).map Item.key).Nodup)
    (hvalues : ∀ row ∈ preset.items, row.item.value.isSome)
    (hdistinct : (preset.plugins.map StoredPlugin.plugin).Nodup)
    (hrun : run request site preset = .ok (report, progress)) (huncancelled : report.cancelled = false)
    (hlater : Snapshot.ofSite progress.site = .ok later) :
    Leaves request site preset report progress.site later := by
  obtain ⟨snapshot, hsnapshot, -⟩ := bind_eq_ok.1 hrun
  obtain ⟨hitemsrun, hreport, hprogress⟩ := run_uncancelled hsnapshot hrun huncancelled
  obtain ⟨writes, hmade, hcarried, htells⟩ := exists_carried hreal hroot hkeys hsnapshot hitemsrun
  obtain ⟨rows, hsets⟩ := setsOnce_applyPlugins hreal hdistinct []
    (overItems request snapshot site preset).2
  rw [← hprogress] at hsets
  have hitems : ∀ row ∈ preset.items,
      ((outcome request later progress.site row.item).1 ≠ .applied ∧
        (plan request later row.item).takeWhile (progress.site.permits request.user) = []) ∨
      Awaited site progress.site report row.item := by
    intro row hrow
    have hitem : row.item ∈ preset.items.map StoredItem.item := List.mem_map_of_mem hrow
    refine (hcarried.settles_or_letsIn hsets.switches hlater hitem (hvalues row hrow)).imp id
      fun hletsIn => ⟨_, ?_, hletsIn⟩
    rw [hreport]
    exact (htells _).mem_entries (List.mem_map_of_mem hitem)
  refine ⟨?_, hitems, fun item hawaited => ?_, fun other hother row hrow => ?_, fun hnone => ?_⟩
  · rw [hsets.switches.tree_eq, hmade.wrote.keeps.tree_eq]
    exact hroot
  · obtain ⟨told, -, hletsIn⟩ := hawaited
    have hset := setFrom_applyPlugins hreal preset.plugins [] (overItems request snapshot site preset).2
    rw [← hprogress] at hset
    exact exists_enabling hletsIn hmade.wrote.keeps hset
  · have hstate := hother.sameState row.plugin
    rw [hprogress] at hstate
    exact applyPlugins_settles hreal hdistinct _ _ hrow hstate
  · refine applyItems_uncancelled hreal _ (.refl site) (.refl progress.site)
      (fun planned => readable_plan hsnapshot) (fun planned => readable_plan hlater) (Nat.le_refl 0)
      (List.forall_mem_map.2 fun row hrow => ?_) hitemsrun
    rw [((hitems row hrow).resolve_right (hnone row hrow)).2]
    exact Nat.zero_le _

namespace Leaves

variable {after : Site}

theorem of_recorded (h : Leaves request site preset report after later) (id : Option Nat) :
    Leaves request site preset { report with applicationId := id } after later :=
  ⟨h.apart, h.items, h.enabling, h.plugins, h.uncancelled⟩

/-- The second run applies what the first one has left. -/
theorem applied_of_tells (h : Leaves request site preset report after later) {again : ApplyReport}
    (htells : again.Tells ((preset.items.map StoredItem.item).map fun item =>
      (item.key, outcome request later after item))) :
    ∀ entry ∈ again.applied, ∃ row ∈ preset.items,
      entry.key = row.item.key ∧ Awaited site after report row.item := by
  intro entry hentry
  have hbrief : entry.brief ∈ again.applied.map Entry.brief := List.mem_map_of_mem hentry
  rw [htells.applied] at hbrief
  obtain ⟨hmem, happlied⟩ := List.mem_filter.1 hbrief
  obtain ⟨item, hitem, hbrief⟩ := List.mem_map.1 hmem
  obtain ⟨row, hrow, rfl⟩ := List.mem_map.1 hitem
  obtain ⟨hkey, hfared⟩ := Prod.mk.inj hbrief
  refine ⟨row, hrow, hkey.symm, (h.items row hrow).resolve_left fun hsettled => hsettled.1 ?_⟩
  rw [hfared]
  exact of_decide_eq_true happlied

theorem exists_settled (h : Leaves request site preset report after later)
    (hreal : request.simulate = false) (hkeys : ((preset.items.map StoredItem.item).map Item.key).Nodup)
    (hlater : Snapshot.ofSite after = .ok later) :
    ∃ more again last, run request after preset = .ok (again, last) ∧
      Settled site preset report after more again last := by
  cases hcancelled : (overItems request later after preset).1.cancelled with
  | true =>
    obtain ⟨reached, -, ⟨more, hmore, -, -⟩, -⟩ := performs_applyItems hreal
      (preset.items.map StoredItem.item) 0
      { presetId := preset.id, simulated := request.simulate } { site := after }
    exact ⟨more, _, _, run_of_cancelled hlater hcancelled, {
      made := hmore
      applicationId_eq := applicationId_applyItems _ _ _ _
      plugins := List.forall_mem_map.2 fun row _ => nofun
      applied := fun hfalse => nomatch hcancelled.symm.trans hfalse
      unchanged := fun hnone => nomatch hcancelled.symm.trans (h.uncancelled hnone) }⟩
  | false =>
    obtain ⟨more, hmore, hcarried, htells⟩ := exists_carried hreal h.apart hkeys hlater hcancelled
    obtain ⟨hidle, hunset⟩ := applyPlugins_of_settled hreal (List.forall_mem_nil _)
      (h.plugins _ hmore.wrote.keeps)
    have hrun := run_of_not_cancelled hlater hcancelled
    rw [hidle] at hrun
    have happlied := h.applied_of_tells (htells (applyPlugins request []
      (overItems request later after preset).2 preset.plugins).1)
    refine ⟨more, _, _, hrun, {
      made := hmore
      applicationId_eq := applicationId_applyItems _ _ _ _
      plugins := hunset
      applied := fun _ => happlied
      unchanged := fun hnone => ⟨hcancelled, ?_, ?_⟩ }⟩
    · refine List.eq_nil_iff_forall_not_mem.2 fun entry hentry => ?_
      obtain ⟨row, hrow, -, hawaited⟩ := happlied entry hentry
      exact hnone row hrow hawaited
    · rw [← List.map_eq_nil_iff (f := Prod.fst), hcarried.writes_eq, List.flatMap_eq_nil_iff]
      exact List.forall_mem_map.2 fun row hrow =>
        ((h.items row hrow).resolve_right (hnone row hrow)).2

end Leaves

end Runs

end Apply

/-! ### The service -/

theorem Site.not_letsIn_self {site : Site} {item : Item} {told : Status × Option String} :
    ¬ site.LetsIn site item told := by
  intro h
  cases h with
  | scope hbefore hafter => exact nomatch hbefore.symm.trans hafter
  | choice _ _ _ _ hbefore hafter => exact hbefore hafter

namespace Service

variable {service next : Service} {presetId : Int} {request : ApplyRequest} {timeout : Option Int}
  {preset : Preset} {report : ApplyReport}

theorem apply_of_recorded {first again : ApplyReport} {progress : Progress}
    (hpreset : service.library.getPreset presetId = .ok preset) (hlock : service.locked = false)
    (hrecord : service.record preset request.user first progress = (.ok report, next))
    (hagain : Apply.run request progress.site preset = .ok (again, { site := progress.site })) :
    next.apply presetId request timeout = (.ok again, next) := by
  rcases record_eq_ok hrecord with ⟨-, rfl⟩ | ⟨application, library, happlication, -, rfl⟩
  · exact apply_of_idle hpreset hlock hagain
  · exact apply_of_idle (Library.getPreset_of_recordApplication hpreset happlication) hlock hagain

/-- How applying a preset that sets plugins comes to rest: the second apply writes only what they have let
in, and the third one writes nothing. -/
structure ComesToRest (service : Service) (presetId : Int) (request : ApplyRequest) (timeout : Option Int)
    (preset : Preset) (report : ApplyReport) (next : Service) (again : ApplyReport) (last : Service) :
    Prop where
  apply_eq : next.apply presetId request timeout = (.ok again, last)
  plugins : ∀ entry ∈ again.plugins, entry.status ≠ .applied
  applied : again.cancelled = false → ∀ entry ∈ again.applied, ∃ row ∈ preset.items,
    entry.key = row.item.key ∧ Apply.Awaited service.site next.site report row.item
  /-- What an item waits for is a plugin that the preset enables. -/
  enabling : ∀ row ∈ preset.items, Apply.Awaited service.site next.site report row.item →
    ∃ state ∈ preset.plugins, 0 < state.enabled ∧
      (Plugin.ofScope row.item.key.scope = state.plugin ∨ row.item.value = some state.plugin.text)
  /-- Without such items one apply is enough. -/
  unchanged : (∀ row ∈ preset.items, ¬ Apply.Awaited service.site next.site report row.item) →
    again.cancelled = false ∧ again.applied = [] ∧ again.applicationId = none ∧ last = next
  third : again.cancelled = false →
    ∃ third, last.apply presetId request timeout = (.ok third, last) ∧ again.Repeats third

theorem exists_comesToRest (time : Int) {later : Snapshot}
    (hleaves : Apply.Leaves request service.site preset report next.site later)
    (hreal : request.simulate = false) (hkeys : ((preset.items.map StoredItem.item).map Item.key).Nodup)
    (hvalues : ∀ row ∈ preset.items, row.item.value.isSome)
    (hlater : Snapshot.ofSite next.site = .ok later)
    (hpreset : next.library.getPreset presetId = .ok { preset with timeApplied := time })
    (hlock : next.locked = false)
    (hrecord : next.site ≠ service.site → Library.canRecord next.clock request.user = true) :
    ∃ again last, ComesToRest service presetId request timeout preset report next again last := by
  obtain ⟨more, again, last, hrun, hsettled⟩ := hleaves.exists_settled hreal hkeys hlater
  have hroom : more ≠ [] → Library.canRecord next.clock request.user = true := by
    refine fun hmore => hrecord fun hsame => hmore (hsettled.unchanged fun row hrow hawaited => ?_).2.2
    obtain ⟨told, -, hletsIn⟩ := hawaited
    rw [hsame] at hletsIn
    exact Site.not_letsIn_self hletsIn
  obtain ⟨id, after, happly, hafter, hid, hsame⟩ :=
    apply_of_made hpreset hlock hrun hsettled.made hsettled.applicationId_eq hroom
  refine ⟨_, after, {
    apply_eq := happly
    plugins := hsettled.plugins
    applied := hsettled.applied
    enabling := fun row _ => hleaves.enabling row.item
    unchanged := fun hnone => ?_
    third := fun hcancelled => ?_ }⟩
  · obtain ⟨hcancelled, happlied, hmore⟩ := hsettled.unchanged hnone
    exact ⟨hcancelled, happlied, hid.2 hmore, hsame hmore⟩
  · obtain ⟨third, hthird, hrepeats⟩ := Apply.run_again preset hreal hleaves.apart hkeys hvalues hrun
      hcancelled hsettled.plugins rfl rfl
    obtain ⟨found, ran, progress, hfound, -, hran, -, hrecorded⟩ := run_of_apply happly
    obtain rfl := Except.ok.inj (hfound.symm.trans hpreset)
    obtain ⟨rfl, rfl⟩ := Prod.mk.inj (Except.ok.inj (hran.symm.trans hrun))
    exact ⟨third, apply_of_recorded hpreset hlock hrecorded hthird, hrepeats.of_recorded id⟩

/-- A second apply sets no plugin, and applies only items that were turned away by the first one and let
in by the plugins it has set. Without such items it does nothing, and a third one never does. -/
theorem apply_settles {later : Snapshot} (hroot : service.site.tree.FacetsApart)
    (hsound : service.library.Sound) (hreal : request.simulate = false)
    (hpreset : service.library.getPreset presetId = .ok preset)
    (hvalues : ∀ row ∈ preset.items, row.item.value.isSome)
    (hdistinct : (preset.plugins.map StoredPlugin.plugin).Nodup)
    (happly : service.apply presetId request timeout = (.ok report, next))
    (huncancelled : report.cancelled = false) (hlater : Snapshot.ofSite next.site = .ok later) :
    ∃ again last, ComesToRest service presetId request timeout preset report next again last := by
  have hkeys := (hsound preset (Library.mem_of_getPreset hpreset)).keys_nodup
  obtain ⟨found, ran, progress, hfound, hlock, hrun, -, hrecord⟩ := run_of_apply happly
  obtain rfl := Except.ok.inj (hfound.symm.trans hpreset)
  obtain ⟨snapshot, hsnapshot, -⟩ := bind_eq_ok.1 hrun
  by_cases hnil : progress.rows = []
  · rw [record_of_nil hnil] at hrecord
    obtain ⟨hreport, rfl⟩ := Prod.mk.inj hrecord
    obtain rfl := Except.ok.inj hreport
    have hleaves := Apply.leaves_of_run hreal hroot hkeys hvalues hdistinct hrun huncancelled hlater
    have hsame := Apply.site_eq_of_rows_nil hreal hdistinct hsnapshot hrun huncancelled hnil
    exact exists_comesToRest found.timeApplied hleaves hreal hkeys hvalues hlater hpreset hlock
      fun hne => absurd hsame hne
  · obtain ⟨application, library, hrecorded, rfl, rfl⟩ := record_eq_ok_of_ne_nil hnil hrecord
    have hleaves := Apply.leaves_of_run hreal hroot hkeys hvalues hdistinct hrun huncancelled hlater
    exact exists_comesToRest service.clock (hleaves.of_recorded _) hreal hkeys hvalues hlater
      (Library.getPreset_of_recordApplication hpreset hrecorded) hlock
      fun _ => (Library.fits_of_recordApplication hrecorded).1

end Service

namespace SmallSite

def limits : Key := ⟨"mod_chat", "limits"⟩

def talker : Key := ⟨siteScope, "talker"⟩

/-- A preset that enables a plugin, assigns a setting of it, and chooses it for a task. -/
def enabling : Preset :=
  { preset 1 [⟨1, chat, 1⟩] with items := [
    ⟨1, { key := notice, value := some "closed", attributes := [] }⟩,
    ⟨2, { key := limits, value := some "5", attributes := [] }⟩,
    ⟨3, { key := talker, value := some chat.text, attributes := [] }⟩] }

/-- A site on which the plugin is disabled. -/
def enablingService : Service where
  site := {
    store := .memory (.ofLists [] [(chat, 0)])
    tree := .category "root" "" [.page "front" "" [
      .setting { name := notice.name },
      .setting { name := limits.name, plugin := some limits.scope },
      .setting {
        name := talker.name
        component := some "core_h5p"
        settingClass := "admin_settings_h5plib_handler_select"
        handlerType := some chat.type }]] }
  library := { presets := [enabling] }

theorem enabling_comes_to_rest :
    ∃ report next again last, enablingService.apply 1 {} none = (.ok report, next) ∧
      report.applied.map Entry.key = [notice] ∧
        Service.ComesToRest enablingService 1 {} none enabling report next again last := by
  have hsound : enablingService.library.Sound := by
    intro stored hstored
    rw [List.mem_singleton.1 hstored]
    exact ⟨(by decide : [notice, limits, talker].Nodup), by decide⟩
  obtain ⟨report, hreport, happlied, huncancelled⟩ :
      ∃ report, (enablingService.apply 1 {} none).1 = .ok report ∧
        report.applied.map Entry.key = [notice] ∧ report.cancelled = false :=
    ⟨_, rfl, by decide, by decide⟩
  have hpreset : enablingService.library.getPreset 1 = .ok enabling := by decide
  obtain ⟨again, last, hrest⟩ := Service.apply_settles (by decide) hsound rfl hpreset (by decide)
    (by decide) (Prod.ext hreport rfl) huncancelled rfl
  exact ⟨report, _, again, last, Prod.ext hreport rfl, happlied, hrest⟩

/-- A setting that has its value in the variable of a facet, and a preset that assigns both. -/
def overlappingService : Service where
  site := {
    store := .memory (.ofLists [(comments, some "0")] [])
    tree := .category "root" "" [.page "front" "" [
      .setting { name := "comments", settingClass := "admin_setting_configcheckbox_with_advanced" },
      .setting { name := "comments_adv" }]] }
  library := { presets := [{ preset 1 [] with items := [
    ⟨1, { key := comments, value := some "0", attributes := [("comments_adv", some "1")] }⟩,
    ⟨2, { key := ⟨siteScope, "comments_adv"⟩, value := some "0", attributes := [] }⟩] }] }

/-- A database with a password of a disabled plugin that cannot be decrypted, and a preset that enables the
plugin. -/
def unreadableService : Service where
  site := {
    store := .rows { Rows.empty with
      values := ⟨[(⟨"mod_chat", "password"⟩, { stored := .plain "secret", updatedBy := none })]⟩
      plugins := ⟨[(chat, 0)]⟩ }
    tree := .category "root" "" [.page "chat" "" [
      .setting { name := "password", plugin := some "mod_chat" }]] }
  library := { presets := [{ preset 1 [⟨1, chat, 1⟩] with items := [] }] }

/-- A second apply that has two items left, one that writes over and over again, and one that fails. -/
theorem enabling_applies_again :
    (∃ report next again last, enablingService.apply 1 {} none = (.ok report, next) ∧
      report.cancelled = false ∧ next.apply 1 {} none = (.ok again, last) ∧ again.cancelled = false ∧
        again.applied.map Entry.key = [limits, talker] ∧ again.applicationId = some 2) ∧
    (∃ report next again last, overlappingService.apply 1 {} none = (.ok report, next) ∧
      report.cancelled = false ∧ next.apply 1 {} none = (.ok again, last) ∧ again.cancelled = false ∧
        again.applied.map Entry.key = [comments] ∧ again.applicationId = some 2) ∧
    ∃ report next, unreadableService.apply 1 {} none = (.ok report, next) ∧ report.cancelled = false ∧
      next.apply 1 {} none = (.error (.refused (.undecryptable "password")), next) := by
  refine ⟨⟨_, _, _, _, rfl, ?_, rfl, ?_, ?_, ?_⟩, ⟨_, _, _, _, rfl, ?_, rfl, ?_, ?_, ?_⟩,
    ⟨_, _, rfl, ?_, rfl⟩⟩
  all_goals decide

end SmallSite

end SitePresets
