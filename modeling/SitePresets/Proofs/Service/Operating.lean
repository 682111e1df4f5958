import SitePresets.Proofs.Apply.Plugins
import SitePresets.Proofs.Rollback.Row
import SitePresets.Proofs.Service.Recording
import SitePresets.Service.Step

/-!
# What an operation consists of

An apply or a rollback changes a site by two kinds of acts only: it writes through a setting that the
site declares, and it sets the state of an installed plugin. All that operations keep is kept by every
act.
-/

namespace SitePresets

namespace Site

/-- Whether a setting is one of the site: the first that it declares with that key, of the kind that
it gives it. -/
structure Declares (site : Site) (live : Descriptor) : Prop where
  find_eq : site.tree.find? live.key = some live.declared
  kind_eq : live.kind = Resolver.kindOf site.chain live.declared

/-- A write through a setting of a site, to its value or to a facet that it has. -/
structure Admits (site : Site) (planned : Planned) : Prop where
  declares : site.Declares planned.live
  facet_mem : ∀ facet, planned.facet = some facet → facet ∈ planned.live.kind.facets

/-- The acts of an operation on a site, with the changes that they make one after another. -/
inductive Operates : Site → List Change → Site → Prop
  | nil {site : Site} : Operates site [] site
  | write {site middle after : Site} {planned : Planned} {user : Option Int} {change : Change}
    {rest : List Change} (hadmits : site.Admits planned)
    (hperform : planned.perform user site = .ok (change, middle)) (hrest : Operates middle rest after) :
    Operates site (change :: rest) after
  | switch {site middle after : Site} {plugin : Plugin} {enabled old : Int} {rest : List Change}
    (hset : site.setPlugin plugin enabled = .ok (old, middle)) (hrest : Operates middle rest after) :
    Operates site rest after

variable {site middle after : Site} {changes more : List Change} {live : Descriptor}
  {planned : Planned} {user : Option Int} {change : Change}

theorem Declares.congr (h : site.Declares live) (htree : after.tree = site.tree)
    (hchain : after.chain = site.chain) : after.Declares live :=
  ⟨htree ▸ h.find_eq, hchain ▸ h.kind_eq⟩

/-- The settings of a snapshot are settings of the site. -/
theorem declares_of_get {snapshot : Snapshot} (h : Snapshot.ofSite site = .ok snapshot) {key : Key}
    (hlive : snapshot.get? key = some live) : site.Declares live := by
  obtain ⟨declared, hoffered, hread⟩ := Snapshot.read_of_get h hlive
  have hshows := shows_of_read hread
  obtain ⟨-, hfind⟩ := offered_eq_some.1 hoffered
  obtain ⟨-, hkey⟩ := mem_of_offered hoffered
  have hlivekey : live.key = key := by
    rw [← hkey, ← hshows.declared_eq]
    rfl
  rw [← hlivekey, ← hshows.declared_eq] at hfind
  exact ⟨hfind, hshows.declared_eq ▸ hshows.kind_eq⟩

namespace Operates

theorem append (h : site.Operates changes middle) (h' : middle.Operates more after) :
    site.Operates (changes ++ more) after := by
  induction h with
  | nil => exact h'
  | write hadmits hperform _ ih => exact .write hadmits hperform (ih h')
  | switch hset _ ih => exact .switch hset (ih h')

theorem of_perform (hadmits : site.Admits planned)
    (hperform : planned.perform user site = .ok (change, after)) : site.Operates [change] after :=
  .write hadmits hperform .nil

theorem of_setPlugin {plugin : Plugin} {enabled old : Int}
    (hset : site.setPlugin plugin enabled = .ok (old, after)) : site.Operates [] after :=
  .switch hset .nil

theorem tree_eq (h : site.Operates changes after) : after.tree = site.tree := by
  induction h with
  | nil => rfl
  | write _ hperform _ ih => exact ih.trans (Planned.wrote_of_perform hperform).1.keeps.tree_eq
  | switch hset _ ih => exact ih.trans (switches_of_setPlugin hset).tree_eq

theorem chain_eq (h : site.Operates changes after) : after.chain = site.chain := by
  induction h with
  | nil => rfl
  | write _ hperform _ ih => exact ih.trans (Planned.wrote_of_perform hperform).1.keeps.chain_eq
  | switch hset _ ih => exact ih.trans (switches_of_setPlugin hset).chain_eq

theorem declares (h : site.Operates changes after) (hlive : site.Declares live) :
    after.Declares live :=
  hlive.congr h.tree_eq h.chain_eq

/-- The log grows by the changes. -/
theorem changes_eq (h : site.Operates changes after) :
    after.store.changes = site.store.changes ++ changes.map .ok := by
  induction h with
  | nil => exact (List.append_nil _).symm
  | write _ hperform _ ih =>
    rw [ih, (Planned.wrote_of_perform hperform).1.store.changes_eq, List.append_assoc]
    rfl
  | switch hset _ ih => rw [ih, (switches_of_setPlugin hset).values.changes_eq]

/-- The same plugins are installed, whatever their states are. -/
theorem installed_eq (h : site.Operates changes after) (plugin : Plugin) :
    after.store.pluginTable.contains plugin = site.store.pluginTable.contains plugin := by
  induction h with
  | nil => rfl
  | write _ hperform _ ih =>
    rw [ih, (Planned.wrote_of_perform hperform).1.keeps.pluginTable_eq]
  | @switch site middle after other enabled old rest hset _ ih =>
    have hother : site.store.plugin? other = some old := (setPlugin_eq_ok.1 hset).2.1
    rw [ih]
    show (middle.store.plugin? plugin).isSome = (site.store.plugin? plugin).isSome
    rw [plugin_of_setPlugin hset]
    split
    · rename_i hsame
      rw [hsame, hother]
      rfl
    · rfl

end Operates

end Site

/-! ### Applying -/

namespace Apply

variable {request : ApplyRequest} {snapshot : Snapshot} {live : Descriptor} {progress after : Progress}
  {planned : Planned}

theorem operates_write {logId : Option Nat} (hadmits : progress.site.Admits planned)
    (h : progress.write request.simulate (planned.perform request.user) planned.row =
      .ok (logId, after)) : ∃ changes, progress.site.Operates changes after.site := by
  unfold Progress.write at h
  split at h
  · obtain ⟨-, rfl⟩ := Prod.mk.inj (Except.ok.inj h)
    exact ⟨[], .nil⟩
  · obtain ⟨⟨change, site⟩, hperform, h⟩ := bind_eq_ok.1 h
    obtain ⟨-, rfl⟩ := Prod.mk.inj (Except.ok.inj h)
    exact ⟨[change], .of_perform hadmits hperform⟩

theorem operates_writeFacets (facets : List (Facet × Bool)) (entry : Entry) (progress : Progress)
    (hlive : progress.site.Declares live) (hfacets : ∀ row ∈ facets, row.1 ∈ live.kind.facets) :
    ∃ changes, progress.site.Operates changes
      (writeFacets request live entry progress facets).2.site := by
  induction facets generalizing entry progress with
  | nil => exact ⟨[], .nil⟩
  | cons row rest ih =>
    obtain ⟨facet, on⟩ := row
    unfold writeFacets
    dsimp only
    split
    · exact ⟨[], .nil⟩
    · rename_i logId next hwrite
      have hadmits : progress.site.Admits ⟨live, some facet, some (Value.flagText on)⟩ :=
        ⟨hlive, fun _ hfacet => Option.some.inj hfacet ▸ hfacets _ List.mem_cons_self⟩
      obtain ⟨changes, hfirst⟩ := operates_write hadmits hwrite
      obtain ⟨more, hrest⟩ := ih _ next (hfirst.declares hlive)
        fun row hrow => hfacets row (List.mem_cons_of_mem _ hrow)
      exact ⟨changes ++ more, hfirst.append hrest⟩

theorem operates_writeWanted {wanted : Descriptor} (entry : Entry) (progress : Progress)
    (hlive : progress.site.Declares live) (hfacets : ∀ row ∈ wanted.facets, row.1 ∈ live.kind.facets) :
    ∃ changes, progress.site.Operates changes
      (writeWanted request live wanted entry progress).2.site := by
  have hchanged : ∀ row ∈ facetChanges live wanted, row.1 ∈ live.kind.facets :=
    fun row hrow => hfacets row (List.mem_of_mem_filter hrow)
  unfold writeWanted
  split
  · exact operates_writeFacets _ _ progress hlive hchanged
  · dsimp only
    split
    · exact ⟨[], .nil⟩
    · rename_i logId next hwrite
      have hadmits : progress.site.Admits ⟨live, none, wanted.value⟩ := ⟨hlive, fun _ h => nomatch h⟩
      obtain ⟨changes, hfirst⟩ := operates_write hadmits hwrite
      obtain ⟨more, hrest⟩ := operates_writeFacets _ _ next (hfirst.declares hlive) hchanged
      exact ⟨changes ++ more, hfirst.append hrest⟩

theorem operates_applyItem (item : Item) (progress : Progress)
    (hsnapshot : ∀ key live, snapshot.get? key = some live → progress.site.Declares live) :
    ∃ changes, progress.site.Operates changes (applyItem request snapshot item progress).2.site := by
  unfold applyItem
  cases hjudge : judge request snapshot item with
  | wanted live wanted =>
    obtain ⟨-, hlive, rfl, -⟩ := judge_eq_wanted.1 hjudge
    refine operates_writeWanted _ progress (hsnapshot _ _ hlive) fun row hrow => ?_
    exact (Descriptor.mem_facets_withStored.1 hrow).1
  | _ => exact ⟨[], .nil⟩

theorem operates_applyItems (items : List Item) (index : Nat) (report : ApplyReport)
    (progress : Progress)
    (hsnapshot : ∀ key live, snapshot.get? key = some live → progress.site.Declares live) :
    ∃ changes, progress.site.Operates changes
      (applyItems request snapshot index report progress items).2.site := by
  induction items generalizing index report progress with
  | nil => exact ⟨[], .nil⟩
  | cons item rest ih =>
    rw [applyItems_cons]
    split
    · exact ⟨[], .nil⟩
    · obtain ⟨changes, hitem⟩ := operates_applyItem item progress hsnapshot
      obtain ⟨more, hrest⟩ := ih (index + 1) _ _
        fun key live hlive => hitem.declares (hsnapshot key live hlive)
      exact ⟨changes ++ more, hitem.append hrest⟩

theorem operates_setPlugin {plugin : Plugin} {enabled : Int}
    (h : progress.setPlugin request.simulate plugin enabled = .ok after) :
    progress.site.Operates [] after.site := by
  unfold Progress.setPlugin at h
  split at h
  · obtain rfl := Except.ok.inj h
    exact .nil
  · obtain ⟨⟨old, site⟩, hset, h⟩ := bind_eq_ok.1 h
    obtain rfl := Except.ok.inj h
    exact .of_setPlugin hset

theorem operates_applyPlugin (progress : Progress) (row : StoredPlugin) :
    progress.site.Operates [] (applyPlugin request progress row).2.site := by
  unfold applyPlugin
  dsimp only
  split
  · exact .nil
  · split
    · exact .nil
    · split
      · exact .nil
      · rename_i next hset
        exact operates_setPlugin hset

theorem operates_applyPlugins (plugins : List StoredPlugin) (entries : List Entry)
    (progress : Progress) :
    progress.site.Operates [] (applyPlugins request entries progress plugins).2.site := by
  induction plugins generalizing entries progress with
  | nil => exact .nil
  | cons row rest ih => exact (operates_applyPlugin progress row).append (ih _ _)

theorem operates_run {site : Site} {preset : Preset} {report : ApplyReport}
    (h : run request site preset = .ok (report, progress)) :
    ∃ changes, site.Operates changes progress.site := by
  obtain ⟨snapshot, hsnapshot, h⟩ := bind_eq_ok.1 h
  obtain ⟨changes, hitems⟩ : ∃ changes, site.Operates changes
      (overItems request snapshot site preset).2.site :=
    operates_applyItems _ _ _ { site } fun key live hlive => Site.declares_of_get hsnapshot hlive
  dsimp only at h
  split at h
  · obtain ⟨-, rfl⟩ := Prod.mk.inj (Except.ok.inj h)
    exact ⟨changes, hitems⟩
  · obtain ⟨-, rfl⟩ := Prod.mk.inj (Except.ok.inj h)
    exact ⟨changes ++ [], hitems.append (operates_applyPlugins _ _ _)⟩

end Apply

/-! ### Rolling back -/

namespace Rollback

variable {user : Option Int} {snapshot : Snapshot} {site after : Site} {row : LedgerRow}
  {entry : Entry}

theorem operates_restoreSetting {logId : Nat}
    (hsnapshot : ∀ key live, snapshot.get? key = some live → site.Declares live)
    (h : restoreSetting user snapshot site row logId = .ok (entry, some after)) :
    ∃ changes, site.Operates changes after := by
  obtain ⟨found, -, h⟩ := bind_eq_ok.1 h
  dsimp only at h
  cases found with
  | none => cases h
  | some change =>
    dsimp only at h
    split at h
    · cases h
    · rename_i live hlive
      obtain ⟨hget, hsupports⟩ := Option.filter_eq_some_iff.1 hlive
      split at h
      · split at h
        · cases h
        · rename_i written hwrite
          obtain ⟨-, hsome⟩ := Prod.mk.inj (Except.ok.inj h)
          obtain rfl := Option.some.inj hsome
          rw [writeBack_eq_perform] at hwrite
          refine ⟨_, .of_perform ⟨hsnapshot _ _ hget, fun facet hfacet => ?_⟩ hwrite⟩
          have hfacet : facetOf row = some facet := hfacet
          rw [supports, hfacet] at hsupports
          exact List.contains_iff_mem.1 hsupports
      · cases h

theorem operates_restorePlugin {plugin : Plugin} {value old : Int}
    (h : restorePlugin site plugin value old = (entry, some after)) : site.Operates [] after := by
  unfold restorePlugin at h
  dsimp only at h
  split at h
  · cases h
  · split at h
    · split at h
      · cases h
      · rename_i hset
        obtain ⟨-, hsome⟩ := Prod.mk.inj h
        obtain rfl := Option.some.inj hsome
        exact .of_setPlugin hset
    · cases h

theorem operates_restoreRow
    (hsnapshot : ∀ key live, snapshot.get? key = some live → site.Declares live)
    (h : restoreRow user snapshot site row = .ok (entry, some after)) :
    ∃ changes, site.Operates changes after := by
  cases row with
  | setting | facet => exact operates_restoreSetting hsnapshot h
  | plugin => exact ⟨[], operates_restorePlugin (Except.ok.inj h)⟩

/-- A run over rows operates on the site, and keeps some of the rows. -/
theorem operates_restoreRows {cancellation : Cancellation} {rows : List LedgerRow} {index : Nat}
    {state result : State}
    (hsnapshot : ∀ key live, snapshot.get? key = some live → state.site.Declares live)
    (h : restoreRows user cancellation snapshot index state rows = .ok result) :
    (∃ changes, state.site.Operates changes result.site) ∧
      ∃ kept, result.kept = state.kept ++ kept ∧ kept.Sublist rows := by
  induction rows generalizing index state with
  | nil =>
    obtain rfl := Except.ok.inj h
    exact ⟨⟨[], .nil⟩, [], (List.append_nil _).symm, .slnil⟩
  | cons row rest ih =>
    unfold restoreRows at h
    split at h
    · obtain ⟨skipped, -, h⟩ := bind_eq_ok.1 (leaving_eq_ok.1 h)
      obtain rfl := Except.ok.inj h
      exact ⟨⟨[], .nil⟩, row :: rest, rfl, .refl _⟩
    · obtain ⟨⟨entry, restored⟩, hrow, h⟩ := bind_eq_ok.1 h
      have hrow := leaving_eq_ok.1 hrow
      cases restored with
      | none =>
        have hfailed : ∀ key live, snapshot.get? key = some live →
            (state.failed entry row).site.Declares live := hsnapshot
        obtain ⟨hoperates, kept, hkept, hpart⟩ := ih hfailed h
        refine ⟨hoperates, row :: kept, ?_, hpart.cons_cons row⟩
        rw [hkept]
        exact List.append_assoc _ _ _
      | some next =>
        obtain ⟨changes, hfirst⟩ := operates_restoreRow hsnapshot hrow
        obtain ⟨⟨more, hrest⟩, kept, hkept, hpart⟩ :=
          ih (fun key live hlive => hfirst.declares (hsnapshot key live hlive)) h
        exact ⟨⟨changes ++ more, hfirst.append hrest⟩, kept, hkept, hpart.cons row⟩

/-- A run over rows that fails has operated on the site too. -/
theorem operates_of_restoreRows_error {cancellation : Cancellation} {rows : List LedgerRow}
    {index : Nat} {state : State} {failure : Failure Refusal Site}
    (hsnapshot : ∀ key live, snapshot.get? key = some live → state.site.Declares live)
    (h : restoreRows user cancellation snapshot index state rows = .error failure) :
    ∃ changes, state.site.Operates changes failure.left := by
  induction rows generalizing index state with
  | nil => cases h
  | cons row rest ih =>
    unfold restoreRows at h
    split at h
    · exact ⟨[], left_of_leaving h ▸ .nil⟩
    · rcases bind_eq_error.1 h with h | ⟨⟨entry, restored⟩, hrow, h⟩
      · exact ⟨[], left_of_leaving h ▸ .nil⟩
      · cases restored with
        | none => exact @ih (index + 1) (state.failed entry row) hsnapshot h
        | some next =>
          obtain ⟨changes, hfirst⟩ := operates_restoreRow hsnapshot (leaving_eq_ok.1 hrow)
          obtain ⟨more, hrest⟩ :=
            ih (fun key live hlive => hfirst.declares (hsnapshot key live hlive)) h
          exact ⟨changes ++ more, hfirst.append hrest⟩

theorem operates_run {cancellation : Cancellation} {application : Application} {state : State}
    (h : run user cancellation site application = .ok state) :
    (∃ changes, site.Operates changes state.site) ∧ state.kept.Sublist application.rows := by
  obtain ⟨snapshot, hsnapshot, h⟩ := bind_eq_ok.1 h
  obtain ⟨result, hrows, h⟩ := bind_eq_ok.1 h
  obtain rfl := Except.ok.inj h
  obtain ⟨hoperates, kept, hkept, hpart⟩ := operates_restoreRows
    (fun key live hlive => Site.declares_of_get (leaving_eq_ok.1 hsnapshot) hlive) hrows
  rw [List.nil_append] at hkept
  exact ⟨hoperates, hkept ▸ hpart⟩

theorem operates_of_run_error {cancellation : Cancellation} {application : Application}
    {failure : Failure Refusal Site}
    (h : run user cancellation site application = .error failure) :
    ∃ changes, site.Operates changes failure.left := by
  rcases bind_eq_error.1 h with h | ⟨snapshot, hsnapshot, h⟩
  · exact ⟨[], left_of_leaving h ▸ .nil⟩
  · rcases bind_eq_error.1 h with h | ⟨result, -, h⟩
    · exact operates_of_restoreRows_error
        (fun key live hlive => Site.declares_of_get (leaving_eq_ok.1 hsnapshot) hlive) h
    · cases h

end Rollback

/-! ### The service -/

/-- Whether a step applies a preset or rolls an application back. -/
def Step.IsOperation : Step → Prop
  | .apply .. | .rollback .. => True
  | _ => False

namespace Service

theorem operates_apply (service : Service) (presetId : Int) (request : ApplyRequest)
    (timeout : Option Int) :
    ∃ changes, service.site.Operates changes (service.apply presetId request timeout).2.site := by
  rcases service.apply_cases presetId request timeout with
    ⟨error, happly⟩ | ⟨preset, report, progress, -, -, hrun, -, happly⟩ |
      ⟨preset, progress, -, -, -, hbegins, happly⟩
  · rw [happly]
    exact ⟨[], .nil⟩
  · rw [happly, site_record]
    exact Apply.operates_run hrun
  · obtain ⟨begun, -, -, report, hrun⟩ := hbegins.run_eq
    rw [happly]
    exact Apply.operates_run hrun

theorem operates_rollback {service after : Service} {applicationId : Int} {user : Option Int}
    {cancellation : Cancellation} {timeout : Option Int} {report : RollbackReport}
    (hok : service.rollback applicationId user cancellation timeout = .ok (report, after)) :
    ∃ changes, service.site.Operates changes after.site := by
  obtain ⟨application, -, hok⟩ := bind_eq_ok.1 hok
  obtain ⟨_, -, hok⟩ := bind_eq_ok.1 hok
  obtain ⟨state, hrun, hok⟩ := bind_eq_ok.1 hok
  obtain ⟨-, rfl⟩ := Prod.mk.inj (Except.ok.inj hok)
  exact (Rollback.operates_run (mapError_eq_ok.1 hrun)).1

theorem operates_of_rollback_error {service : Service} {applicationId : Int} {user : Option Int}
    {cancellation : Cancellation} {timeout : Option Int} {failure : Failure Error Service}
    (h : service.rollback applicationId user cancellation timeout = .error failure) :
    ∃ changes, service.site.Operates changes failure.left.site := by
  rcases bind_eq_error.1 h with h | ⟨application, -, h⟩
  · exact ⟨[], left_of_leaving h ▸ .nil⟩
  rcases bind_eq_error.1 h with h | ⟨_, -, h⟩
  · exact ⟨[], left_of_leaving h ▸ .nil⟩
  rcases bind_eq_error.1 h with h | ⟨state, -, h⟩
  · obtain ⟨failed, hrun, rfl⟩ := mapError_eq_error.1 h
    exact Rollback.operates_of_run_error hrun
  · cases h

theorem asking_eq_ok {α : Type} {service : Service} {result : Except Refusal α} {a : α} :
    service.asking result = .ok a ↔ result = .ok a :=
  leaving_eq_ok.trans ofStore_eq_ok

theorem settle_eq_ok {α : Type} {result : Except (Failure Error Service) (α × Service)} {a : α}
    {after : Service} (h : settle result = (.ok a, after)) : result = .ok (a, after) := by
  cases result with
  | error failure => cases h
  | ok result =>
    obtain ⟨hanswer, rfl⟩ := Prod.mk.inj h
    rw [← Except.ok.inj hanswer]

theorem settle_eq_error {α : Type} {result : Except (Failure Error Service) (α × Service)}
    {error : Error} {left : Service} (h : settle result = (.error error, left)) :
    result = .error { cause := error, left } := by
  cases result with
  | ok result => cases h
  | error failure =>
    obtain ⟨hcause, rfl⟩ := Prod.mk.inj h
    rw [← Except.error.inj hcause]

/-- What holds of all that a result leaves holds of the service that is settled. -/
theorem settle_induction {α : Type} {result : Except (Failure Error Service) (α × Service)}
    {motive : Service → Prop} (hok : ∀ answer after, result = .ok (answer, after) → motive after)
    (herror : ∀ failure, result = .error failure → motive failure.left) :
    motive (settle result).2 := by
  cases result with
  | error failure => exact herror _ rfl
  | ok result => exact hok _ _ rfl

theorem left_of_write {key : Key} {facet value : Option String} {user : Option Int}
    {failure : Failure Error Service} (h : service.write key facet value user = .error failure) :
    failure.left = service := by
  have hofWrite {result : Except Refusal (Change × Site)}
      (h : service.ofWrite result = .error failure) : failure.left = service := by
    rcases bind_eq_error.1 h with h | ⟨_, -, h⟩
    · exact left_of_leaving h
    · cases h
  rcases bind_eq_error.1 h with h | ⟨found, -, h⟩
  · unfold setting? at h
    split at h
    · exact left_of_leaving h
    · cases h
  · split at h
    · exact left_of_leaving h
    · split at h
      · exact hofWrite h
      · split at h
        · exact hofWrite h
        · exact left_of_leaving h

/-- A step on the site makes one write, or none if it fails; only an install makes several. -/
theorem left_of_siteStep {step : SiteStep} {failure : Failure Error Service}
    (hstep : ∀ seeded default, step ≠ .install seeded default)
    (h : service.siteStep step = .error failure) : failure.left = service := by
  cases step with
  | write key facet value user => exact left_of_write h
  | install seeded default => exact absurd rfl (hstep seeded default)
  | read key =>
    rcases bind_eq_error.1 h with h | ⟨_, -, h⟩
    · unfold setting? at h
      split at h
      · exact left_of_leaving h
      · cases h
    · cases h
  | set | get | log | setPlugin | settings | tree | installPlugins =>
    rcases bind_eq_error.1 h with h | ⟨_, -, h⟩
    · exact left_of_leaving h
    · cases h
  | plugin | plugins | handlers | scopeAvailable | visible | setVisible => cases h

/-- What an install that fails has done: nothing, or it has registered the plugins, and perhaps begun to
apply a preset. -/
theorem left_of_install {exclusions : List Key} {seeded : Bool} {default : String}
    {failure : Failure Error Service} (h : service.install exclusions seeded default = .error failure) :
    failure.left = service ∨ ∃ middle, service.installPlugins Stock.plugins = .ok middle ∧
      (failure.left = middle ∨ ∃ library preset request,
        failure.left = ((middle.withLibrary library).apply preset request none).2) := by
  rcases bind_eq_error.1 h with h | ⟨middle, hmiddle, h⟩
  · exact .inl (left_of_leaving h)
  · refine .inr ⟨middle, leaving_eq_ok.1 hmiddle, ?_⟩
    split at h
    · unfold seed at h
      split at h
      · cases h
      · rcases bind_eq_error.1 h with h | ⟨⟨created, library⟩, -, h⟩
        · exact .inl (left_of_leaving h)
        · dsimp only at h
          split at h
          · rename_i preset hpreset
            rcases bind_eq_error.1 h with h | ⟨_, -, h⟩
            · refine .inr ⟨library, preset.id, { exclusions }, ?_⟩
              generalize (middle.withLibrary library).apply preset.id { exclusions } none = applied at h
              obtain ⟨result, next⟩ := applied
              cases result with
              | error error => exact congrArg Failure.left (Except.error.inj h).symm
              | ok report => cases h
            · cases h
          · cases h
    · cases h

theorem left_of_siteStep_cases {step : SiteStep} {failure : Failure Error Service}
    (h : service.siteStep step = .error failure) :
    failure.left = service ∨ ∃ middle, service.installPlugins Stock.plugins = .ok middle ∧
      (failure.left = middle ∨ ∃ library preset request,
        failure.left = ((middle.withLibrary library).apply preset request none).2) := by
  by_cases hinstall : ∃ seeded default, step = .install seeded default
  · obtain ⟨seeded, default, rfl⟩ := hinstall
    rcases bind_eq_error.1 h with h | ⟨_, -, h⟩
    · exact left_of_install h
    · cases h
  · exact .inl (left_of_siteStep (fun seeded default heq => hinstall ⟨seeded, default, heq⟩) h)

/-- A step leaves the site as it is, or as its attempt has made it. -/
theorem site_after_cases (service : Service) (step : Step) :
    (service.after step).site = service.site ∨
      (service.after step).site = (service.attempt step).2.site := by
  unfold Service.after Service.step
  generalize service.attempt step = attempted
  obtain ⟨result, next⟩ := attempted
  cases result with
  | ok answer => exact .inr rfl
  | error error =>
    dsimp only
    unfold takeBack
    split
    · exact .inr rfl
    · exact .inl rfl

theorem operates_attempt (service : Service) {step : Step} (hstep : step.IsOperation) :
    ∃ changes, service.site.Operates changes (service.attempt step).2.site := by
  cases step with
  | apply preset request timeout =>
    exact service.operates_apply preset { request with exclusions := service.exclusions } timeout
  | rollback application user cancellation timeout =>
    refine settle_induction (motive := fun after => ∃ changes, service.site.Operates changes after.site)
      (fun answer after hok => ?_) fun failure hfailed => ?_
    · obtain ⟨⟨report, next⟩, hrollback, hok⟩ := bind_eq_ok.1 hok
      obtain ⟨-, rfl⟩ := Prod.mk.inj (Except.ok.inj hok)
      exact operates_rollback hrollback
    · rcases bind_eq_error.1 hfailed with hfailed | ⟨_, -, hfailed⟩
      · exact operates_of_rollback_error hfailed
      · cases hfailed
  | site | library | world => exact hstep.elim

theorem operates_step (service : Service) {step : Step} (hstep : step.IsOperation) :
    ∃ changes, service.site.Operates changes (service.after step).site := by
  rcases service.site_after_cases step with hsite | hsite
  · exact ⟨[], hsite ▸ .nil⟩
  · rw [hsite]
    exact service.operates_attempt hstep

theorem operates_steps (service : Service) {steps : List Step}
    (hsteps : ∀ step ∈ steps, step.IsOperation) :
    ∃ changes, service.site.Operates changes (service.run steps).2.site := by
  induction steps generalizing service with
  | nil => exact ⟨[], .nil⟩
  | cons step rest ih =>
    obtain ⟨changes, hstep⟩ := service.operates_step (hsteps step List.mem_cons_self)
    obtain ⟨more, hrest⟩ := ih (service.after step)
      fun step hstep => hsteps step (List.mem_cons_of_mem _ hstep)
    exact ⟨changes ++ more, hstep.append hrest⟩

end Service

end SitePresets
