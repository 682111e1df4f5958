import SitePresets.Proofs.Apply.Idempotence
import SitePresets.Proofs.Rollback.Inverse
import SitePresets.Proofs.Service.References

/-!
# Items without values

An item without a value takes the value of its setting away. The setting has its default for a value from
then on, if that is one, so what was written does not last: the next apply takes the value away once more,
and a rollback finds that it has diverged. Everything else lasts.
-/

namespace SitePresets

namespace Apply

/-- Whether an item takes a value away for which the default of the setting stands in at once. -/
def lapses (request : ApplyRequest) (snapshot : Snapshot) (site : Site) (item : Item) : Bool :=
  match judge request snapshot item with
  | .wanted live _ =>
    item.value.isNone && live.value.isSome && (site.refusal? request.user live.key).isNone &&
      (live.rule.clean (some live.declared.defaultText)).isSome
  | _ => false

/-- The keys of the items that do not last. -/
def lapsing (request : ApplyRequest) (snapshot : Snapshot) (site : Site) (items : List Item) :
    List Key :=
  (items.filter (lapses request snapshot site)).map Item.key

variable {request : ApplyRequest} {site after : Site} {snapshot : Snapshot} {items : List Item}
  {writes : List (Planned × Change)} {item : Item}

/-- The flag of a facet lasts. -/
theorem filter_reverts_facets (live wanted : Descriptor) (test : Planned → Bool) :
    ((planFacets live wanted).takeWhile test).filter Planned.reverts = [] := by
  refine List.filter_eq_nil_iff.2 fun planned hplanned => ?_
  obtain ⟨facet, on, -, -, rfl⟩ := mem_planFacets.1 ((List.takeWhile_sublist _).subset hplanned)
  exact Bool.false_ne_true

/-- An item writes nothing that does not last but its value. -/
theorem brief_lapsed (hsnapshot : Snapshot.ofSite site = .ok snapshot) (item : Item) :
    (lapsed request snapshot site item).map Planned.brief =
      if lapses request snapshot site item then [(item.key, none)] else [] := by
  cases hvalue : item.value with
  | some value =>
    have hlasts : lapses request snapshot site item = false := by
      unfold lapses
      rw [hvalue]
      cases judge request snapshot item <;> rfl
    rw [lapsed_of_value (hvalue ▸ rfl), hlasts]
    rfl
  | none =>
    cases hjudge : judge request snapshot item with
    | wanted live wanted =>
      obtain ⟨-, hlive, rfl, -⟩ := judge_eq_wanted.1 hjudge
      have hplan : plan request snapshot item =
          if live.value.isNone then planFacets live (live.withStored none item.attributes)
          else ⟨live, none, none⟩ :: planFacets live (live.withStored none item.attributes) := by
        unfold plan
        rw [hjudge, hvalue, ← ValueRule.same_none live.rule]
        rfl
      have hlapses : lapses request snapshot site item =
          (live.value.isSome && (site.refusal? request.user live.key).isNone &&
            (live.rule.clean (some live.declared.defaultText)).isSome) := by
        unfold lapses
        rw [hjudge, hvalue]
        rfl
      have hreverts : Planned.reverts ⟨live, none, none⟩ =
          (live.rule.clean (some live.declared.defaultText)).isSome := rfl
      have hpermits : site.permits request.user ⟨live, none, none⟩ =
          (site.refusal? request.user live.key).isNone := rfl
      unfold lapsed
      rw [hplan, hlapses]
      cases live.value with
      | none =>
        rw [if_pos Option.isNone_none, filter_reverts_facets]
        rfl
      | some current =>
        rw [Option.isNone_some, if_neg Bool.false_ne_true, List.takeWhile_cons, hpermits]
        cases (site.refusal? request.user live.key).isNone with
        | false => rfl
        | true =>
          rw [if_pos rfl, List.filter_cons, filter_reverts_facets, hreverts]
          cases (live.rule.clean (some live.declared.defaultText)).isSome with
          | false => rfl
          | true => exact congrArg (fun key => [(key, none)]) (declared_of_get hsnapshot hlive).2
    | _ =>
      unfold lapsed plan lapses
      rw [hjudge]
      rfl

theorem briefs_lapsed (hsnapshot : Snapshot.ofSite site = .ok snapshot) (items : List Item) :
    (items.flatMap (lapsed request snapshot site)).map Planned.brief =
      (lapsing request snapshot site items).map fun key => (key, none) := by
  unfold lapsing
  induction items with
  | nil => rfl
  | cons item rest ih =>
    rw [List.flatMap_cons, List.map_append, ih, brief_lapsed hsnapshot, List.filter_cons]
    split <;> rfl

theorem Carried.briefs_reverting (h : Carried request site snapshot items after writes) :
    ((writes.map Prod.fst).filter Planned.reverts).map Planned.brief =
      (lapsing request snapshot site items).map fun key => (key, none) := by
  rw [← briefs_lapsed h.reads, h.writes_eq, List.filter_flatMap]
  rfl

theorem Carried.exists_reverting (h : Carried request site snapshot items after writes) {key : Key}
    (hkey : key ∈ lapsing request snapshot site items) :
    ∃ write ∈ writes, write.1.key = key ∧ write.1.reverts := by
  have hmem := List.mem_map_of_mem (f := fun key => (key, (none : Option String))) hkey
  rw [← h.briefs_reverting] at hmem
  obtain ⟨planned, hplanned, hsame⟩ := List.mem_map.1 hmem
  obtain ⟨hmade, hreverts⟩ := List.mem_filter.1 hplanned
  obtain ⟨write, hwrite, rfl⟩ := List.mem_map.1 hmade
  exact ⟨write, hwrite, congrArg Prod.fst hsame, hreverts⟩

/-- The writes that do not last are those of the items that do not. -/
theorem Carried.reverts_iff (h : Carried request site snapshot items after writes)
    {write : Planned × Change} (hwrite : write ∈ writes) :
    write.1.reverts ↔ write.1.key ∈ lapsing request snapshot site items := by
  constructor
  · intro hreverts
    have hmem := List.mem_map_of_mem (f := Planned.brief)
      (List.mem_filter.2 ⟨List.mem_map_of_mem (f := Prod.fst) hwrite, hreverts⟩)
    rw [h.briefs_reverting] at hmem
    obtain ⟨key, hkey, hsame⟩ := List.mem_map.1 hmem
    have hkey_eq : key = write.1.key := congrArg Prod.fst hsame
    exact hkey_eq ▸ hkey
  · intro hkey
    obtain ⟨other, hother, hsame, hreverts⟩ := h.exists_reverting hkey
    have hnodup := h.nodup
    rw [h.change_keys] at hnodup
    exact List.inj_on_of_nodup_map hnodup hother hwrite hsame ▸ hreverts

/-- The items that are applied again are those of the applied ones that do not last. -/
theorem applied_again {report again : ApplyReport} (hkeys : (items.map Item.key).Nodup)
    (hsnapshot : Snapshot.ofSite site = .ok snapshot)
    (htells : report.Tells (items.map fun item => (item.key, outcome request snapshot site item)))
    (hagain : again.applied.map Entry.brief = (items.map fun item =>
      (item.key, outcomeAgain request snapshot site item)).filter fun brief => brief.2.1 = .applied) :
    again.applied.map Entry.key = (report.applied.map Entry.key).filter
      (· ∈ lapsing request snapshot site items) := by
  have hkeysOf (report : ApplyReport) :
      report.applied.map Entry.key = (report.applied.map Entry.brief).map Prod.fst := by
    rw [List.map_map]
    rfl
  have hlapsing (item : Item) (hitem : item ∈ items) :
      item.key ∈ lapsing request snapshot site items ↔ lapses request snapshot site item := by
    unfold lapsing
    rw [List.mem_map]
    constructor
    · rintro ⟨other, hother, hsame⟩
      obtain ⟨hmem, hlapses⟩ := List.mem_filter.1 hother
      exact List.inj_on_of_nodup_map hkeys hmem hitem hsame ▸ hlapses
    · exact fun hlapses => ⟨item, List.mem_filter.2 ⟨hitem, hlapses⟩, rfl⟩
  rw [hkeysOf, hkeysOf, htells.applied, hagain, List.filter_map, List.filter_map, List.filter_map,
    List.filter_map, List.map_map, List.map_map, List.filter_filter]
  refine congrArg (List.map Item.key) (List.filter_congr fun item hitem => ?_)
  have hagain : (outcomeAgain request snapshot site item).1 = .applied ↔
      lapses request snapshot site item ∧ (outcome request snapshot site item).1 = .applied := by
    unfold outcomeAgain settled
    rw [← List.isEmpty_map (f := Planned.brief), brief_lapsed hsnapshot]
    cases lapses request snapshot site item with
    | true => simp
    | false => by_cases happlied : (outcome request snapshot site item).1 = .applied <;> simp [happlied]
  simp only [Function.comp_apply]
  rw [decide_eq_decide.2 hagain, decide_eq_decide.2 (hlapsing item hitem), Bool.decide_and]

end Apply

/-! ### The service -/

namespace Service

variable {service next after : Service} {request : ApplyRequest} {application : Application}
  {snapshot : Snapshot} {writes more : List (Planned × Change)}

namespace Records

/-- The rows that a rollback does not restore are those of writes that do not last. -/
theorem filter_restorable_eq_nil (h : Records service request application snapshot writes next)
    (hnumbers : next.site.store.holds next.site.store.nextChangeId) :
    application.rows.filter (!Rollback.isRestorable next.site ·) = [] ↔
      ∀ write ∈ writes, write.1.reverts = false := by
  have hlasts (write : Planned × Change) (hwrite : write ∈ writes) :
      (!Rollback.isRestorable next.site (write.1.row write.2.id)) = write.1.reverts := by
    have hiff := h.restorable_iff (.refl next) hnumbers hwrite
    rw [← Rollback.isRestorable_iff] at hiff
    rw [Bool.eq_iff_iff, Bool.not_eq_true', ← Bool.not_eq_true, hiff, Bool.not_eq_false]
  rw [List.filter_eq_nil_iff]
  constructor
  · intro hall write hwrite
    have hrow := hall _ (h.mem_rows.2 ⟨write, hwrite, rfl⟩)
    rwa [hlasts write hwrite, Bool.not_eq_true] at hrow
  · intro hall row hrow
    obtain ⟨write, hwrite, rfl⟩ := h.mem_rows.1 hrow
    rw [hlasts write hwrite, hall write hwrite]
    exact Bool.false_ne_true

section Undone

variable (h : Records service request application snapshot writes next)
  (hnumbers : next.site.store.holds next.site.store.nextChangeId)
  (hundone : Rollback.Undone next.site
    (application.rows.filter (Rollback.isRestorable next.site)) after.site)
include h hnumbers hundone

/-- A rollback takes every write back that lasts. -/
theorem get_of_lasting {write : Planned × Change} (hwrite : write ∈ writes)
    (hlasts : write.1.reverts = false) :
    after.site.store.get write.1.key = service.site.store.get write.1.key := by
  have hrestored : write.1.row write.2.id ∈
      application.rows.filter (Rollback.isRestorable next.site) := by
    rw [List.mem_filter, Rollback.isRestorable_iff, h.restorable_iff (.refl next) hnumbers hwrite]
    exact ⟨h.mem_rows.2 ⟨write, hwrite, rfl⟩, hlasts⟩
  have hchange := h.changeOf_row (.refl next) hnumbers hwrite
  rw [← (h.fulfils write hwrite).1, hundone.get_restored _ hrestored _ hchange]
  exact (h.wrote.old_of_mem h.keys_nodup (List.mem_map_of_mem hwrite)).symm

/-- It leaves all else as it is. -/
theorem get_of_not_lasting {key : Key}
    (hkey : ∀ write ∈ writes, write.1.key = key → write.1.reverts) :
    after.site.store.get key = next.site.store.get key := by
  refine hundone.get_other key fun row hrow change hfound heq => ?_
  obtain ⟨hmem, hrestorable⟩ := List.mem_filter.1 hrow
  obtain ⟨write, hwrite, rfl⟩ := h.mem_rows.1 hmem
  obtain rfl := Option.some.inj ((h.changeOf_row (.refl next) hnumbers hwrite).symm.trans hfound)
  rw [Rollback.isRestorable_iff, h.restorable_iff (.refl next) hnumbers hwrite] at hrestorable
  rw [hkey write hwrite ((h.fulfils write hwrite).1.symm.trans heq)] at hrestorable
  cases hrestorable

end Undone

/-- A row stands for a value that has become another one, unless it took away what was not there. -/
theorem old_eq_new_iff (h : Records service request application snapshot writes next)
    {write : Planned × Change} (hwrite : write ∈ writes) :
    write.2.old = write.2.new ↔ write.1.reverts ∧ write.2.old = none := by
  obtain ⟨item, hplanned⟩ := h.planned write hwrite
  obtain ⟨hkey, hnew⟩ := h.fulfils write hwrite
  have hold := h.wrote.old_of_mem h.keys_nodup (List.mem_map_of_mem hwrite)
  rw [hkey] at hold
  rw [hnew]
  cases hreverts : write.1.reverts with
  | true =>
    rw [(Planned.eq_none_of_reverts hreverts).2]
    exact (and_iff_right rfl).symm
  | false =>
    exact iff_of_false (Apply.old_ne_text h.snapshot_eq hreverts hplanned hold) fun hboth => nomatch hboth.1

end Records

/-- An apply made once more applies the items of some keys again, and changes nothing. -/
structure AppliesAgain (next : Service) (presetId : Int) (request : ApplyRequest)
    (timeout : Option Int) (report again : ApplyReport) (last : Service) (keys : List Key) : Prop where
  apply_eq : next.apply presetId request timeout = (.ok again, last)
  cancelled_eq : again.cancelled = false
  plugins_eq : again.plugins = report.plugins
  applied_eq : again.applied.map Entry.key = (report.applied.map Entry.key).filter (· ∈ keys)
  get_eq : ∀ key, last.site.store.get key = next.site.store.get key
  /-- Only for these keys there is an application, and without them the service is left as it is. -/
  applicationId_eq : again.applicationId = none ↔ keys = []
  service_eq : keys = [] → last = next

/-- How it goes on after an apply all of whose writes last, but for the values of some keys. -/
structure LastsBut (service : Service) (presetId : Int) (request : ApplyRequest)
    (timeout : Option Int) (report : ApplyReport) (next : Service) (keys : List Key) : Prop where
  /-- A row of the ledger stands for a value that has become another one, or for one of the keys. -/
  rows : ∀ id, report.applicationId = some id →
    ∃ application ∈ next.library.applications, application.id = id ∧ ∀ row ∈ application.rows,
      ∃ change, next.site.store.changeOf? row = some change ∧
        service.site.store.get change.key = .ok change.old ∧
          next.site.store.get change.key = .ok change.new ∧
            (change.old = change.new ↔ change.key ∈ keys ∧ change.old = none)
  again : ∃ again last, AppliesAgain next presetId request timeout report again last keys
  /-- A rollback fails exactly at the keys, and restores all other values. -/
  rollback : ∀ id : Nat, report.applicationId = some id → fitsColumn id →
    ∀ user : Option Int, user.all fitsColumn →
      ∃ undo after, next.rollback id user .never timeout = .ok (undo, after) ∧
        (undo.failed = [] ↔ keys = []) ∧ (after.library.application? id = none ↔ keys = []) ∧
          ∀ key, after.site.store.get key =
            if key ∈ keys then .ok none else service.site.store.get key

section LastsBut

variable {presetId : Int} {timeout : Option Int} {report : ApplyReport} {keys : List Key}

theorem LastsBut.of_records (h : Records service request application snapshot writes next)
    (hnumbers : next.site.store.holds next.site.store.nextChangeId)
    (hcreated : report.applicationId = some application.id)
    (hreverts : ∀ write ∈ writes, write.1.reverts ↔ write.1.key ∈ keys)
    (hkeys : ∀ key ∈ keys, ∃ write ∈ writes, write.1.key = key ∧ write.1.reverts)
    (hagain : ∃ again last, AppliesAgain next presetId request timeout report again last keys) :
    LastsBut service presetId request timeout report next keys where
  rows id hid := by
    obtain rfl := Option.some.inj (hcreated.symm.trans hid)
    refine ⟨application, ?_, rfl, fun row hrow => ?_⟩
    · rw [h.applications_eq]
      exact List.mem_append_right _ (List.mem_singleton.2 rfl)
    · obtain ⟨write, hwrite, rfl⟩ := h.mem_rows.1 hrow
      refine ⟨write.2, h.changeOf_row (.refl next) hnumbers hwrite,
        h.wrote.old_of_mem h.keys_nodup (List.mem_map_of_mem hwrite),
        h.wrote.get_of_mem h.keys_nodup (List.mem_map_of_mem hwrite), ?_⟩
      rw [h.old_eq_new_iff hwrite, hreverts write hwrite, (h.fulfils write hwrite).1]
  again := hagain
  rollback id hid hfits user huser := by
    obtain rfl := Option.some.inj (hcreated.symm.trans hid)
    have hlasts : application.rows.filter (!Rollback.isRestorable next.site ·) = [] ↔ keys = [] := by
      rw [h.filter_restorable_eq_nil hnumbers, List.eq_nil_iff_forall_not_mem]
      constructor
      · intro hall key hkey
        obtain ⟨write, hwrite, -, hrevert⟩ := hkeys key hkey
        rw [hall write hwrite] at hrevert
        cases hrevert
      · intro hnone write hwrite
        rw [← Bool.not_eq_true, hreverts write hwrite]
        exact hnone write.1.key
    obtain ⟨undo, after, hrollback, houtcome⟩ :=
      h.exists_outcome (.refl next) hnumbers (Store.accepts_of_fits huser _) hfits timeout
    have hdeleted := houtcome.applicationDeleted_eq
    rw [List.append_nil] at hdeleted
    refine ⟨undo, after, hrollback, ?_, ?_, fun key => ?_⟩
    · rw [← hlasts, ← List.length_eq_zero_iff, ← houtcome.failed.length_eq, List.length_eq_zero_iff]
    · rw [← hlasts, houtcome.library_eq, hdeleted, ← List.isEmpty_iff]
      have hfound := (Library.application_of_getApplication
        (h.getApplication_eq (.refl next) hfits)).2
      split
      · rename_i hempty
        rw [Library.application_removeApplication, if_pos rfl]
        exact iff_of_true rfl hempty
      · rename_i hkept
        rw [Library.application_replaceApplication, if_pos rfl, hfound]
        exact iff_of_false (Option.some_ne_none _) hkept
    · by_cases hkey : key ∈ keys
      · obtain ⟨write, hwrite, rfl, hrevert⟩ := hkeys key hkey
        obtain ⟨hsame, hnew⟩ := h.fulfils write hwrite
        have hheld := h.wrote.get_of_mem h.keys_nodup (List.mem_map_of_mem hwrite)
        rw [hsame, hnew, (Planned.eq_none_of_reverts hrevert).2] at hheld
        rw [if_pos hkey, h.get_of_not_lasting hnumbers houtcome.undone fun other hother heq =>
          (hreverts other hother).2 (heq ▸ hkey), hheld]
      · rw [if_neg hkey]
        by_cases hwritten : ∃ write ∈ writes, write.1.key = key
        · obtain ⟨write, hwrite, rfl⟩ := hwritten
          refine h.get_of_lasting hnumbers houtcome.undone hwrite ?_
          rwa [← Bool.not_eq_true, hreverts write hwrite]
        · rw [h.get_of_not_lasting hnumbers houtcome.undone fun write hwrite heq =>
            absurd ⟨write, hwrite, heq⟩ hwritten]
          refine h.wrote.get_of_not_mem fun hmem => hwritten ?_
          rw [List.map_map] at hmem
          obtain ⟨write, hwrite, heq⟩ := List.mem_map.1 hmem
          exact ⟨write, hwrite, (h.fulfils write hwrite).1.symm.trans heq⟩

theorem appliesAgain_of_reran {preset stamped : Preset} {ran again : ApplyReport}
    {progress last : Progress} (hkeys : ((preset.items.map StoredItem.item).map Item.key).Nodup)
    (hreran : Apply.Reran request snapshot service.site preset ran progress writes more again last)
    (happlied : report.applied = ran.applied) (hplugins : report.plugins = ran.plugins)
    (hsite : next.site = progress.site) (hpreset : next.library.getPreset presetId = .ok stamped)
    (hlock : next.locked = false) (hrun : Apply.run request progress.site stamped = .ok (again, last))
    (hrecord : writes ≠ [] → Library.canRecord next.clock request.user = true) :
    ∃ again last, AppliesAgain next presetId request timeout report again last
      (Apply.lapsing request snapshot service.site (preset.items.map StoredItem.item)) := by
  have hcarried := hreran.carried
  have hrewrites := hreran.rewrites
  have hremade := hreran.remade
  rw [Apply.briefs_lapsed hcarried.reads] at hrewrites
  rw [← hsite] at hrun hremade
  have hnil : more = [] ↔
      Apply.lapsing request snapshot service.site (preset.items.map StoredItem.item) = [] := by
    have hlength := congrArg List.length hrewrites
    simp only [List.length_map] at hlength
    rw [← List.length_eq_zero_iff, hlength, List.length_eq_zero_iff]
  have hrecord : more ≠ [] → Library.canRecord next.clock request.user = true := by
    intro hne
    refine hrecord ?_
    rintro rfl
    refine hne (hnil.2 (List.eq_nil_iff_forall_not_mem.2 fun key hkey => ?_))
    obtain ⟨write, hwrite, -⟩ := hcarried.exists_reverting hkey
    cases hwrite
  obtain ⟨id, after, happly, hafter, hid, hsame⟩ :=
    apply_of_made hpreset hlock hrun hremade hreran.applicationId_eq hrecord
  refine ⟨_, after, {
    apply_eq := happly
    cancelled_eq := hreran.cancelled_eq
    plugins_eq := hreran.plugins_eq.trans hplugins.symm
    applied_eq := ?_
    get_eq := fun key => ?_
    applicationId_eq := hid.trans hnil
    service_eq := fun heq => hsame (hnil.2 heq) }⟩
  · rw [happlied]
    exact Apply.applied_again hkeys hcarried.reads hreran.tells hreran.tells_again.applied
  · rw [hafter]
    -- What is written again is what the key holds already.
    rcases hremade.wrote.get_cases key with hsame | ⟨change, hchange, rfl, hget⟩
    · exact hsame
    · obtain ⟨write, hwrite, rfl⟩ := List.mem_map.1 hchange
      obtain ⟨hkey, hnew⟩ := hremade.fulfils write hwrite
      have hbrief := List.mem_map_of_mem (f := Planned.brief) (List.mem_map_of_mem (f := Prod.fst) hwrite)
      rw [hrewrites] at hbrief
      obtain ⟨key, hlapsing, hbrief⟩ := List.mem_map.1 hbrief
      obtain ⟨rfl, htext⟩ := Prod.mk.inj hbrief
      obtain ⟨first, hfirst, hfirst_key, hrevert⟩ := hcarried.exists_reverting hlapsing
      have hheld := hcarried.get_of_written hfirst
      rw [hfirst_key, (Planned.eq_none_of_reverts hrevert).2, ← hsite] at hheld
      rw [hget, hnew, hkey, hheld, ← htext]

/-- Items without values are written like any other, but they do not last where the default of the
setting is a value: those keys alone keep the apply from being done once, and from being rolled back. -/
theorem apply_lasts_but {preset : Preset} (hroot : service.site.tree.FacetsApart)
    (hsound : service.library.Sound) (hpreset : service.library.getPreset presetId = .ok preset)
    (hreal : request.simulate = false) (hsnapshot : Snapshot.ofSite service.site = .ok snapshot)
    (happly : service.apply presetId request timeout = (.ok report, next))
    (huncancelled : report.cancelled = false)
    (hplugins : ∀ entry ∈ report.plugins, entry.status ≠ .applied)
    (hnumbers : next.site.store.holds next.site.store.nextChangeId) :
    LastsBut service presetId request timeout report next
      (Apply.lapsing request snapshot service.site (preset.items.map StoredItem.item)) := by
  have hpreset_sound := hsound preset (Library.mem_of_getPreset hpreset)
  obtain ⟨found, ran, progress, hfound, hlock, hrun, -, hrecord⟩ := run_of_apply happly
  obtain rfl := Except.ok.inj (hfound.symm.trans hpreset)
  have hid := Apply.applicationId_of_run hreal hrun
  by_cases hnil : progress.rows = []
  · rw [record_of_nil hnil] at hrecord
    obtain ⟨hreport, rfl⟩ := Prod.mk.inj hrecord
    obtain rfl := Except.ok.inj hreport
    obtain ⟨writes, more, again, last, hagain, hreran⟩ := Apply.exists_rerun found hreal hroot
      hpreset_sound.keys_nodup hsnapshot hrun huncancelled hplugins rfl rfl
    have hwrites : writes = [] :=
      List.map_eq_nil_iff.1 (hreran.made.rows_eq.symm.trans hnil)
    exact {
      rows := fun id hcreated => by rw [hid] at hcreated; cases hcreated
      again := appliesAgain_of_reran hpreset_sound.keys_nodup hreran rfl rfl rfl hpreset hlock hagain
        fun hne => absurd hwrites hne
      rollback := fun id hcreated => by rw [hid] at hcreated; cases hcreated }
  · obtain ⟨application, library, hrecorded, rfl, rfl⟩ :=
      record_eq_ok_of_ne_nil hnil hrecord
    obtain ⟨writes, more, again, last, hagain, hreran⟩ := Apply.exists_rerun
      { found with timeApplied := service.clock } hreal hroot hpreset_sound.keys_nodup hsnapshot hrun
      huncancelled hplugins rfl rfl
    have hrecords := Records.of_made hsnapshot hroot hlock hpreset_sound hreran.made
      (List.prefix_refl _) hreran.carried.sublist hrecorded
    exact .of_records hrecords hnumbers rfl (fun _ => hreran.carried.reverts_iff)
      (fun _ => hreran.carried.exists_reverting)
      (appliesAgain_of_reran hpreset_sound.keys_nodup hreran rfl rfl rfl
        (Library.getPreset_of_recordApplication hpreset hrecorded) hlock hagain
        fun _ => (Library.fits_of_recordApplication hrecorded).1)

end LastsBut

end Service

namespace SmallSite

/-- A preset with two items, neither of which has a value. -/
def valueless : Preset :=
  { preset 1 [] with items := [
    ⟨1, { key := notice, value := none, attributes := [] }⟩,
    ⟨2, { key := comments, value := none, attributes := [] }⟩] }

/-- A site whose notice is set, and whose flag is not. -/
def valuelessService : Service where
  site := { store := .memory (.ofLists [(notice, some "open")] []), tree }
  library := { presets := [valueless] }

theorem valueless_lasts_but :
    ∃ snapshot report next, Snapshot.ofSite valuelessService.site = .ok snapshot ∧
      valuelessService.apply 1 {} none = (.ok report, next) ∧ report.applicationId = some 1 ∧
        Service.LastsBut valuelessService 1 {} none report next
          (Apply.lapsing {} snapshot valuelessService.site (valueless.items.map StoredItem.item)) := by
  have hsound : valuelessService.library.Sound := by
    intro stored hstored
    rw [List.mem_singleton.1 hstored]
    exact ⟨(by decide : [notice, comments].Nodup), fun _ hrow => nomatch hrow⟩
  obtain ⟨report, hreport, hid, huncancelled, hplugins⟩ :
      ∃ report, (valuelessService.apply 1 {} none).1 = .ok report ∧ report.applicationId = some 1 ∧
        report.cancelled = false ∧ report.plugins = [] :=
    ⟨_, rfl, by decide, by decide, by decide⟩
  exact ⟨_, report, _, rfl, Prod.ext hreport rfl, hid,
    Service.apply_lasts_but tree_facetsApart hsound (by decide) rfl rfl (Prod.ext hreport rfl)
      huncancelled (by simp [hplugins]) rfl⟩

/-- A row for a flag that was not set before, a second application, and a rollback that restores nothing. -/
theorem valueless_lapses :
    (∃ application ∈ (valuelessService.apply 1 {} none).2.library.applications,
      ∃ row ∈ application.rows, ∃ change,
        (valuelessService.apply 1 {} none).2.site.store.changeOf? row = some change ∧
          change.old = change.new) ∧
    (∃ again last, (valuelessService.apply 1 {} none).2.apply 1 {} none = (.ok again, last) ∧
      again.applied.map Entry.key = [notice, comments] ∧ again.applicationId = some 2) ∧
    ∃ undo after, (valuelessService.apply 1 {} none).2.rollback 1 none .never none = .ok (undo, after) ∧
      undo.failed.map Entry.key = [notice, comments] ∧ undo.applicationDeleted = false ∧
        after.site.store.get notice ≠ valuelessService.site.store.get notice := by
  refine ⟨⟨_, List.mem_singleton.2 rfl, .setting 2, ?_, _, rfl, ?_⟩, ⟨_, _, rfl, ?_, ?_⟩,
    ⟨_, _, rfl, ?_, ?_, ?_⟩⟩
  all_goals decide

end SmallSite

end SitePresets
