import SitePresets.Proofs.Rollback.Ledger
import SitePresets.Rollback

/-!
# Rolling back one row

Whether a row is restored depends on the site at the start alone. The rows restored before it have
written other keys and set other plugins, and the log they have added to still tells the row's change.
-/

namespace SitePresets

namespace LedgerRow

def plugin? : LedgerRow → Option Plugin
  | plugin found _ _ => some found
  | _ => none

end LedgerRow

theorem Planned.plugin_row (planned : Planned) (logId : Nat) : (planned.row logId).plugin? = none := by
  unfold row
  cases planned.facet <;> rfl

namespace Rollback

/-- A row whose write still stands. The log has its change, the site has its setting with the facet,
and the live value means what was written; or the plugin has the state that was set. -/
inductive Restorable (site : Site) : LedgerRow → Prop
  | setting {logId : Nat} {change : Change} {live : Descriptor}
    (hlog : site.store.change? logId = .ok (some change))
    (hlive : site.lookup change.key = .ok (some live))
    (hours : live.equals change.new) : Restorable site (.setting logId)
  | facet {logId : Nat} {item : String} {facet : Facet} {change : Change} {live : Descriptor}
    (hlog : site.store.change? logId = .ok (some change))
    (hlive : site.lookup ⟨change.key.scope, item⟩ = .ok (some live))
    (hfacet : facet ∈ live.kind.facets)
    (hours : live.facetEquals facet change.new) : Restorable site (.facet logId item facet)
  | plugin {plugin : Plugin} {value old : Int} (hcurrent : site.store.plugin? plugin = some value) :
    Restorable site (.plugin plugin value old)

/-- What restoring rows has made of a site: their keys and plugins are what they were before the
rows, and nothing else has changed. -/
structure Undone (site : Site) (rows : List LedgerRow) (after : Site) : Prop where
  later : site.store.Later after.store
  change_eq : ∀ id : Nat, id < site.store.nextChangeId → after.store.change? id = site.store.change? id
  readOnly_eq : after.readOnly = site.readOnly
  pinned_eq : after.pinned = site.pinned
  tree_eq : after.tree = site.tree
  staysReadable : site.store.StaysReadable after.store
  get_restored : ∀ row ∈ rows, ∀ change, site.store.changeOf? row = some change →
    after.store.get change.key = .ok change.old
  get_other : ∀ key, (∀ row ∈ rows, ∀ change, site.store.changeOf? row = some change →
    change.key ≠ key) → after.store.get key = site.store.get key
  plugin_restored : ∀ plugin value old, .plugin plugin value old ∈ rows →
    after.store.plugin? plugin = some old
  plugin_other : ∀ plugin, (∀ row ∈ rows, row.plugin? ≠ some plugin) →
    after.store.plugin? plugin = site.store.plugin? plugin
  /-- Without rows of plugins the plugins are not touched at all. -/
  keeps : (∀ row ∈ rows, row.plugin? = none) → site.Keeps after

/-- Rows that can be restored independently of one another. -/
structure Distinct (store : Store) (a b : LedgerRow) : Prop where
  key : store.RowsApart a b
  plugin : ∀ plugin, a.plugin? = some plugin → b.plugin? ≠ some plugin

structure Allows (site : Site) (row : LedgerRow) : Prop where
  key : ∀ change, site.store.changeOf? row = some change → change.key ∉ site.readOnly
  plugin : ∀ plugin, row.plugin? = some plugin → plugin ∉ site.pinned

namespace Undone

variable {site current after : Site} {rows : List LedgerRow} {row : LedgerRow}

theorem refl (site : Site) : Undone site [] site where
  later := .refl _
  change_eq _ _ := rfl
  readOnly_eq := rfl
  pinned_eq := rfl
  tree_eq := rfl
  staysReadable _ h := h
  get_restored _ h := nomatch h
  get_other _ _ := rfl
  plugin_restored _ _ _ h := nomatch h
  plugin_other _ _ := rfl
  keeps _ := .refl _

theorem plugin_none_of_changeOf {store : Store} {change : Change}
    (h : store.changeOf? row = some change) : row.plugin? = none := by
  obtain ⟨logId, hid, -⟩ := Store.changeOf_eq_some.1 h
  cases row with
  | plugin plugin value old => cases hid
  | _ => rfl

theorem write (h : Undone site rows current) {written change : Change}
    (hwrote : current.Wrote written after) (hrow : site.store.changeOf? row = some change)
    (hkey : written.key = change.key) (hnew : written.new = change.old)
    (hdistinct : ∀ other ∈ rows, Distinct site.store other row) :
    Undone site (rows ++ [row]) after where
  later := h.later.trans (.of_wroteAll (.of_wrote hwrote))
  change_eq id hid := by
    rw [hwrote.store.change_of_lt id (Nat.lt_of_lt_of_le hid h.later.nextChangeId_le)]
    exact h.change_eq id hid
  readOnly_eq := hwrote.keeps.readOnly_eq.trans h.readOnly_eq
  pinned_eq := hwrote.keeps.pinned_eq.trans h.pinned_eq
  tree_eq := hwrote.keeps.tree_eq.trans h.tree_eq
  staysReadable key hkey := hwrote.staysReadable key (h.staysReadable key hkey)
  get_restored other hother change' hchange := by
    rcases List.mem_append.1 hother with hother | hother
    · rw [hwrote.get_of_ne]
      · exact h.get_restored other hother change' hchange
      · rw [hkey]
        exact (hdistinct other hother).key change' change hchange hrow
    · obtain rfl := List.mem_singleton.1 hother
      obtain rfl := Option.some.inj (hchange.symm.trans hrow)
      rw [← hkey, ← hnew]
      exact hwrote.get_self
  get_other key hother := by
    have hne := hother row (List.mem_append_right _ (List.mem_singleton.2 rfl)) change hrow
    rw [hwrote.get_of_ne (hkey ▸ hne.symm)]
    exact h.get_other key fun other hmem => hother other (List.mem_append_left _ hmem)
  plugin_restored plugin value old hmem := by
    rw [hwrote.keeps.plugin_eq]
    rcases List.mem_append.1 hmem with hmem | hmem
    · exact h.plugin_restored plugin value old hmem
    · obtain rfl := List.mem_singleton.1 hmem
      cases plugin_none_of_changeOf hrow
  plugin_other plugin hother := by
    rw [hwrote.keeps.plugin_eq]
    exact h.plugin_other plugin fun other hmem => hother other (List.mem_append_left _ hmem)
  keeps hnone :=
    (h.keeps fun other hmem => hnone other (List.mem_append_left _ hmem)).trans hwrote.keeps

theorem setPlugin (h : Undone site rows current) {plugin : Plugin} {value old replaced : Int}
    (hset : current.setPlugin plugin old = .ok (replaced, after))
    (hdistinct : ∀ other ∈ rows, Distinct site.store other (.plugin plugin value old)) :
    Undone site (rows ++ [.plugin plugin value old]) after := by
  have hswitches := Site.switches_of_setPlugin hset
  have hplugin := Site.plugin_of_setPlugin hset
  exact {
    later := h.later.trans (.of_sameValues hswitches.values)
    change_eq := fun id hid => (hswitches.values.change_eq id).trans (h.change_eq id hid)
    readOnly_eq := hswitches.readOnly_eq.trans h.readOnly_eq
    pinned_eq := hswitches.pinned_eq.trans h.pinned_eq
    tree_eq := hswitches.tree_eq.trans h.tree_eq
    staysReadable := fun key hkey => by
      rw [hswitches.values.get_eq]
      exact h.staysReadable key hkey
    get_restored := fun other hother change hchange => by
      rw [hswitches.values.get_eq]
      rcases List.mem_append.1 hother with hother | hother
      · exact h.get_restored other hother change hchange
      · obtain rfl := List.mem_singleton.1 hother
        cases plugin_none_of_changeOf hchange
    get_other := fun key hother => by
      rw [hswitches.values.get_eq]
      exact h.get_other key fun other hmem => hother other (List.mem_append_left _ hmem)
    plugin_restored := fun other value' old' hmem => by
      rw [hplugin]
      rcases List.mem_append.1 hmem with hearlier | hlast
      · have hne : other ≠ plugin := fun heq =>
          (hdistinct _ hearlier).plugin other rfl (congrArg some heq.symm)
        rw [if_neg hne]
        exact h.plugin_restored other value' old' hearlier
      · obtain ⟨rfl, rfl, rfl⟩ := LedgerRow.plugin.inj (List.mem_singleton.1 hlast)
        rw [if_pos rfl]
    plugin_other := fun other hother => by
      have hne := hother _ (List.mem_append_right _ (List.mem_singleton.2 rfl))
      rw [hplugin, if_neg fun heq : other = plugin => hne (congrArg some heq.symm)]
      exact h.plugin_other other fun row hmem => hother row (List.mem_append_left _ hmem)
    keeps := fun hnone => by
      cases hnone _ (List.mem_append_right _ (List.mem_singleton.2 rfl)) }

end Undone

/-- What an entry of a report says about the row that it is for. -/
structure Describes (row : LedgerRow) (entry : Entry) : Prop where
  subject_eq : entry.subject = subjectOf row
  logId_eq : entry.logId = row.logId?.map Int.ofNat
  item_eq : ∀ logId item facet, row = .facet logId item facet → entry.key.name = item
  plugin_eq : ∀ plugin, row.plugin? = some plugin → entry.key = ⟨plugin.type, plugin.name⟩

/-! ### One row -/

section Row

variable {site current : Site} {snapshot : Snapshot} {rows : List LedgerRow} {row : LedgerRow}
  {logId : Nat} {change : Change} {user : Option Int}

theorem writeBack_eq_perform (site : Site) (live : Descriptor) (facet : Option Facet)
    (text : Option String) (user : Option Int) :
    writeBack site live facet text user = (Planned.mk live facet text).perform user site := by
  cases facet <;> rfl

/-- The key that a row of the log looks its setting up by. -/
def targetKey (row : LedgerRow) (change : Change) : Key :=
  ⟨change.key.scope, nameOf row (some change)⟩

theorem lookup_iff_get (hsnapshot : Snapshot.ofSite site = .ok snapshot) {key : Key}
    {live : Descriptor} : site.lookup key = .ok (some live) ↔ snapshot.get? key = some live := by
  rw [Snapshot.lookup_eq_get hsnapshot]
  exact ⟨Except.ok.inj, congrArg Except.ok⟩

/-- Rows of values and of facets are restorable by one rule. -/
theorem restorable_iff (hsnapshot : Snapshot.ofSite site = .ok snapshot)
    (hid : row.logId? = some logId) (hlog : site.store.change? logId = .ok (some change)) :
    Restorable site row ↔
      ∃ live, (snapshot.get? (targetKey row change)).filter (supports · (facetOf row)) = some live ∧
        isOurs live (facetOf row) change.new := by
  constructor
  · intro h
    cases h with
    | @setting _ found live hfound hlive hours =>
      obtain rfl := Option.some.inj hid
      obtain rfl := Option.some.inj (Except.ok.inj (hfound.symm.trans hlog))
      refine ⟨live, ?_, hours⟩
      exact Option.filter_eq_some_iff.2 ⟨(lookup_iff_get hsnapshot).1 hlive, rfl⟩
    | @facet _ item facet found live hfound hlive hfacet hours =>
      obtain rfl := Option.some.inj hid
      obtain rfl := Option.some.inj (Except.ok.inj (hfound.symm.trans hlog))
      refine ⟨live, ?_, hours⟩
      refine Option.filter_eq_some_iff.2 ⟨(lookup_iff_get hsnapshot).1 hlive, ?_⟩
      exact List.contains_iff_mem.2 hfacet
    | plugin => cases hid
  · rintro ⟨live, hlive, hours⟩
    obtain ⟨hlive, hsupports⟩ := Option.filter_eq_some_iff.1 hlive
    have hlive := (lookup_iff_get hsnapshot).2 hlive
    cases row with
    | setting =>
      obtain rfl := Option.some.inj hid
      exact .setting hlog hlive hours
    | facet =>
      obtain rfl := Option.some.inj hid
      exact .facet hlog hlive (List.contains_iff_mem.1 hsupports) hours
    | plugin => cases hid

theorem key_of_target (hsnapshot : Snapshot.ofSite site = .ok snapshot) {live : Descriptor}
    (htracks : site.store.Tracks row) (hid : row.logId? = some logId)
    (hlog : site.store.change? logId = .ok (some change))
    (hlive : snapshot.get? (targetKey row change) = some live) (text : Option String) :
    (Planned.mk live (facetOf row) text).key = change.key := by
  have hkey := (Apply.declared_of_get hsnapshot hlive).2
  cases htracks with
  | setting => exact hkey
  | facet hknows hname =>
    obtain rfl := Option.some.inj hid
    obtain ⟨hscope, hitem⟩ := Key.mk.inj hkey
    have hname := hname change hlog
    show Key.mk live.declared.scope (Facet.variableOf _ live.declared.name) = change.key
    rw [hscope, hitem]
    exact congrArg (Key.mk change.key.scope) hname.symm
  | plugin => cases hid

theorem exists_get_of_target (hsnapshot : Snapshot.ofSite site = .ok snapshot) {live : Descriptor}
    {key : Key} (hlive : snapshot.get? key = some live) {facet : Option Facet}
    (hsupports : supports live facet) (text : Option String) :
    ∃ stored, site.store.get (Planned.mk live facet text).key = .ok stored := by
  obtain ⟨declared, -, hread⟩ := Snapshot.read_of_get hsnapshot hlive
  have hshows := Site.shows_of_read hread
  cases facet with
  | none =>
    obtain ⟨stored, hstored, -⟩ := hshows.raw_eq
    rw [← hshows.declared_eq] at hstored
    exact ⟨stored, hstored⟩
  | some facet =>
    obtain ⟨stored, hstored, -⟩ := hshows.facet_eq facet (List.contains_iff_mem.1 hsupports)
    exact ⟨stored, hstored⟩

/-- What restoring a row comes to, told from the site at the start. -/
inductive RowOutcome (site : Site) (rows : List LedgerRow) (row : LedgerRow) :
    Except Refusal (Entry × Option Site) → Prop
  | restored {entry : Entry} {after : Site} (hrestorable : Restorable site row)
    (hdescribes : Describes row entry) (hstatus : entry.status = .restored)
    (hundone : Undone site (rows ++ [row]) after) : RowOutcome site rows row (.ok (entry, some after))
  | failed {entry : Entry} (hrestorable : ¬ Restorable site row)
    (hdescribes : Describes row entry) (hstatus : entry.status = .failed ∨ entry.status = .diverged) :
    RowOutcome site rows row (.ok (entry, none))

/-- What must be the case for a row to be restored exactly if it is restorable. -/
structure Ready (site : Site) (user : Option Int) (row : LedgerRow) : Prop where
  tracks : site.store.Tracks row
  holds : ∀ logId, row.logId? = some logId → site.store.holds logId
  accepts : site.store.accepts user
  allows : Allows site row

/-- Nothing stands in the way of writing back what a row has replaced. -/
theorem exists_writeBack (hsnapshot : Snapshot.ofSite site = .ok snapshot)
    (hundone : Undone site rows current) (hready : Ready site user row) {live : Descriptor} {key : Key}
    (hlive : snapshot.get? key = some live) {facet : Option Facet} (hsupports : supports live facet)
    {text : Option String} (hkey : (Planned.mk live facet text).key ∉ site.readOnly) :
    ∃ change after, writeBack current live facet text user = .ok (change, after) := by
  rw [writeBack_eq_perform]
  refine Planned.exists_perform ⟨?_, fun planned hplanned => ?_, fun planned hplanned => ?_⟩
  · unfold Store.accepts
    rw [hundone.later.holds_eq]
    exact hready.accepts
  · rw [List.mem_singleton.1 hplanned, hundone.readOnly_eq]
    exact hkey
  · rw [List.mem_singleton.1 hplanned]
    exact hundone.staysReadable _ (exists_get_of_target hsnapshot hlive hsupports text)

theorem describes_of_logId {entry : Entry} {found : Option Change} (hid : row.logId? = some logId)
    (hsubject : entry.subject = subjectOf row) (hentry : entry.logId = some (logId : Int))
    (hname : entry.key.name = nameOf row found) : Describes row entry where
  subject_eq := hsubject
  logId_eq := by
    rw [hentry, hid]
    rfl
  item_eq := by
    rintro logId item facet rfl
    exact hname
  plugin_eq := by
    intro plugin hplugin
    cases row with
    | plugin => cases hid
    | _ => cases hplugin

theorem describes_plugin {plugin : Plugin} {value old : Int} {entry : Entry}
    (hsubject : entry.subject = .plugin) (hid : entry.logId = none)
    (hkey : entry.key = ⟨plugin.type, plugin.name⟩) :
    Describes (.plugin plugin value old) entry where
  subject_eq := hsubject
  logId_eq := hid
  item_eq _ _ _ h := nomatch h
  plugin_eq other hother := by rw [hkey, Option.some.inj hother]

theorem not_restorable_of_forgotten (hid : row.logId? = some logId)
    (hlog : site.store.change? logId = .ok none) : ¬ Restorable site row := by
  intro h
  cases h with
  | setting hfound | facet hfound =>
    obtain rfl := Option.some.inj hid
    rw [hlog] at hfound
    cases hfound
  | plugin => cases hid

/-- Writing back what a change has replaced restores its row. -/
theorem undone_writeBack (hsnapshot : Snapshot.ofSite site = .ok snapshot)
    (hundone : Undone site rows current) (hready : Ready site user row)
    (hdistinct : ∀ other ∈ rows, Distinct site.store other row) (hid : row.logId? = some logId)
    (hlog : site.store.change? logId = .ok (some change)) {live : Descriptor}
    (hlive : snapshot.get? (targetKey row change) = some live) (hsupports : supports live (facetOf row)) :
    ∃ written after, writeBack current live (facetOf row) change.old user = .ok (written, after) ∧
      Undone site (rows ++ [row]) after := by
  have hkey := key_of_target hsnapshot hready.tracks hid hlog hlive change.old
  have hchange : site.store.changeOf? row = some change :=
    Store.changeOf_eq_some.2 ⟨logId, hid, hlog⟩
  have hallowed : (Planned.mk live (facetOf row) change.old).key ∉ site.readOnly := by
    rw [hkey]
    exact hready.allows.key change hchange
  obtain ⟨written, after, hwrite⟩ :=
    exists_writeBack hsnapshot hundone hready hlive hsupports hallowed
  refine ⟨written, after, hwrite, ?_⟩
  rw [writeBack_eq_perform] at hwrite
  obtain ⟨hwrote, hwrittenKey, hnew⟩ := Planned.wrote_of_perform hwrite
  exact hundone.write hwrote hchange (hwrittenKey.trans hkey) hnew hdistinct

theorem restoreSetting_outcome (hsnapshot : Snapshot.ofSite site = .ok snapshot)
    (hundone : Undone site rows current) (hready : Ready site user row)
    (hdistinct : ∀ other ∈ rows, Distinct site.store other row) (hid : row.logId? = some logId) :
    RowOutcome site rows row (restoreSetting user snapshot current row logId) := by
  have hknows : site.store.Knows logId := by
    cases hready.tracks with
    | setting hknows | facet hknows => exact Option.some.inj hid ▸ hknows
    | plugin => cases hid
  obtain ⟨found, hfound⟩ := hknows.readable (hready.holds logId hid)
  have hcurrent : current.store.change? logId = .ok found :=
    (hundone.change_eq logId hknows.lt).trans hfound
  unfold restoreSetting
  rw [hcurrent, ok_bind]
  dsimp only
  cases found with
  | none =>
    exact .failed (not_restorable_of_forgotten hid hfound) (describes_of_logId hid rfl rfl rfl)
      (.inl rfl)
  | some change =>
    have hiff := restorable_iff hsnapshot hid hfound
    dsimp only
    cases hlive : (snapshot.get? ⟨change.key.scope, nameOf row (some change)⟩).filter
      (supports · (facetOf row)) with
    | none =>
      refine .failed (fun h => ?_) (describes_of_logId hid rfl rfl rfl) (.inl rfl)
      obtain ⟨live, hsome, -⟩ := hiff.1 h
      cases hlive.symm.trans hsome
    | some live =>
      obtain ⟨hget, hsupports⟩ := Option.filter_eq_some_iff.1 hlive
      dsimp only
      by_cases hours : isOurs live (facetOf row) change.new
      · obtain ⟨written, after, hwrite, hafter⟩ :=
          undone_writeBack hsnapshot hundone hready hdistinct hid hfound hget hsupports
        rw [if_pos hours, hwrite]
        exact .restored (hiff.2 ⟨live, hlive, hours⟩) (describes_of_logId hid rfl rfl rfl) rfl hafter
      · rw [if_neg hours]
        refine .failed (fun h => ?_) (describes_of_logId hid rfl rfl rfl) (.inr rfl)
        obtain ⟨other, hsome, hother⟩ := hiff.1 h
        obtain rfl := Option.some.inj (hlive.symm.trans hsome)
        exact hours hother

theorem restorePlugin_outcome {plugin : Plugin} {value old : Int}
    (hundone : Undone site rows current) (hready : Ready site user (.plugin plugin value old))
    (hdistinct : ∀ other ∈ rows, Distinct site.store other (.plugin plugin value old)) :
    RowOutcome site rows (.plugin plugin value old)
      (.ok (restorePlugin current plugin value old)) := by
  have hcurrent : current.store.plugin? plugin = site.store.plugin? plugin :=
    hundone.plugin_other plugin fun other hother heq =>
      (hdistinct other hother).plugin plugin heq rfl
  unfold restorePlugin
  rw [hcurrent]
  cases hplugin : site.store.plugin? plugin with
  | none =>
    refine .failed (fun h => ?_) (describes_plugin rfl rfl rfl) (.inl rfl)
    cases h with
    | plugin hvalue =>
      rw [hplugin] at hvalue
      cases hvalue
  | some found =>
    dsimp only
    by_cases hvalue : found = value
    · have hold : current.store.holds old := by
        rw [hundone.later.holds_eq]
        cases hready.tracks with
        | plugin hold => exact hold
      have hpinned : plugin ∉ current.pinned := by
        rw [hundone.pinned_eq]
        exact hready.allows.plugin plugin rfl
      have hset := Site.setPlugin_eq_ok.2 ⟨hpinned, hcurrent.trans hplugin, hold, rfl⟩
      rw [if_pos hvalue, hset]
      exact .restored (.plugin (hvalue ▸ hplugin)) (describes_plugin rfl rfl rfl) rfl
        (hundone.setPlugin hset hdistinct)
    · rw [if_neg hvalue]
      refine .failed (fun h => ?_) (describes_plugin rfl rfl rfl) (.inr rfl)
      cases h with
      | plugin hother => exact hvalue (Option.some.inj (hplugin.symm.trans hother))

theorem restoreRow_outcome (hsnapshot : Snapshot.ofSite site = .ok snapshot)
    (hundone : Undone site rows current) (hready : Ready site user row)
    (hdistinct : ∀ other ∈ rows, Distinct site.store other row) :
    RowOutcome site rows row (restoreRow user snapshot current row) := by
  cases row with
  | setting logId => exact restoreSetting_outcome hsnapshot hundone hready hdistinct rfl
  | facet logId item facet => exact restoreSetting_outcome hsnapshot hundone hready hdistinct rfl
  | plugin plugin value old => exact restorePlugin_outcome hundone hready hdistinct

/-- What a report says about a row, under one of some statuses. -/
structure Reports (statuses : List Status) (row : LedgerRow) (entry : Entry) : Prop where
  describes : Describes row entry
  status : entry.status ∈ statuses

theorem cancelledEntry_eq {found : Option Change} (hid : row.logId? = some logId)
    (hfound : current.store.change? logId = .ok found) :
    cancelledEntry current row = .ok {
      subject := subjectOf row
      key := ⟨(found.map fun change => change.key.scope).getD "", nameOf row found⟩
      status := .cancelled
      reason := some Reason.cancelled
      logId := some (logId : Int)
      facet := (facetOf row).map Facet.name } := by
  cases row with
  | plugin => cases hid
  | setting | facet =>
    obtain rfl := Option.some.inj hid
    unfold cancelledEntry
    dsimp only
    rw [hfound]
    rfl

theorem exists_cancelledEntry (hundone : Undone site rows current) (hready : Ready site user row) :
    ∃ entry, cancelledEntry current row = .ok entry ∧ Reports [.cancelled] row entry := by
  have hstatus : Status.cancelled ∈ [Status.cancelled] := List.mem_singleton.2 rfl
  have hlog (logId : Nat) (hid : row.logId? = some logId) (hknows : site.store.Knows logId) :
      ∃ entry, cancelledEntry current row = .ok entry ∧ Reports [.cancelled] row entry := by
    obtain ⟨found, hfound⟩ := hknows.readable (hready.holds logId hid)
    rw [← hundone.change_eq logId hknows.lt] at hfound
    exact ⟨_, cancelledEntry_eq hid hfound, describes_of_logId hid rfl rfl rfl, hstatus⟩
  cases hready.tracks with
  | setting hknows | facet hknows => exact hlog _ rfl hknows
  | plugin => exact ⟨_, rfl, describes_plugin rfl rfl rfl, hstatus⟩

/-- A run ends before rows if each of them has an entry. -/
theorem cancel_of_entries {state : State} {rows : List LedgerRow} {R : LedgerRow → Entry → Prop}
    (h : ∀ row ∈ rows, ∃ entry, cancelledEntry state.site row = .ok entry ∧ R row entry) :
    ∃ skipped, List.Forall₂ R rows skipped ∧ state.cancel rows = .ok { state with
      report := { state.report with cancelled := true, skipped }
      kept := state.kept ++ rows } := by
  obtain ⟨skipped, hskipped, hentries⟩ := exists_mapM h
  exact ⟨skipped, hentries, bind_eq_ok.2 ⟨skipped, hskipped, rfl⟩⟩

end Row

end Rollback

end SitePresets
