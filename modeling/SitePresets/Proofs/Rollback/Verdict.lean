import SitePresets.Proofs.Apply.Outcome
import SitePresets.Proofs.Rollback.Stands

/-!
# The verdict on a row

What becomes of a row is told by its change in the log, by what its setting shows and by whether the site
lets its key be written. Writing other keys changes none of the three: a row that was refused is refused
again, and a row that a run has not come to fares in the next run as it would have fared in this one.
-/

namespace SitePresets

namespace Rollback

/-- What the log tells of a row of a value or a facet. -/
structure Logged (store : Store) (row : LedgerRow) (logId : Nat) (found : Option Change) : Prop where
  id_eq : row.logId? = some logId
  tracks : store.Tracks row
  change_eq : store.change? logId = .ok found

theorem Logged.changeOf_eq {store : Store} {row : LedgerRow} {logId : Nat} {found : Option Change}
    (h : Logged store row logId found) : store.changeOf? row = found := by
  unfold Store.changeOf?
  rw [h.id_eq, Option.bind_some, h.change_eq]
  rfl

theorem exists_logged {store : Store} {row : LedgerRow} (htracks : store.Tracks row)
    (hplain : row.plugin? = none) (hholds : ∀ logId, row.logId? = some logId → store.holds logId) :
    ∃ logId found, Logged store row logId found := by
  have hlogged (logId : Nat) (hid : row.logId? = some logId) (hknows : store.Knows logId) :
      ∃ logId found, Logged store row logId found := by
    obtain ⟨found, hfound⟩ := hknows.readable (hholds logId hid)
    exact ⟨logId, found, hid, htracks, hfound⟩
  cases htracks with
  | setting hknows | facet hknows => exact hlogged _ rfl hknows
  | plugin => cases hplain

/-! ### One row -/

def entryOf (row : LedgerRow) (logId : Nat) (change : Change) : Entry where
  subject := subjectOf row
  key := targetKey row change
  status := .failed
  logId := some logId
  facet := (facetOf row).map Facet.name
  old := change.new
  new := change.old

/-- What becomes of a row for whose change the log has been asked. -/
inductive Settles (user : Option Int) (snapshot : Snapshot) (site : Site) (row : LedgerRow)
    (logId : Nat) : Option Change → Entry × Option Site → Prop
  | forgotten : Settles user snapshot site row logId none
    ({ subject := subjectOf row, key := ⟨"", nameOf row none⟩, status := .failed
       logId := some (logId : Int), reason := some Reason.missingLog }, none)
  | absent {change : Change}
    (hlive : (snapshot.get? (targetKey row change)).filter (supports · (facetOf row)) = none) :
    Settles user snapshot site row logId (some change)
      ({ entryOf row logId change with reason := some Reason.notApplicable }, none)
  | diverged {change : Change} {live : Descriptor}
    (hlive : (snapshot.get? (targetKey row change)).filter (supports · (facetOf row)) = some live)
    (hours : isOurs live (facetOf row) change.new = false) :
    Settles user snapshot site row logId (some change)
      ({ entryOf row logId change with
         visibleName := some live.declared.label, status := .diverged
         reason := some Reason.diverged, old := liveText live (facetOf row) }, none)
  | refused {change : Change} {live : Descriptor} {refusal : Refusal}
    (hlive : (snapshot.get? (targetKey row change)).filter (supports · (facetOf row)) = some live)
    (hours : isOurs live (facetOf row) change.new = true)
    (hwrite : writeBack site live (facetOf row) change.old user = .error refusal) :
    Settles user snapshot site row logId (some change)
      ({ entryOf row logId change with
         visibleName := some live.declared.label
         reason := some (Reason.writeFailed refusal) }, none)
  | restored {change written : Change} {live : Descriptor} {after : Site}
    (hlive : (snapshot.get? (targetKey row change)).filter (supports · (facetOf row)) = some live)
    (hours : isOurs live (facetOf row) change.new = true)
    (hwrite : writeBack site live (facetOf row) change.old user = .ok (written, after)) :
    Settles user snapshot site row logId (some change)
      ({ entryOf row logId change with
         visibleName := some live.declared.label, status := .restored }, some after)

variable {user : Option Int} {snapshot later : Snapshot} {site current after : Site}
  {row : LedgerRow} {logId : Nat} {found : Option Change} {result : Entry × Option Site}

theorem exists_settles (hlog : site.store.change? logId = .ok found) :
    ∃ result, restoreSetting user snapshot site row logId = .ok result ∧
      Settles user snapshot site row logId found result := by
  unfold restoreSetting
  rw [hlog, ok_bind]
  cases found with
  | none => exact ⟨_, rfl, .forgotten⟩
  | some change =>
    dsimp only
    cases hlive : (snapshot.get? ⟨change.key.scope, nameOf row (some change)⟩).filter
      (supports · (facetOf row)) with
    | none => exact ⟨_, rfl, .absent hlive⟩
    | some live =>
      dsimp only
      split
      · rename_i hours
        split
        · rename_i refusal hwrite
          exact ⟨_, rfl, .refused hlive hours hwrite⟩
        · rename_i written after hwrite
          exact ⟨_, rfl, .restored hlive hours hwrite⟩
      · rename_i hours
        exact ⟨_, rfl, .diverged hlive (Bool.eq_false_iff.2 hours)⟩

theorem Settles.unique {other : Entry × Option Site} (h : Settles user snapshot site row logId found result)
    (h' : Settles user snapshot site row logId found other) : result = other := by
  cases h <;> cases h' <;> simp_all

theorem restoreRow_eq (hid : row.logId? = some logId) :
    restoreRow user snapshot site row = restoreSetting user snapshot site row logId := by
  cases row with
  | plugin => cases hid
  | setting | facet =>
    obtain rfl := Option.some.inj hid
    rfl

theorem Logged.change_later (h : Logged site.store row logId found) {changes : List Change}
    (hwrote : site.WroteAll changes current) : current.store.change? logId = .ok found :=
  (hwrote.change_of_lt (h.tracks.lt h.id_eq)).trans h.change_eq

theorem exists_restoreRow (user : Option Int) (snapshot : Snapshot)
    (hlogged : Logged site.store row logId found) {changes : List Change}
    (hwrote : site.WroteAll changes current) :
    ∃ result, restoreRow user snapshot current row = .ok result ∧
      Settles user snapshot current row logId found result := by
  rw [restoreRow_eq hlogged.id_eq]
  exact exists_settles (hlogged.change_later hwrote)

/-- What the log told of a row at the start settles it throughout the run. -/
theorem restoreRow_iff (hlogged : Logged site.store row logId found) {changes : List Change}
    (hwrote : site.WroteAll changes current) :
    restoreRow user snapshot current row = .ok result ↔
      Settles user snapshot current row logId found result := by
  obtain ⟨other, hother, hsettles⟩ := exists_restoreRow user snapshot hlogged hwrote
  rw [hother]
  exact ⟨fun h => Except.ok.inj h ▸ hsettles, fun h => congrArg _ (hsettles.unique h)⟩

/-- The setting that a row looks up is the one whose key the row's change has written. -/
theorem readable_of_target (hsnapshot : Snapshot.ofSite site = .ok snapshot) {live : Descriptor} {key : Key}
    (hlive : (snapshot.get? key).filter (supports · (facetOf row)) = some live)
    (text : Option String) :
    ∃ stored, site.store.get (Planned.mk live (facetOf row) text).key = .ok stored :=
  exists_get_of_target hsnapshot (Option.filter_eq_some_iff.1 hlive).1
    (Option.filter_eq_some_iff.1 hlive).2 text

namespace Settles

variable {entry : Entry}

/-- A row that is restored is so by one write, of the key of its change. -/
theorem wrote (h : Settles user snapshot current row logId found (entry, some after))
    (hsnapshot : Snapshot.ofSite site = .ok snapshot) (hlogged : Logged site.store row logId found) :
    ∃ written change, found = some change ∧ current.Wrote written after ∧
      written.key = change.key := by
  cases h with
  | @restored change written live after hlive hours hwrite =>
    rw [writeBack_eq_perform] at hwrite
    obtain ⟨hwrote, hkey, -⟩ := Planned.wrote_of_perform hwrite
    refine ⟨written, change, rfl, hwrote, hkey.trans ?_⟩
    exact key_of_target hsnapshot hlogged.tracks hlogged.id_eq hlogged.change_eq
      (Option.filter_eq_some_iff.1 hlive).1 change.old

end Settles

/-- A write that was refused is refused again. -/
theorem perform_refused_again {planned : Planned} {refusal : Refusal}
    (hold : ∃ stored, site.store.get planned.key = .ok stored) (hkeeps : site.Keeps current)
    (hreads : site.store.StaysReadable current.store)
    (hwrite : planned.perform user site = .error refusal) :
    planned.perform user current = .error refusal := by
  cases hrefusal : site.refusal? user planned.key with
  | none =>
    obtain ⟨change, after, hok⟩ :=
      Planned.exists_perform (Site.writable_of_permitted hold hrefusal)
    cases hwrite.symm.trans hok
  | some other =>
    obtain rfl := Except.error.inj (hwrite.symm.trans (Planned.perform_of_refusal hold hrefusal))
    exact Planned.perform_of_refusal (hreads _ hold) ((hkeeps.refusal_eq _ _).trans hrefusal)

namespace Settles

variable {entry : Entry}

/-- A row that was not restored is not restored later on either. -/
theorem again (h : Settles user snapshot site row logId found (entry, none)) {start : Site}
    (hsnapshot : Snapshot.ofSite start = .ok snapshot)
    (hprior : start.store.StaysReadable site.store) (hkeeps : site.Keeps current)
    (hreads : site.store.StaysReadable current.store) :
    Settles user snapshot current row logId found (entry, none) := by
  cases h with
  | forgotten => exact .forgotten
  | absent hlive => exact .absent hlive
  | diverged hlive hours => exact .diverged hlive hours
  | refused hlive hours hwrite =>
    refine .refused hlive hours ?_
    rw [writeBack_eq_perform] at hwrite ⊢
    exact perform_refused_again (hprior _ (readable_of_target hsnapshot hlive _)) hkeeps hreads hwrite

end Settles

/-! ### Under a later snapshot -/

/-- Writing needs of a setting only what stays. -/
theorem writeBack_eq {live now : Descriptor} (hsame : Site.SameSetting after live now)
    (facet : Option Facet) (text : Option String) :
    writeBack site now facet text user = writeBack site live facet text user := by
  cases facet with
  | none =>
    show site.write now text user = site.write live text user
    unfold Site.write
    rw [hsame.alike.key_eq, hsame.kind_eq]
  | some facet =>
    show site.writeFacet now facet text user = site.writeFacet live facet text user
    unfold Site.writeFacet
    rw [hsame.alike.facetKey_eq]

theorem supports_eq {live now : Descriptor} (hsame : Site.SameSetting after live now) :
    supports now = supports live := by
  funext facet
  unfold supports
  rw [hsame.kind_eq]

/-- What a row compares is the same again if its key has not been written. -/
theorem isOurs_again {live now : Descriptor} (hshows : site.Shows live.declared live)
    (hsame : Site.SameSetting after live now) {facet : Option Facet} (hsupports : supports live facet)
    {text : Option String}
    (hget : after.store.get (Planned.mk live facet text).key =
      site.store.get (Planned.mk live facet text).key) :
    isOurs now facet = isOurs live facet ∧ liveText now facet = liveText live facet := by
  cases facet with
  | none => exact ⟨hsame.equals_eq hshows hget, hsame.value_eq hshows hget⟩
  | some facet =>
    have hfacet := hsame.facet_eq hshows (List.contains_iff_mem.1 hsupports) hget
    constructor
    · show now.facetEquals facet = live.facetEquals facet
      funext other
      unfold Descriptor.facetEquals
      rw [hfacet]
    · show (now.facet? facet).map _ = (live.facet? facet).map _
      rw [hfacet]

section Later

variable (hsnapshot : Snapshot.ofSite site = .ok snapshot) (hlater : Snapshot.ofSite after = .ok later)
  (hkeeps : site.Keeps after) (hreads : site.store.StaysReadable after.store)

include hsnapshot hlater hkeeps hreads

theorem absent_again {key : Key} {facet : Option Facet}
    (hlive : (snapshot.get? key).filter (supports · facet) = none) :
    (later.get? key).filter (supports · facet) = none := by
  have hnow := hkeeps.get_again hreads hsnapshot hlater key
  cases hget : snapshot.get? key with
  | none =>
    rw [hget] at hnow
    rw [hnow]
    rfl
  | some live =>
    rw [hget] at hnow hlive
    obtain ⟨now, hnow, hsame⟩ := hnow
    have hunsupported := Option.filter_eq_none_iff.1 hlive live rfl
    rw [hnow]
    refine Option.filter_eq_none_iff.2 fun other hother => ?_
    rw [← Option.some.inj hother, supports_eq hsame]
    exact hunsupported

theorem target_again {change : Change} {live : Descriptor}
    (hlogged : Logged site.store row logId (some change))
    (hget : after.store.get change.key = site.store.get change.key)
    (hlive : (snapshot.get? (targetKey row change)).filter (supports · (facetOf row)) = some live) :
    ∃ now, (later.get? (targetKey row change)).filter (supports · (facetOf row)) = some now ∧
      Site.SameSetting after live now ∧ isOurs now (facetOf row) = isOurs live (facetOf row) ∧
        liveText now (facetOf row) = liveText live (facetOf row) := by
  obtain ⟨hlive, hsupports⟩ := Option.filter_eq_some_iff.1 hlive
  have hkey := key_of_target hsnapshot hlogged.tracks hlogged.id_eq hlogged.change_eq hlive change.new
  obtain ⟨declared, -, hread⟩ := Snapshot.read_of_get hsnapshot hlive
  have hshows := Site.shows_of_read hread
  have hnow := hkeeps.get_again hreads hsnapshot hlater (targetKey row change)
  rw [hlive] at hnow
  obtain ⟨now, hnow, hsame⟩ := hnow
  rw [← hkey] at hget
  refine ⟨now, Option.filter_eq_some_iff.2 ⟨hnow, ?_⟩, hsame, ?_⟩
  · rw [supports_eq hsame]
    exact hsupports
  · exact isOurs_again (hshows.declared_eq ▸ hshows) hsame hsupports hget

/-- A later snapshot says the same of a row whose key has not been written in between. -/
theorem Settles.under_later (h : Settles user snapshot current row logId found result)
    (hlogged : Logged site.store row logId found)
    (hget : ∀ change, found = some change →
      after.store.get change.key = site.store.get change.key) :
    Settles user later current row logId found result := by
  have hagain {change : Change} {live : Descriptor} (hfound : found = some change)
      (hlive : (snapshot.get? (targetKey row change)).filter (supports · (facetOf row)) = some live) :=
    target_again hsnapshot hlater hkeeps hreads (hfound ▸ hlogged) (hget change hfound) hlive
  cases h with
  | forgotten => exact .forgotten
  | absent hlive => exact .absent (absent_again hsnapshot hlater hkeeps hreads hlive)
  | diverged hlive hours =>
    obtain ⟨now, hnow, hsame, hours', htext⟩ := hagain rfl hlive
    rw [← hours'] at hours
    rw [← htext, ← hsame.shows.declared_eq]
    exact .diverged hnow hours
  | refused hlive hours hwrite =>
    obtain ⟨now, hnow, hsame, hours', -⟩ := hagain rfl hlive
    rw [← hours'] at hours
    rw [← writeBack_eq hsame] at hwrite
    rw [← hsame.shows.declared_eq]
    exact .refused hnow hours hwrite
  | restored hlive hours hwrite =>
    obtain ⟨now, hnow, hsame, hours', -⟩ := hagain rfl hlive
    rw [← hours'] at hours
    rw [← writeBack_eq hsame] at hwrite
    rw [← hsame.shows.declared_eq]
    exact .restored hnow hours hwrite

end Later

end Rollback

end SitePresets
