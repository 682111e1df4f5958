import SitePresets.Proofs.Rollback.Rows
import SitePresets.Proofs.Rollback.Verdict

/-!
# Passes over rows

A run over rows as a chain of verdicts. Passes can be put one behind another, a pass over the rows that an
earlier one has kept keeps them again, and a pass over rows that an earlier one has not come to is the same
under its own snapshot.
-/

namespace SitePresets

namespace Rollback

/-- What passing over rows comes to. -/
structure Passed where
  restored : List Entry := []
  failed : List Entry := []
  kept : List LedgerRow := []

def Passed.append (first second : Passed) : Passed where
  restored := first.restored ++ second.restored
  failed := first.failed ++ second.failed
  kept := first.kept ++ second.kept

/-- A run over rows that is not cancelled, from one site to another. -/
inductive Pass (user : Option Int) (snapshot : Snapshot) :
    Site → List LedgerRow → Passed → Site → Prop
  | nil {site : Site} : Pass user snapshot site [] {} site
  | restored {site next after : Site} {row : LedgerRow} {rest : List LedgerRow} {entry : Entry}
    {passed : Passed} (hrow : restoreRow user snapshot site row = .ok (entry, some next))
    (hrest : Pass user snapshot next rest passed after) :
    Pass user snapshot site (row :: rest)
      { passed with restored := entry :: passed.restored } after
  | failed {site after : Site} {row : LedgerRow} {rest : List LedgerRow} {entry : Entry}
    {passed : Passed} (hrow : restoreRow user snapshot site row = .ok (entry, none))
    (hrest : Pass user snapshot site rest passed after) :
    Pass user snapshot site (row :: rest)
      { passed with failed := entry :: passed.failed, kept := row :: passed.kept } after

variable {user : Option Int} {snapshot later : Snapshot} {site start middle after : Site}
  {rows rest : List LedgerRow} {row : LedgerRow} {passed first second : Passed}
  {changes prior : List Change}

namespace Pass

theorem append (h : Pass user snapshot site rows first middle)
    (hrest : Pass user snapshot middle rest second after) :
    Pass user snapshot site (rows ++ rest) (first.append second) after := by
  induction h with
  | nil => exact hrest
  | restored hrow _ ih => exact .restored hrow (ih hrest)
  | failed hrow _ ih => exact .failed hrow (ih hrest)

theorem eq_of_nil (h : Pass user snapshot site [] passed after) : passed = {} ∧ after = site := by
  cases h
  exact ⟨rfl, rfl⟩

theorem kept_sublist (h : Pass user snapshot site rows passed after) : passed.kept.Sublist rows := by
  induction h with
  | nil => exact .slnil
  | restored _ _ ih => exact ih.cons _
  | failed _ _ ih => exact ih.cons_cons _

end Pass

/-! ### What a pass writes -/

/-- The log tells the changes of rows of values and facets. -/
def AllLogged (store : Store) (rows : List LedgerRow) : Prop :=
  ∀ row ∈ rows, ∃ logId found, Logged store row logId found

theorem AllLogged.of_cons (h : AllLogged site.store (row :: rest)) : AllLogged site.store rest :=
  fun other hother => h other (List.mem_cons_of_mem row hother)

theorem exists_pass (user : Option Int) (hsnapshot : Snapshot.ofSite start = .ok snapshot)
    (hlogged : AllLogged start.store rows) (hprior : start.WroteAll prior site) :
    ∃ passed after, Pass user snapshot site rows passed after := by
  induction rows generalizing prior site with
  | nil => exact ⟨_, _, .nil⟩
  | cons row rest ih =>
    obtain ⟨logId, found, hrow⟩ := hlogged row List.mem_cons_self
    obtain ⟨⟨entry, next⟩, hresult, hsettles⟩ :=
      exists_restoreRow user snapshot hrow hprior
    cases next with
    | none =>
      obtain ⟨passed, after, hrest⟩ := ih hlogged.of_cons hprior
      exact ⟨_, _, .failed hresult hrest⟩
    | some next =>
      obtain ⟨written, change, -, hwrote, -⟩ := hsettles.wrote hsnapshot hrow
      obtain ⟨passed, after, hrest⟩ := ih hlogged.of_cons (hprior.append (.of_wrote hwrote))
      exact ⟨_, _, .restored hresult hrest⟩

namespace Pass

section Writes

variable (hsnapshot : Snapshot.ofSite start = .ok snapshot)

include hsnapshot

/-- A pass writes keys of the changes of its rows, and nothing else. -/
theorem wrote (h : Pass user snapshot site rows passed after) (hlogged : AllLogged start.store rows)
    (hprior : start.WroteAll prior site) :
    ∃ changes, site.WroteAll changes after ∧ ∀ written ∈ changes, ∃ row ∈ rows, ∃ change,
      start.store.changeOf? row = some change ∧ written.key = change.key := by
  induction h generalizing prior with
  | nil => exact ⟨[], .nil, fun _ h => nomatch h⟩
  | @restored site next after row rest entry passed hrow hrest ih =>
    obtain ⟨logId, found, hfound⟩ := hlogged row List.mem_cons_self
    obtain ⟨written, change, rfl, hwrote, hkey⟩ :=
      ((restoreRow_iff hfound hprior).1 hrow).wrote hsnapshot hfound
    obtain ⟨changes, hchanges, hkeys⟩ := ih hlogged.of_cons (hprior.append (.of_wrote hwrote))
    refine ⟨written :: changes, .cons hwrote hchanges, fun other hother => ?_⟩
    rcases List.mem_cons.1 hother with rfl | hother
    · exact ⟨row, List.mem_cons_self, change, hfound.changeOf_eq, hkey⟩
    · obtain ⟨found, hmem, hchange⟩ := hkeys other hother
      exact ⟨found, List.mem_cons_of_mem row hmem, hchange⟩
  | failed hrow hrest ih =>
    obtain ⟨changes, hchanges, hkeys⟩ := ih hlogged.of_cons hprior
    refine ⟨changes, hchanges, fun other hother => ?_⟩
    obtain ⟨found, hmem, hchange⟩ := hkeys other hother
    exact ⟨found, List.mem_cons_of_mem _ hmem, hchange⟩

/-- What other rows stand for keeps its value. -/
theorem get_of_apart (h : Pass user snapshot site rows passed after)
    (hlogged : AllLogged start.store rows) (hprior : start.WroteAll prior site)
    (hapart : ∀ other ∈ rows, start.store.RowsApart other row) {change : Change}
    (hchange : start.store.changeOf? row = some change) :
    after.store.get change.key = site.store.get change.key := by
  obtain ⟨changes, hchanges, hkeys⟩ := h.wrote hsnapshot hlogged hprior
  refine hchanges.get_of_not_mem fun hmem => ?_
  obtain ⟨written, hwritten, hkey⟩ := List.mem_map.1 hmem
  obtain ⟨other, hother, found, hfound, heq⟩ := hkeys written hwritten
  exact hapart other hother found change hfound hchange (heq.symm.trans hkey)

/-- So do the rows that the pass keeps. -/
theorem get_of_kept (h : Pass user snapshot site rows passed after)
    (hlogged : AllLogged start.store rows) (hprior : start.WroteAll prior site)
    (hapart : rows.Pairwise start.store.RowsApart) (hkept : row ∈ passed.kept) {change : Change}
    (hchange : start.store.changeOf? row = some change) :
    after.store.get change.key = site.store.get change.key := by
  induction h generalizing prior with
  | nil => cases hkept
  | @restored site next after first rest entry passed hfirst hrest ih =>
    obtain ⟨logId, found, hfound⟩ := hlogged first List.mem_cons_self
    obtain ⟨written, replaced, rfl, hwrote, hkey⟩ :=
      ((restoreRow_iff hfound hprior).1 hfirst).wrote hsnapshot hfound
    obtain ⟨hhead, htail⟩ := List.pairwise_cons.1 hapart
    rw [ih hlogged.of_cons (hprior.append (.of_wrote hwrote)) htail hkept]
    refine hwrote.get_of_ne fun heq => ?_
    exact hhead row (hrest.kept_sublist.subset hkept) replaced change hfound.changeOf_eq hchange
      (hkey.symm.trans heq.symm)
  | failed hfirst hrest ih =>
    obtain ⟨hhead, htail⟩ := List.pairwise_cons.1 hapart
    rcases List.mem_cons.1 hkept with rfl | hkept
    · refine hrest.get_of_apart hsnapshot hlogged.of_cons hprior (fun other hother => ?_) hchange
      exact fun found change hfound hchange heq => hhead other hother change found hchange hfound heq.symm
    · exact ih hlogged.of_cons hprior htail hkept

/-- At the end of a pass the rows that it keeps would be refused again, each with its entry. -/
theorem refused (h : Pass user snapshot site rows passed after)
    (hlogged : AllLogged start.store rows) (hprior : start.WroteAll prior site) :
    List.Forall₂ (fun row entry => restoreRow user snapshot after row = .ok (entry, none))
      passed.kept passed.failed := by
  induction h generalizing prior with
  | nil => exact .nil
  | restored hrow hrest ih =>
    obtain ⟨logId, found, hfound⟩ := hlogged _ List.mem_cons_self
    obtain ⟨written, change, -, hwrote, -⟩ :=
      ((restoreRow_iff hfound hprior).1 hrow).wrote hsnapshot hfound
    exact ih hlogged.of_cons (hprior.append (.of_wrote hwrote))
  | failed hrow hrest ih =>
    refine .cons ?_ (ih hlogged.of_cons hprior)
    obtain ⟨logId, found, hfound⟩ := hlogged _ List.mem_cons_self
    obtain ⟨changes, hchanges, -⟩ := hrest.wrote hsnapshot hlogged.of_cons hprior
    refine (restoreRow_iff hfound (hprior.append hchanges)).2 ?_
    exact ((restoreRow_iff hfound hprior).1 hrow).again hsnapshot hprior.staysReadable hchanges.keeps
      hchanges.staysReadable

end Writes

/-! ### The next run -/

theorem of_refused {kept : List LedgerRow} {failed : List Entry}
    (h : List.Forall₂ (fun row entry => restoreRow user snapshot site row = .ok (entry, none))
      kept failed) :
    Pass user snapshot site kept { failed, kept } site := by
  induction h with
  | nil => exact .nil
  | cons hrow _ ih => exact .failed hrow ih

section Later

variable (hsnapshot : Snapshot.ofSite start = .ok snapshot)
  (hlater : Snapshot.ofSite middle = .ok later) (hbetween : start.WroteAll changes middle)

include hsnapshot hlater hbetween

theorem restoreRow_under_later (hlogged : ∃ logId found, Logged start.store row logId found)
    (hget : ∀ change, start.store.changeOf? row = some change →
      middle.store.get change.key = start.store.get change.key)
    (hprior : start.WroteAll prior site) {result : Entry × Option Site}
    (hrow : restoreRow user snapshot site row = .ok result) :
    restoreRow user later site row = .ok result := by
  obtain ⟨logId, found, hfound⟩ := hlogged
  rw [hfound.changeOf_eq] at hget
  refine (restoreRow_iff hfound hprior).2 ?_
  exact ((restoreRow_iff hfound hprior).1 hrow).under_later hsnapshot hlater hbetween.keeps
    hbetween.staysReadable hfound hget

/-- A pass over rows whose keys have not been written is the same under a later snapshot. -/
theorem under_later (h : Pass user snapshot site rows passed after)
    (hlogged : AllLogged start.store rows)
    (hget : ∀ row ∈ rows, ∀ change, start.store.changeOf? row = some change →
      middle.store.get change.key = start.store.get change.key)
    (hprior : start.WroteAll prior site) : Pass user later site rows passed after := by
  induction h generalizing prior with
  | nil => exact .nil
  | @restored site next after row rest entry passed hrow hrest ih =>
    obtain ⟨logId, found, hfound⟩ := hlogged row List.mem_cons_self
    obtain ⟨written, change, -, hwrote, -⟩ :=
      ((restoreRow_iff hfound hprior).1 hrow).wrote hsnapshot hfound
    refine .restored (restoreRow_under_later hsnapshot hlater hbetween ⟨logId, found, hfound⟩
      (hget row List.mem_cons_self) hprior hrow) ?_
    exact ih hlogged.of_cons (fun other hother => hget other (List.mem_cons_of_mem row hother))
      (hprior.append (.of_wrote hwrote))
  | @failed site after row rest entry passed hrow hrest ih =>
    refine .failed (restoreRow_under_later hsnapshot hlater hbetween (hlogged row List.mem_cons_self)
      (hget row List.mem_cons_self) hprior hrow) ?_
    exact ih hlogged.of_cons (fun other hother => hget other (List.mem_cons_of_mem row hother)) hprior

end Later

section Resumed

variable (hsnapshot : Snapshot.ofSite start = .ok snapshot)

include hsnapshot

/-- A run over the rows that a pass has kept restores none of them and changes nothing. -/
theorem keeps_again (h : Pass user snapshot start rows passed after)
    (hlater : Snapshot.ofSite after = .ok later) (hlogged : AllLogged start.store rows)
    (hapart : rows.Pairwise start.store.RowsApart) :
    Pass user later after passed.kept { failed := passed.failed, kept := passed.kept } after := by
  obtain ⟨changes, hchanges, -⟩ := h.wrote hsnapshot hlogged .nil
  have hrefused := of_refused (h.refused hsnapshot hlogged .nil)
  refine hrefused.under_later hsnapshot hlater hchanges (fun row hrow => ?_) (fun row hrow change hchange => ?_)
    hchanges
  · exact hlogged row (h.kept_sublist.subset hrow)
  · exact h.get_of_kept hsnapshot hlogged .nil hapart hrow hchange

/-- A run over what a pass has kept and what it has not come to goes on as the pass would have. -/
theorem resume (h : Pass user snapshot start rows first middle)
    (hrest : Pass user snapshot middle rest second after)
    (hlater : Snapshot.ofSite middle = .ok later) (hlogged : AllLogged start.store (rows ++ rest))
    (hapart : (rows ++ rest).Pairwise start.store.RowsApart) :
    Pass user later middle (first.kept ++ rest)
      { second with failed := first.failed ++ second.failed, kept := first.kept ++ second.kept }
      after := by
  obtain ⟨hrows, -, hcross⟩ := List.pairwise_append.1 hapart
  have hreached : AllLogged start.store rows := fun row hrow =>
    hlogged row (List.mem_append_left rest hrow)
  obtain ⟨changes, hchanges, -⟩ := h.wrote hsnapshot hreached .nil
  refine (h.keeps_again hsnapshot hlater hreached hrows).append
    (hrest.under_later hsnapshot hlater hchanges (fun row hrow => ?_) (fun row hrow change hchange => ?_)
      hchanges)
  · exact hlogged row (List.mem_append_right rows hrow)
  · exact h.get_of_apart hsnapshot hreached .nil (fun other hother => hcross other hother row hrow)
      hchange

end Resumed

end Pass

end Rollback

end SitePresets
