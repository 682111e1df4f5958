import SitePresets.Proofs.Rollback.Row

/-!
# Rolling back row by row

A run over the rows of an application stops where it is cancelled. Of the rows before that, it
restores those that were restorable at the start and keeps the others, each list in the order of the
rows.
-/

namespace SitePresets

namespace Cancellation

/-- The rows that a run reaches before it is cancelled, if it writes for some of them. -/
def reached (cancellation : Cancellation) (isWritten : LedgerRow → Bool) :
    Nat → Nat → List LedgerRow → List LedgerRow
  | _, _, [] => []
  | index, writes, row :: rest =>
    if cancellation.isDue index writes then []
    else row :: cancellation.reached isWritten (index + 1)
      (if isWritten row then writes + 1 else writes) rest

variable (isWritten : LedgerRow → Bool) (rows : List LedgerRow)

theorem reached_prefix (cancellation : Cancellation) (index writes : Nat) :
    cancellation.reached isWritten index writes rows <+: rows := by
  induction rows generalizing index writes with
  | nil => exact List.prefix_refl []
  | cons row rest ih =>
    unfold reached
    split
    · exact List.nil_prefix
    · exact List.cons_prefix_cons.2 ⟨rfl, ih _ _⟩

theorem reached_never (index writes : Nat) : never.reached isWritten index writes rows = rows := by
  induction rows generalizing index writes with
  | nil => rfl
  | cons row rest ih =>
    unfold reached
    exact congrArg (row :: ·) (ih _ _)

/-- A run that is cancelled before a row reaches the rows before it. -/
theorem reached_beforeRow (stop index writes : Nat) :
    (beforeRow stop).reached isWritten index writes rows = rows.take (stop - index) := by
  induction rows generalizing index writes with
  | nil => simp [reached]
  | cons row rest ih =>
    unfold reached
    by_cases hdue : stop ≤ index
    · have hzero : stop - index = 0 := by omega
      simp [isDue, hdue, hzero]
    · have hsucc : stop - index = stop - (index + 1) + 1 := by omega
      simp [isDue, hdue, hsucc, ih]

end Cancellation

namespace Rollback

def isRestorable (site : Site) (row : LedgerRow) : Bool :=
  match row with
  | .setting _ => (site.store.changeOf? row).any fun change =>
    (site.lookup change.key).toOption.join.any (·.equals change.new)
  | .facet _ item facet => (site.store.changeOf? row).any fun change =>
    (site.lookup ⟨change.key.scope, item⟩).toOption.join.any fun live =>
      live.kind.facets.contains facet && live.facetEquals facet change.new
  | .plugin plugin value _ => site.store.plugin? plugin = some value

theorem isRestorable_iff {site : Site} {row : LedgerRow} :
    isRestorable site row ↔ Restorable site row := by
  constructor
  · intro h
    cases row with
    | setting logId =>
      obtain ⟨change, hchange, h⟩ := (Option.any_eq_true _ _).1 h
      obtain ⟨live, hlive, hours⟩ := (Option.any_eq_true _ _).1 h
      obtain ⟨id, hid, hlog⟩ := Store.changeOf_eq_some.1 hchange
      obtain rfl := Option.some.inj hid
      exact .setting hlog (toOption_join_eq_some.1 hlive) hours
    | facet logId item facet =>
      obtain ⟨change, hchange, h⟩ := (Option.any_eq_true _ _).1 h
      obtain ⟨live, hlive, h⟩ := (Option.any_eq_true _ _).1 h
      obtain ⟨hfacet, hours⟩ := Bool.and_eq_true_iff.1 h
      obtain ⟨id, hid, hlog⟩ := Store.changeOf_eq_some.1 hchange
      obtain rfl := Option.some.inj hid
      exact .facet hlog (toOption_join_eq_some.1 hlive) (List.contains_iff_mem.1 hfacet) hours
    | plugin plugin value old => exact .plugin (of_decide_eq_true h)
  · intro h
    cases h with
    | @setting logId change live hlog hlive hours =>
      refine (Option.any_eq_true _ _).2 ⟨change, Store.changeOf_eq_some.2 ⟨logId, rfl, hlog⟩, ?_⟩
      exact (Option.any_eq_true _ _).2 ⟨live, toOption_join_eq_some.2 hlive, hours⟩
    | @facet logId item facet change live hlog hlive hfacet hours =>
      refine (Option.any_eq_true _ _).2 ⟨change, Store.changeOf_eq_some.2 ⟨logId, rfl, hlog⟩, ?_⟩
      refine (Option.any_eq_true _ _).2 ⟨live, toOption_join_eq_some.2 hlive, ?_⟩
      exact Bool.and_eq_true_iff.2 ⟨List.contains_iff_mem.2 hfacet, hours⟩
    | plugin hcurrent => exact decide_eq_true hcurrent

/-- What a run over rows has made of its state: some of them it has reached, and the rest it has not. -/
structure RowsOutcome (site : Site) (done : List LedgerRow) (before : State)
    (reached rest : List LedgerRow) (after : State) : Prop where
  undone : Undone site (done ++ reached.filter (isRestorable site)) after.site
  kept_eq : after.kept = before.kept ++ reached.filter (!isRestorable site ·) ++ rest
  restored : ∃ entries, after.report.restored = before.report.restored ++ entries ∧
    List.Forall₂ (Reports [.restored]) (reached.filter (isRestorable site)) entries
  failed : ∃ entries, after.report.failed = before.report.failed ++ entries ∧
    List.Forall₂ (Reports [.failed, .diverged]) (reached.filter (!isRestorable site ·)) entries
  skipped : List.Forall₂ (Reports [.cancelled]) rest after.report.skipped
  cancelled_eq : after.report.cancelled = (before.report.cancelled || !rest.isEmpty)
  applicationId_eq : after.report.applicationId = before.report.applicationId

variable {site next : Site} {snapshot : Snapshot} {user : Option Int}

namespace RowsOutcome

variable {done reached rest : List LedgerRow} {row : LedgerRow} {entry : Entry}
  {before after : State}

theorem restore (h : RowsOutcome site (done ++ [row]) (before.restored entry next) reached rest after)
    (hrow : isRestorable site row = true) (hentry : Reports [.restored] row entry) :
    RowsOutcome site done before (row :: reached) rest after where
  undone := by simpa [hrow] using h.undone
  kept_eq := by simpa [hrow, State.restored] using h.kept_eq
  restored := by
    obtain ⟨entries, heq, hentries⟩ := h.restored
    refine ⟨entry :: entries, by simpa [State.restored] using heq, ?_⟩
    rw [List.filter_cons_of_pos hrow]
    exact .cons hentry hentries
  failed := by simpa [hrow, State.restored] using h.failed
  skipped := h.skipped
  cancelled_eq := h.cancelled_eq
  applicationId_eq := h.applicationId_eq

theorem fail (h : RowsOutcome site done (before.failed entry row) reached rest after)
    (hrow : isRestorable site row = false) (hentry : Reports [.failed, .diverged] row entry) :
    RowsOutcome site done before (row :: reached) rest after where
  undone := by simpa [hrow] using h.undone
  kept_eq := by simpa [hrow, State.failed] using h.kept_eq
  restored := by simpa [hrow, State.failed] using h.restored
  failed := by
    obtain ⟨entries, heq, hentries⟩ := h.failed
    refine ⟨entry :: entries, by simpa [State.failed] using heq, ?_⟩
    rw [List.filter_cons_of_pos (by simp [hrow])]
    exact .cons hentry hentries
  skipped := h.skipped
  cancelled_eq := h.cancelled_eq
  applicationId_eq := h.applicationId_eq

end RowsOutcome

theorem cancel_outcome {state : State} {done rows : List LedgerRow}
    (hundone : Undone site done state.site) (hready : ∀ row ∈ rows, Ready site user row)
    (hne : rows ≠ []) :
    ∃ after, state.cancel rows = .ok after ∧ RowsOutcome site done state [] rows after := by
  obtain ⟨entries, hreports, hcancel⟩ := cancel_of_entries fun row hrow =>
    exists_cancelledEntry hundone (hready row hrow)
  refine ⟨_, hcancel, ?_⟩
  exact {
    undone := by simpa using hundone
    kept_eq := by simp
    restored := ⟨[], by simp, .nil⟩
    failed := ⟨[], by simp, .nil⟩
    skipped := hreports
    cancelled_eq := by simp [hne]
    applicationId_eq := rfl }

/-- Each row that the run reaches is restored exactly if it was restorable at the start. -/
theorem restoreRows_outcome (hsnapshot : Snapshot.ofSite site = .ok snapshot)
    (cancellation : Cancellation) {done rows : List LedgerRow} (index : Nat) (state : State)
    (hundone : Undone site done state.site) (hready : ∀ row ∈ rows, Ready site user row)
    (hdistinct : (done ++ rows).Pairwise (Distinct site.store))
    (hskipped : state.report.skipped = []) :
    ∃ rest after,
      rows = cancellation.reached (isRestorable site) index state.writes rows ++ rest ∧
        restoreRows user cancellation snapshot index state rows = .ok after ∧
          RowsOutcome site done state
            (cancellation.reached (isRestorable site) index state.writes rows) rest after := by
  induction rows generalizing done index state with
  | nil =>
    refine ⟨[], state, rfl, rfl, ?_⟩
    exact {
      undone := by simpa [Cancellation.reached] using hundone
      kept_eq := by simp [Cancellation.reached]
      restored := ⟨[], by simp, .nil⟩
      failed := ⟨[], by simp, .nil⟩
      skipped := hskipped ▸ .nil
      cancelled_eq := by simp
      applicationId_eq := rfl }
  | cons row rest ih =>
    unfold restoreRows
    by_cases hdue : cancellation.isDue index state.writes
    · obtain ⟨after, hafter, houtcome⟩ := cancel_outcome hundone hready (List.cons_ne_nil row rest)
      have hreached : cancellation.reached (isRestorable site) index state.writes (row :: rest) =
          [] := by
        simp [Cancellation.reached, hdue]
      rw [hreached, if_pos hdue]
      exact ⟨row :: rest, after, rfl, leaving_eq_ok.2 hafter, houtcome⟩
    · have hdone : ∀ other ∈ done, Distinct site.store other row := fun other hother =>
        (List.pairwise_append.1 hdistinct).2.2 other hother row List.mem_cons_self
      have houtcome := restoreRow_outcome hsnapshot hundone (hready row List.mem_cons_self) hdone
      have hready := fun other hother => hready other (List.mem_cons_of_mem row hother)
      rw [if_neg hdue]
      generalize restoreRow user snapshot state.site row = result at houtcome
      cases houtcome with
      | @restored entry next hrestorable hdescribes hstatus hnext =>
        have hrow := isRestorable_iff.2 hrestorable
        have hreached : cancellation.reached (isRestorable site) index state.writes (row :: rest) =
            row :: cancellation.reached (isRestorable site) (index + 1)
              (state.restored entry next).writes rest := by
          simp [Cancellation.reached, hdue, hrow, State.restored]
        obtain ⟨more, after, hsplit, hafter, hrest⟩ :=
          ih (index + 1) (state.restored entry next) hnext hready (by simpa using hdistinct) hskipped
        rw [hreached]
        exact ⟨more, after, congrArg (row :: ·) hsplit, hafter,
          hrest.restore hrow ⟨hdescribes, by simp [hstatus]⟩⟩
      | @failed entry hrestorable hdescribes hstatus =>
        have hrow : isRestorable site row = false :=
          Bool.eq_false_iff.2 fun h => hrestorable (isRestorable_iff.1 h)
        have hreached : cancellation.reached (isRestorable site) index state.writes (row :: rest) =
            row :: cancellation.reached (isRestorable site) (index + 1)
              (state.failed entry row).writes rest := by
          simp [Cancellation.reached, hdue, hrow, State.failed]
        have hpart : (done ++ rest).Sublist (done ++ row :: rest) :=
          (List.sublist_cons_self row rest).append_left done
        obtain ⟨more, after, hsplit, hafter, hrest⟩ :=
          ih (index + 1) (state.failed entry row) hundone hready (hdistinct.sublist hpart) hskipped
        rw [hreached]
        exact ⟨more, after, congrArg (row :: ·) hsplit, hafter,
          hrest.fail hrow ⟨hdescribes, by simpa using hstatus⟩⟩

end Rollback

end SitePresets
