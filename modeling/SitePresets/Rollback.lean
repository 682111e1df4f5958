import SitePresets.Apply

/-!
# Rolling back

Rolling an application back. A ledger row is restored only as long as the live value is still the one
that was written; restored rows leave the ledger.
-/

namespace SitePresets

namespace Rollback

def facetOf : LedgerRow → Option Facet
  | .facet _ _ facet => some facet
  | _ => none

def isOurs (live : Descriptor) (facet : Option Facet) (written : Option String) : Bool :=
  match facet with
  | none => live.equals written
  | some facet => live.facetEquals facet written

/-- What a live setting has in place of what a row wrote. -/
def liveText (live : Descriptor) : Option Facet → Option String
  | none => live.value
  | some facet => (live.facet? facet).map Value.flagText

/-- Whether a live setting has a value and the facet of a row. -/
def supports (live : Descriptor) (facet : Option Facet) : Bool :=
  facet.all fun facet => live.kind.facets.contains facet

def writeBack (site : Site) (live : Descriptor) (facet : Option Facet) (text : Option String)
    (user : Option Int) : Except Refusal (Change × Site) :=
  match facet with
  | none => site.write live text user
  | some facet => site.writeFacet live facet text user

def subjectOf : LedgerRow → Subject
  | .setting _ => .setting
  | .facet .. => .facet
  | .plugin .. => .plugin

/-- The name of the setting of a row; the log tells it for values. -/
def nameOf (row : LedgerRow) (change : Option Change) : String :=
  match row with
  | .facet _ item _ => item
  | _ => (change.map fun change => change.key.name).getD ""

/-- Restores the row of a value or a facet, if it is restored. -/
def restoreSetting (user : Option Int) (snapshot : Snapshot) (site : Site) (row : LedgerRow)
    (logId : Nat) : Except Refusal (Entry × Option Site) := do
  let change ← site.store.change? logId
  let entry : Entry := {
    subject := subjectOf row, key := ⟨"", nameOf row change⟩, status := .failed, logId := some logId }
  match change with
  | none => return ({ entry with reason := some Reason.missingLog }, none)
  | some change =>
    let facet := facetOf row
    let key : Key := ⟨change.key.scope, entry.key.name⟩
    let entry := { entry with
      key, facet := facet.map Facet.name, old := change.new, new := change.old }
    match (snapshot.get? key).filter (supports · facet) with
    | none => return ({ entry with reason := some Reason.notApplicable }, none)
    | some live =>
      let entry := { entry with visibleName := some live.declared.label }
      if isOurs live facet change.new then
        match writeBack site live facet change.old user with
        | .error refusal =>
          return ({ entry with reason := some (Reason.writeFailed refusal) }, none)
        | .ok (_, site) => return ({ entry with status := .restored }, some site)
      else
        return ({ entry with
          status := .diverged, reason := some Reason.diverged, old := liveText live facet }, none)

def restorePlugin (site : Site) (plugin : Plugin) (value old : Int) : Entry × Option Site :=
  let entry := { Apply.pluginEntry plugin .failed with
    old := some (Numeral.Integer.text value), new := some (Numeral.Integer.text old) }
  match site.store.plugin? plugin with
  | none => ({ entry with reason := some Reason.notApplicable }, none)
  | some current =>
    if current = value then
      match site.setPlugin plugin old with
      | .error refusal => ({ entry with reason := some (Reason.writeFailed refusal) }, none)
      | .ok (_, site) => ({ entry with status := .restored }, some site)
    else
      ({ entry with
        status := .diverged, reason := some Reason.diverged
        old := some (Numeral.Integer.text current) }, none)

def restoreRow (user : Option Int) (snapshot : Snapshot) (site : Site) (row : LedgerRow) :
    Except Refusal (Entry × Option Site) :=
  match row with
  | .setting logId => restoreSetting user snapshot site row logId
  | .facet logId _ _ => restoreSetting user snapshot site row logId
  | .plugin plugin value old => .ok (restorePlugin site plugin value old)

/-- The entry of a row that a cancelled run does not reach. -/
def cancelledEntry (site : Site) (row : LedgerRow) : Except Refusal Entry := do
  match row with
  | .plugin plugin _ _ =>
    return { Apply.pluginEntry plugin .cancelled with reason := some Reason.cancelled }
  | .setting logId | .facet logId _ _ =>
    let change ← site.store.change? logId
    return {
      subject := subjectOf row
      key := ⟨(change.map fun change => change.key.scope).getD "", nameOf row change⟩
      status := .cancelled
      reason := some Reason.cancelled
      logId := some logId
      facet := (facetOf row).map Facet.name }

structure State where
  site : Site
  writes : Nat := 0
  report : RollbackReport
  /-- The rows that stay in the ledger. -/
  kept : List LedgerRow := []

namespace State

def restored (state : State) (entry : Entry) (site : Site) : State :=
  { state with
    site, writes := state.writes + 1
    report := { state.report with restored := state.report.restored ++ [entry] } }

def failed (state : State) (entry : Entry) (row : LedgerRow) : State :=
  { state with
    report := { state.report with failed := state.report.failed ++ [entry] }
    kept := state.kept ++ [row] }

/-- Ends the run before some rows. -/
def cancel (state : State) (rows : List LedgerRow) : Except Refusal State := do
  let skipped ← rows.mapM (cancelledEntry state.site)
  return { state with
    report := { state.report with cancelled := true, skipped }
    kept := state.kept ++ rows }

end State

/-- The rows in order, until the run is cancelled. The rows before one whose log entry cannot be read
stay restored. -/
def restoreRows (user : Option Int) (cancellation : Cancellation) (snapshot : Snapshot) :
    Nat → State → List LedgerRow → Except (Failure Refusal Site) State
  | _, state, [] => .ok state
  | index, state, row :: rest =>
    if cancellation.isDue index state.writes then leaving state.site (state.cancel (row :: rest))
    else do
      match ← leaving state.site (restoreRow user snapshot state.site row) with
      | (entry, some site) =>
        restoreRows user cancellation snapshot (index + 1) (state.restored entry site) rest
      | (entry, none) =>
        restoreRows user cancellation snapshot (index + 1) (state.failed entry row) rest

/-- A whole application. It is deleted once it has no rows left. -/
def run (user : Option Int) (cancellation : Cancellation) (site : Site)
    (application : Application) : Except (Failure Refusal Site) State := do
  let snapshot ← leaving site (Snapshot.ofSite site)
  let state ← restoreRows user cancellation snapshot 0
    { site, report := { applicationId := application.id, presetId := application.presetId } }
    application.rows
  return { state with report := { state.report with applicationDeleted := state.kept.isEmpty } }

end Rollback

end SitePresets
