import SitePresets.Library
import SitePresets.Report
import SitePresets.Snapshot

/-!
# Applying presets

Applying a preset to a site. All items are judged by one snapshot of the site, taken at the start, and
only what differs from it is written. A preview judges alike and writes nothing.
-/

namespace SitePresets

/-- When a run is cancelled: it is asked between rows. -/
inductive Cancellation where
  | never
  /-- As soon as so many writes were made. -/
  | afterWrites (count : Nat)
  /-- Before the row with an index. -/
  | beforeRow (index : Nat)
  deriving DecidableEq, Repr

/-- Whether a run stops before a row. -/
def Cancellation.isDue : Cancellation → (index writes : Nat) → Bool
  | never, _, _ => false
  | afterWrites count, _, writes => count ≤ writes
  | beforeRow stop, index, _ => stop ≤ index

structure ApplyRequest where
  user : Option Int := none
  simulate : Bool := false
  /-- Whether to apply what is excluded too. -/
  override : Bool := false
  exclusions : List Key := []
  cancellation : Cancellation := .never
  deriving Repr

/-- A run over a site: how many writes it made, and the ledger rows for them. -/
structure Progress where
  site : Site
  writes : Nat := 0
  rows : List LedgerRow := []

namespace Progress

/-- Whether a run ends for want of an application. It opens one as soon as it has rows for it, and goes
no further if the library has no place for it. -/
def isBarred (progress : Progress) (recordable : Bool) : Bool :=
  !recordable && !progress.rows.isEmpty

@[simp]
theorem isBarred_true (progress : Progress) : progress.isBarred true = false := rfl

/-- Makes one write and records it. A preview does nothing. -/
def write (progress : Progress) (simulate : Bool) (action : Site → Except Refusal (Change × Site))
    (row : Nat → LedgerRow) : Except Refusal (Option Nat × Progress) :=
  if simulate then .ok (none, progress)
  else do
    let (change, site) ← action progress.site
    return (some change.id, {
      site, writes := progress.writes + 1, rows := progress.rows ++ [row change.id] })

/-- Sets the state of a plugin and records it. A preview does nothing. -/
def setPlugin (progress : Progress) (simulate : Bool) (plugin : Plugin) (enabled : Int) :
    Except Refusal Progress :=
  if simulate then .ok progress
  else do
    let (old, site) ← progress.site.setPlugin plugin enabled
    return {
      site, writes := progress.writes + 1, rows := progress.rows ++ [.plugin plugin enabled old] }

end Progress

namespace Apply

inductive Verdict where
  | excluded
  | unknown
  | invalid (live : Descriptor)
  | wanted (live wanted : Descriptor)

/-- An excluded item is not looked at any further. -/
def judge (request : ApplyRequest) (snapshot : Snapshot) (item : Item) : Verdict :=
  if item.key ∈ request.exclusions ∧ ¬ request.override then .excluded
  else match snapshot.get? item.key with
    | none => .unknown
    | some live =>
      let wanted := live.withStored item.value item.attributes
      if wanted.isValid then .wanted live wanted else .invalid live

def facetChanges (live wanted : Descriptor) : List (Facet × Bool) :=
  wanted.facets.filter fun (facet, on) => !live.facetEquals facet (some (Value.flagText on))

/-- Writes facets one after another, until a write fails. -/
def writeFacets (request : ApplyRequest) (live : Descriptor) (entry : Entry) (progress : Progress) :
    List (Facet × Bool) → Entry × Progress
  | [] => (entry, progress)
  | (facet, on) :: rest =>
    let text := some (Value.flagText on)
    match progress.write request.simulate (·.writeFacet live facet text request.user)
        (.facet · live.key.name facet) with
    | .error refusal =>
      ({ entry with status := .failed, reason := some (Reason.facetWriteFailed facet refusal) },
        progress)
    | .ok (logId, progress) =>
      let change : FacetChange :=
        { old := (live.facet? facet).map Value.flagText, new := text, logId := logId.map Int.ofNat }
      writeFacets request live
        { entry with
          status := .applied, reason := none, facets := entry.facets ++ [(facet.name, change)] }
        progress rest

/-- Writes what differs between a live setting and a wanted one. The facets come after the value, and
only if it could be written. -/
def writeWanted (request : ApplyRequest) (live wanted : Descriptor) (entry : Entry)
    (progress : Progress) : Entry × Progress :=
  if live.equals wanted.value then
    writeFacets request live { entry with reason := some Reason.unchanged } progress
      (facetChanges live wanted)
  else
    let entry := { entry with new := wanted.value }
    match progress.write request.simulate (·.write live wanted.value request.user) .setting with
    | .error refusal =>
      ({ entry with status := .failed, reason := some (Reason.writeFailed refusal) }, progress)
    | .ok (logId, progress) =>
      writeFacets request live { entry with status := .applied, logId := logId.map Int.ofNat }
        progress (facetChanges live wanted)

/-- One item: its entry in the report, and what the site is then. -/
def applyItem (request : ApplyRequest) (snapshot : Snapshot) (item : Item) (progress : Progress) :
    Entry × Progress :=
  let entry : Entry := { key := item.key, status := .unchanged, new := item.value }
  match judge request snapshot item with
  | .excluded => ({ entry with status := .excluded, reason := some Reason.excluded }, progress)
  | .unknown =>
    ({ entry with status := .notApplicable, reason := some Reason.notApplicable }, progress)
  | .invalid live =>
    ({ entry with
      status := .failed, reason := some Reason.invalidValue
      visibleName := some live.declared.label, old := live.value }, progress)
  | .wanted live wanted =>
    writeWanted request live wanted
      { entry with visibleName := some live.declared.label, old := live.value } progress

def cancelledEntry (item : Item) : Entry :=
  { key := item.key, status := .cancelled, reason := some Reason.cancelled, new := item.value }

/-- The items in order, until the run is cancelled or barred. -/
def applyItems (request : ApplyRequest) (snapshot : Snapshot) (index : Nat) (report : ApplyReport)
    (progress : Progress) (items : List Item) (recordable : Bool := true) : ApplyReport × Progress :=
  match items with
  | [] => (report, progress)
  | item :: rest =>
    if progress.isBarred recordable then (report, progress)
    else if request.cancellation.isDue index progress.writes then
      ((item :: rest).foldl (fun report item => report.add (cancelledEntry item))
        { report with cancelled := true }, progress)
    else
      let (entry, progress) := applyItem request snapshot item progress
      applyItems request snapshot (index + 1) (report.add entry) progress rest recordable

theorem applyItems_cons (request : ApplyRequest) (snapshot : Snapshot) (index : Nat)
    (report : ApplyReport) (progress : Progress) (item : Item) (rest : List Item) :
    applyItems request snapshot index report progress (item :: rest) =
      if request.cancellation.isDue index progress.writes then
        ((item :: rest).foldl (fun report item => report.add (cancelledEntry item))
          { report with cancelled := true }, progress)
      else
        applyItems request snapshot (index + 1)
          (report.add (applyItem request snapshot item progress).1)
          (applyItem request snapshot item progress).2 rest :=
  rfl

def pluginEntry (plugin : Plugin) (status : Status) : Entry :=
  { subject := .plugin, key := ⟨plugin.type, plugin.name⟩, status }

/-- One plugin. What counts is whether it is enabled, not by which number. -/
def applyPlugin (request : ApplyRequest) (progress : Progress) (row : StoredPlugin) :
    Entry × Progress :=
  let entry := { pluginEntry row.plugin .unchanged with new := some (Numeral.Integer.text row.enabled) }
  match progress.site.store.plugin? row.plugin with
  | none =>
    ({ entry with status := .notApplicable, reason := some Reason.notApplicable }, progress)
  | some current =>
    let entry := { entry with old := some (Numeral.Integer.text current) }
    if (0 < current ↔ 0 < row.enabled) then
      ({ entry with reason := some Reason.unchanged }, progress)
    else match progress.setPlugin request.simulate row.plugin row.enabled with
      | .error refusal =>
        ({ entry with status := .failed, reason := some (Reason.writeFailed refusal) }, progress)
      | .ok progress => ({ entry with status := .applied }, progress)

/-- The plugins in order, until the run is barred. -/
def applyPlugins (request : ApplyRequest) (entries : List Entry) (progress : Progress)
    (plugins : List StoredPlugin) (recordable : Bool := true) : List Entry × Progress :=
  match plugins with
  | [] => (entries, progress)
  | row :: rest =>
    if progress.isBarred recordable then (entries, progress)
    else
      let (entry, progress) := applyPlugin request progress row
      applyPlugins request (entries ++ [entry]) progress rest recordable

theorem applyPlugins_cons (request : ApplyRequest) (entries : List Entry) (progress : Progress)
    (row : StoredPlugin) (rest : List StoredPlugin) :
    applyPlugins request entries progress (row :: rest) =
      applyPlugins request (entries ++ [(applyPlugin request progress row).1])
        (applyPlugin request progress row).2 rest :=
  rfl

/-- A whole preset. The plugins come after the items; a cancelled run leaves them alone. One that the
library has no application for ends with the first item or plugin that is written. -/
def run (request : ApplyRequest) (site : Site) (preset : Preset) (recordable : Bool := true) :
    Except Refusal (ApplyReport × Progress) := do
  let snapshot ← Snapshot.ofSite site
  let (report, progress) := applyItems request snapshot 0
    { presetId := preset.id, simulated := request.simulate } { site }
    (preset.items.map StoredItem.item) recordable
  if report.cancelled then
    return ({ report with
      plugins := preset.plugins.map fun row =>
        { pluginEntry row.plugin .cancelled with reason := some Reason.cancelled } }, progress)
  else
    let (plugins, progress) := applyPlugins request [] progress preset.plugins recordable
    return ({ report with plugins }, progress)

end Apply

end SitePresets
