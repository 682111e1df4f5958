import SitePresets.Descriptor.Kind
import SitePresets.Document
import SitePresets.Store.Change

/-!
# Reports

Reports of what happened to the settings and plugins of a preset: one entry for each, filed under its
status.
-/

namespace SitePresets

inductive Status where
  | applied
  | unchanged
  | excluded
  | notApplicable
  | failed
  | restored
  | diverged
  | cancelled
  deriving DecidableEq, Repr

namespace Status

def all : List Status :=
  [applied, unchanged, excluded, notApplicable, failed, restored, diverged, cancelled]

def text : Status → String
  | applied => "applied"
  | unchanged => "unchanged"
  | excluded => "excluded"
  | notApplicable => "not_applicable"
  | failed => "failed"
  | restored => "restored"
  | diverged => "diverged"
  | cancelled => "cancelled"

def ofText? (s : String) : Option Status :=
  all.find? fun status => status.text = s

def ofValue (value : Value) : Except Value.Fault Status := do
  match ofText? (← value.asText) with
  | some status => return status
  | none => throw .noMember

@[simp]
theorem mem_all (status : Status) : status ∈ all := by
  cases status <;> simp [all]

end Status

inductive Subject where
  | setting
  | facet
  | plugin
  | other (name : String)
  deriving DecidableEq, Repr

namespace Subject

def text : Subject → String
  | setting => "setting"
  | facet => "facet"
  | plugin => "plugin"
  | other name => name

def ofText (s : String) : Subject :=
  if s = "setting" then setting
  else if s = "facet" then facet
  else if s = "plugin" then plugin
  else other s

@[simp]
theorem text_ofText (s : String) : (ofText s).text = s := by
  unfold ofText
  split
  · simp_all [text]
  · split
    · simp_all [text]
    · split <;> simp_all [text]

end Subject

/-! Reasons that entries give for their status. -/

namespace Reason

def unchanged : String := "unchanged"
def excluded : String := "excluded-sensitive"
def notApplicable : String := "not-applicable"
def invalidValue : String := "invalid value"
def cancelled : String := "cancelled"
def diverged : String := "live value changed since the preset was applied"
def missingLog : String := "config log entry missing"

def writeFailed (refusal : Refusal) : String :=
  "write failed: " ++ refusal.quoted

def facetWriteFailed (facet : Facet) (refusal : Refusal) : String :=
  "write of " ++ facet.name ++ " failed: " ++ refusal.quoted

end Reason

/-- The change of a facet within an entry, and its number in the log. -/
structure FacetChange where
  old : Option String := none
  new : Option String := none
  logId : Option Int := none
  deriving DecidableEq, Repr

structure Entry where
  subject : Subject := .setting
  key : Key
  status : Status
  reason : Option String := none
  visibleName : Option String := none
  old : Option String := none
  new : Option String := none
  logId : Option Int := none
  facet : Option String := none
  facets : List (String × FacetChange) := []
  deriving DecidableEq, Repr

namespace FacetChange

def ofValue (value : Value) : Except Value.Fault FacetChange := do
  let optional := Value.asOptional Value.asText
  return {
    old := ← value.fieldOr "old_value" none optional
    new := ← value.fieldOr "new_value" none optional
    logId := ← value.fieldOr "configlog_id" none (Value.asOptional Value.asInteger) }

def toValue (change : FacetChange) : Value :=
  .record [
    ("old_value", .ofText? change.old),
    ("new_value", .ofText? change.new),
    ("configlog_id", .ofInteger? change.logId)]

end FacetChange

namespace Entry

def ofValue (value : Value) : Except Value.Fault Entry := do
  let optional := Value.asOptional Value.asText
  let subject ← value.fieldOr "kind" Subject.setting.text Value.asText
  let scope ← value.require "scope" Value.asText
  let name ← value.require "name" Value.asText
  return {
    subject := .ofText subject
    key := ⟨scope, name⟩
    status := ← value.require "status" Status.ofValue
    reason := ← value.fieldOr "reason" none optional
    visibleName := ← value.fieldOr "visible_name" none optional
    old := ← value.fieldOr "old_value" none optional
    new := ← value.fieldOr "new_value" none optional
    logId := ← value.fieldOr "configlog_id" none (Value.asOptional Value.asInteger)
    facet := ← value.fieldOr "facet" none optional
    facets := ← value.fieldOr "facets" [] (Value.asMap (Document.asModel FacetChange.ofValue)) }

def toValue (entry : Entry) : Value :=
  .record [
    ("kind", .text entry.subject.text),
    ("scope", .text entry.key.scope),
    ("name", .text entry.key.name),
    ("status", .text entry.status.text),
    ("reason", .ofText? entry.reason),
    ("visible_name", .ofText? entry.visibleName),
    ("old_value", .ofText? entry.old),
    ("new_value", .ofText? entry.new),
    ("configlog_id", .ofInteger? entry.logId),
    ("facet", .ofText? entry.facet),
    ("facets", .record (entry.facets.map fun (name, change) => (name, change.toValue)))]

end Entry

structure ApplyReport where
  presetId : Int
  applicationId : Option Nat := none
  simulated : Bool := false
  cancelled : Bool := false
  applied : List Entry := []
  skipped : List Entry := []
  notApplicable : List Entry := []
  failed : List Entry := []
  plugins : List Entry := []
  deriving DecidableEq, Repr

namespace ApplyReport

def add (report : ApplyReport) (entry : Entry) : ApplyReport :=
  match entry.status with
  | .applied => { report with applied := report.applied ++ [entry] }
  | .notApplicable => { report with notApplicable := report.notApplicable ++ [entry] }
  | .failed => { report with failed := report.failed ++ [entry] }
  | _ => { report with skipped := report.skipped ++ [entry] }

def entries (report : ApplyReport) : List Entry :=
  report.applied ++ report.skipped ++ report.notApplicable ++ report.failed

def changed (report : ApplyReport) : Bool :=
  !report.applied.isEmpty || report.plugins.any fun entry => entry.status = .applied

def toValue (report : ApplyReport) : Value :=
  .record [
    ("preset_id", .integer report.presetId),
    ("application_id", .ofInteger? (report.applicationId.map Int.ofNat)),
    ("simulated", .flag report.simulated),
    ("cancelled", .flag report.cancelled),
    ("applied", .list (report.applied.map Entry.toValue)),
    ("skipped", .list (report.skipped.map Entry.toValue)),
    ("not_applicable", .list (report.notApplicable.map Entry.toValue)),
    ("failed", .list (report.failed.map Entry.toValue)),
    ("plugins", .list (report.plugins.map Entry.toValue))]

theorem entries_add (report : ApplyReport) (entry : Entry) :
    (report.add entry).entries.Perm (entry :: report.entries) := by
  have middle (before after : List Entry) :
      (before ++ [entry] ++ after).Perm (entry :: (before ++ after)) := by
    simp
  unfold add entries
  split
  · simp
  · simpa using middle (report.applied ++ report.skipped ++ report.notApplicable) report.failed
  · simpa using
      middle (report.applied ++ report.skipped ++ report.notApplicable ++ report.failed) []
  · simpa using middle (report.applied ++ report.skipped) (report.notApplicable ++ report.failed)

end ApplyReport

structure RollbackReport where
  applicationId : Nat
  presetId : Nat
  cancelled : Bool := false
  applicationDeleted : Bool := false
  restored : List Entry := []
  failed : List Entry := []
  skipped : List Entry := []
  deriving DecidableEq, Repr

namespace RollbackReport

def toValue (report : RollbackReport) : Value :=
  .record [
    ("application_id", .ofNat report.applicationId),
    ("preset_id", .ofNat report.presetId),
    ("cancelled", .flag report.cancelled),
    ("application_deleted", .flag report.applicationDeleted),
    ("restored", .list (report.restored.map Entry.toValue)),
    ("failed", .list (report.failed.map Entry.toValue)),
    ("skipped", .list (report.skipped.map Entry.toValue))]

end RollbackReport

end SitePresets
