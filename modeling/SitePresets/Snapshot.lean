import SitePresets.Document
import SitePresets.Grouping
import SitePresets.Site

/-!
# Snapshots

Snapshots: the available settings of a site, or those of a preset, with their values. Settings of
disabled plugins and settings without a name are left out, and of two declarations with one key the
first counts.
-/

namespace SitePresets

abbrev Snapshot := Table Key Descriptor

namespace Snapshot

def inOrder (snapshot : Snapshot) : List Descriptor :=
  Grouping.grouped (fun d => d.key.scope) (snapshot.rows.map Prod.snd)

/-- Adds a declared setting with its value, unless it is unavailable or already there. -/
def add (site : Site) (snapshot : Snapshot) (declared : Declaration) :
    Except Refusal Snapshot :=
  if declared.name = "" ∨ ¬ site.store.scopeAvailable declared.scope
      ∨ snapshot.contains declared.key then
    .ok snapshot
  else do
    let setting ← site.read declared
    return snapshot.put declared.key setting

def ofSite (site : Site) : Except Refusal Snapshot :=
  site.tree.declarations.foldlM (add site) .empty

/-- The settings of a preset with the values that it gives them. -/
def ofItems (live : Snapshot) (items : List Item) : Snapshot :=
  items.foldl (fun snapshot item =>
    match live.get? item.key with
    | some setting => snapshot.put item.key (setting.withStored item.value item.attributes)
    | none => snapshot) .empty

def unknown (live : Snapshot) (items : List Item) : List Item :=
  items.filter fun item => !live.contains item.key

end Snapshot

end SitePresets
