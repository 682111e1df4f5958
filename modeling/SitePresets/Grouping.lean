/-!
# Stable grouping

Stable grouping: the groups come in the order in which their keys come first, and each keeps the order
of its members.
-/

namespace SitePresets.Grouping

variable {α κ : Type} [DecidableEq κ]

/-- The keys in the order of their first members. -/
def keys (key : α → κ) (items : List α) : List κ :=
  (items.map key).eraseDups

def members (key : α → κ) (items : List α) (k : κ) : List α :=
  items.filter fun item => key item = k

def groups (key : α → κ) (items : List α) : List (κ × List α) :=
  (keys key items).map fun k => (k, members key items k)

def grouped (key : α → κ) (items : List α) : List α :=
  (keys key items).flatMap (members key items)

theorem mem_members {key : α → κ} {items : List α} {k : κ} {item : α} :
    item ∈ members key items k ↔ item ∈ items ∧ key item = k := by
  simp [members]

end SitePresets.Grouping
