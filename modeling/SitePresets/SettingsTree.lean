import SitePresets.Snapshot

/-!
# The tree of settings

The tree of settings that people choose from: the declared tree cut down to the settings of a
snapshot. Categories and pages without a setting below them are left out.
-/

namespace SitePresets

inductive BranchKind where
  | category
  | page
  deriving DecidableEq, Repr

def BranchKind.name : BranchKind → String
  | category => "category"
  | page => "page"

inductive TreeNode where
  | branch (kind : BranchKind) (id label : String) (parent : Option String)
      (children : List TreeNode)
  | leaf (setting : Descriptor) (parent : Option String)

namespace TreeNode

def leavesOf (snapshot : Snapshot) (parent : Option String) (settings : List Node) :
    List TreeNode :=
  settings.filterMap fun node => do
    let declared ← node.declared?
    let setting ← snapshot.get? declared.key
    return leaf setting parent

/-- A branch, unless nothing is below it. -/
def branch? (kind : BranchKind) (name visibleName : String) (parent : Option String)
    (children : List TreeNode) : Option TreeNode :=
  if children.isEmpty then none
  else some (branch kind name (Declaration.firstOf [some visibleName] name) parent children)

mutual

def ofNode? (snapshot : Snapshot) (parent : Option String) : Node → Option TreeNode
  | .category name visibleName children =>
    branch? .category name visibleName parent (ofNodes snapshot (some name) children)
  | .page name visibleName settings =>
    branch? .page name visibleName parent (leavesOf snapshot (some name) settings)
  | .setting _ => none
  | .malformed => none

def ofNodes (snapshot : Snapshot) (parent : Option String) : List Node → List TreeNode
  | [] => []
  | node :: rest =>
    match ofNode? snapshot parent node with
    | some built => built :: ofNodes snapshot parent rest
    | none => ofNodes snapshot parent rest

end

/-- The nodes at the top: what is left below the root, which itself is not shown. -/
def build (root : Node) (snapshot : Snapshot) : List TreeNode :=
  match root with
  | .category _ _ children => ofNodes snapshot none children
  | .page _ _ settings => leavesOf snapshot none settings
  | _ => []

def id : TreeNode → String
  | branch _ id _ _ _ => id
  | leaf setting _ => setting.key.text

def label : TreeNode → String
  | branch _ _ label _ _ => label
  | leaf setting _ => setting.declared.label

def description : TreeNode → String
  | branch .. => ""
  | leaf setting _ => setting.declared.description

def parent : TreeNode → Option String
  | branch _ _ _ parent _ => parent
  | leaf _ parent => parent

/-- What the flat view shows: the value of a setting, the label of everything else. -/
def shown : TreeNode → String
  | branch _ _ label _ _ => label
  | leaf setting _ => setting.display

mutual

/-- A node and what is below it, the node first. -/
def preorder : TreeNode → List TreeNode
  | branch kind id label parent children =>
    branch kind id label parent children :: preorderOf children
  | leaf setting parent => [leaf setting parent]

def preorderOf : List TreeNode → List TreeNode
  | [] => []
  | node :: rest => node.preorder ++ preorderOf rest

/-- The settings below a node, in order. -/
def leaves : TreeNode → List Descriptor
  | branch _ _ _ _ children => leavesBelow children
  | leaf setting _ => [setting]

def leavesBelow : List TreeNode → List Descriptor
  | [] => []
  | node :: rest => node.leaves ++ leavesBelow rest

def count : TreeNode → Nat
  | branch _ _ _ _ children => countOf children
  | leaf _ _ => 1

def countOf : List TreeNode → Nat
  | [] => 0
  | node :: rest => node.count + countOf rest

def toValue : TreeNode → Value
  | branch kind id label parent children =>
    .record [
      ("id", .text id), ("kind", .text kind.name), ("label", .text label), ("description", .text ""),
      ("parent", .ofText? parent), ("value", .null), ("visible_value", .null),
      ("children", .list (toValues children))]
  | leaf setting parent =>
    .record [
      ("id", .text setting.key.text), ("kind", .text "setting"),
      ("label", .text setting.declared.label), ("description", .text setting.declared.description),
      ("parent", .ofText? parent), ("value", .ofText? setting.value),
      ("visible_value", .text setting.display), ("children", .list [])]

def toValues : List TreeNode → List Value
  | [] => []
  | node :: rest => node.toValue :: toValues rest

end

theorem countOf_eq_length : ∀ nodes : List TreeNode, countOf nodes = (leavesBelow nodes).length
  | [] => rfl
  | node :: rest => by
    have := count_eq_length node
    simp [countOf, leavesBelow, countOf_eq_length rest, this]
where
  count_eq_length : ∀ node : TreeNode, node.count = node.leaves.length
  | branch _ _ _ _ children => by
    simpa [count, leaves] using countOf_eq_length children
  | leaf _ _ => rfl

end TreeNode

/-- The tree as parallel lists, each node before what is below it. -/
structure FlatTree where
  ids : List String
  nodes : List String
  labels : List String
  descriptions : List String
  parents : List (Option String)
  deriving DecidableEq, Repr

namespace FlatTree

def ofNodes (nodes : List TreeNode) : FlatTree :=
  let all := TreeNode.preorderOf nodes
  { ids := all.map TreeNode.id
    nodes := all.map TreeNode.shown
    labels := all.map TreeNode.label
    descriptions := all.map TreeNode.description
    parents := all.map TreeNode.parent }

def toValue (flat : FlatTree) : Value :=
  .record [
    ("ids", .texts flat.ids), ("nodes", .texts flat.nodes), ("labels", .texts flat.labels),
    ("descriptions", .texts flat.descriptions),
    ("parents", .list (flat.parents.map Value.ofText?))]

end FlatTree

end SitePresets
