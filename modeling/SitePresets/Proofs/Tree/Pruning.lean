import Mathlib.Data.List.Basic
import SitePresets.SettingsTree

/-!
# Pruned trees

The tree of settings is built in one pass, which leaves out the branches without a setting. It is what
two passes come to: the first copies the declared structure with all of its branches, and the second
drops the empty ones from the bottom up, so that a branch goes when all below it has gone. The nodes
that are then below the root become the top, and lose their parent.
-/

namespace SitePresets

/-- The settings of a snapshot that are declared in a list, in its order. -/
def Snapshot.pick (snapshot : Snapshot) (declarations : List Declaration) : List Descriptor :=
  declarations.filterMap fun declared => snapshot.get? declared.key

namespace TreeNode

mutual

/-- The declared structure at and below a node with the settings of a snapshot, empty branches
included. -/
def copy? (snapshot : Snapshot) (parent : Option String) : Node → Option TreeNode
  | .category name visibleName children =>
    some (branch .category name (Declaration.firstOf [some visibleName] name) parent
      (copies snapshot (some name) children))
  | .page name visibleName settings =>
    some (branch .page name (Declaration.firstOf [some visibleName] name) parent
      (leavesOf snapshot (some name) settings))
  | .setting _ => none
  | .malformed => none

def copies (snapshot : Snapshot) (parent : Option String) : List Node → List TreeNode
  | [] => []
  | node :: rest => (copy? snapshot parent node).toList ++ copies snapshot parent rest

end

/-- Whether nothing is left here: a branch with nothing below it. -/
def isBare : TreeNode → Bool
  | branch _ _ _ _ children => children.isEmpty
  | leaf .. => false

mutual

def prune : TreeNode → TreeNode
  | branch kind id label parent children => branch kind id label parent (pruneAll children)
  | leaf setting parent => leaf setting parent

/-- Prunes each node, and drops it if nothing is left of it then. -/
def pruneAll : List TreeNode → List TreeNode
  | [] => []
  | node :: rest => if node.prune.isBare then pruneAll rest else node.prune :: pruneAll rest

end

def children : TreeNode → List TreeNode
  | branch _ _ _ _ children => children
  | leaf .. => []

/-- The node as one at the top. -/
def atTop : TreeNode → TreeNode
  | branch kind id label _ children => branch kind id label none children
  | leaf setting _ => leaf setting none

variable {snapshot : Snapshot}

theorem leavesOf_eq_map (parent : Option String) (settings : List Node) :
    leavesOf snapshot parent settings =
      (snapshot.pick (settings.filterMap Node.declared?)).map fun setting => leaf setting parent := by
  unfold leavesOf Snapshot.pick
  rw [List.filterMap_filterMap, List.map_filterMap]
  refine List.filterMap_congr fun node _ => ?_
  cases node.declared? with
  | none => rfl
  | some declared =>
    show (snapshot.get? declared.key).bind _ = (snapshot.get? declared.key).map _
    cases snapshot.get? declared.key <;> rfl

/-- Leaves are never dropped. -/
theorem pruneAll_map_leaf (parent : Option String) (settings : List Descriptor) :
    pruneAll (settings.map fun setting => leaf setting parent) =
      settings.map fun setting => leaf setting parent := by
  induction settings with
  | nil => rfl
  | cons setting rest ih =>
    rw [List.map_cons, pruneAll, ih]
    rfl

/-- A branch of the one pass is a pruned branch that is not bare. -/
theorem branch?_eq (kind : BranchKind) (name visibleName : String) (parent : Option String)
    (children : List TreeNode) :
    branch? kind name visibleName parent (pruneAll children) =
      (some (branch kind name (Declaration.firstOf [some visibleName] name) parent
        children).prune).filter fun node => !node.isBare := by
  rw [prune, Option.filter_some]
  unfold branch?
  cases pruneAll children <;> rfl

theorem ofNodes_eq_pruneAll : ∀ (nodes : List Node) (parent : Option String),
    ofNodes snapshot parent nodes = pruneAll (copies snapshot parent nodes)
  | [], _ => rfl
  | node :: rest, parent => by
    rw [ofNodes, copies, ofNode?_eq_prune node parent, ofNodes_eq_pruneAll rest parent]
    cases copy? snapshot parent node with
    | none => rfl
    | some top =>
      show _ = pruneAll (top :: copies snapshot parent rest)
      rw [pruneAll, Option.map_some, Option.filter_some]
      cases top.prune.isBare <;> rfl
where
  ofNode?_eq_prune : ∀ (node : Node) (parent : Option String),
      ofNode? snapshot parent node =
        ((copy? snapshot parent node).map prune).filter fun node => !node.isBare
    | .category name visibleName children, parent => by
      rw [ofNode?, copy?, ofNodes_eq_pruneAll children, branch?_eq, Option.map_some]
    | .page name visibleName settings, parent => by
      rw [ofNode?, copy?, leavesOf_eq_map, ← pruneAll_map_leaf, branch?_eq, pruneAll_map_leaf,
        Option.map_some]
    | .setting _, _ => by rw [ofNode?, copy?]; rfl
    | .malformed, _ => by rw [ofNode?, copy?]; rfl

/-- A node says who its parent is, and else nothing depends on that. -/
theorem map_atTop_ofNodes (parent : Option String) : ∀ nodes : List Node,
    (ofNodes snapshot parent nodes).map atTop = ofNodes snapshot none nodes
  | [] => rfl
  | node :: rest => by
    have hnode : (ofNode? snapshot parent node).map atTop = ofNode? snapshot none node := by
      cases node with
      | category name visibleName children =>
        rw [ofNode?, ofNode?]
        unfold branch?
        split <;> rfl
      | page name visibleName settings =>
        rw [ofNode?, ofNode?]
        unfold branch?
        split <;> rfl
      | setting declared => rfl
      | malformed => rfl
    rw [ofNodes, ofNodes, ← hnode, ← map_atTop_ofNodes parent rest]
    cases ofNode? snapshot parent node <;> rfl

/-- The tree is the pruned copy of the declared tree without its root. -/
theorem build_eq_prune (root : Node) (snapshot : Snapshot) :
    build root snapshot =
      (copy? snapshot none root).elim [] fun top => top.prune.children.map atTop := by
  cases root with
  | category name visibleName children =>
    show ofNodes snapshot none children = (pruneAll (copies snapshot (some name) children)).map atTop
    rw [← ofNodes_eq_pruneAll, map_atTop_ofNodes]
  | page name visibleName settings =>
    show leavesOf snapshot none settings = (pruneAll (leavesOf snapshot (some name) settings)).map atTop
    rw [leavesOf_eq_map, leavesOf_eq_map, pruneAll_map_leaf, List.map_map]
    rfl
  | setting declared => rfl
  | malformed => rfl

end TreeNode

end SitePresets
