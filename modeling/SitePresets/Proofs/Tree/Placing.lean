import Mathlib.Data.List.Forall2
import SitePresets.Proofs.Tree.Pruning

/-!
# Places in the tree of settings

A node stands in its place: below a chain of branches, from the top. What is declared in a place is shown
there if it is a setting of the snapshot or has one below it, and nothing else is shown; so the tree of
settings is the declared tree, cut down to the settings of the snapshot.
-/

namespace SitePresets

/-- What a category or page is called and shown as. -/
structure Branch where
  kind : BranchKind
  name : String
  label : String
  deriving DecidableEq, Repr

def Branch.ofDeclared (kind : BranchKind) (name visibleName : String) : Branch :=
  ⟨kind, name, Declaration.firstOf [some visibleName] name⟩

/-- A node and the branches that it stands below, from the top. -/
structure Placed (α : Type) where
  chain : List Branch
  node : α

theorem Snapshot.pick_isEmpty (snapshot : Snapshot) (declarations : List Declaration) :
    (snapshot.pick declarations).isEmpty =
      !declarations.any fun declared => snapshot.contains declared.key := by
  induction declarations with
  | nil => rfl
  | cons declared rest ih =>
    unfold pick Table.contains at *
    rw [List.filterMap_cons, List.any_cons]
    cases snapshot.get? declared.key with
    | none => exact ih
    | some setting => rfl

/-! ### Declared nodes in their places -/

namespace Node

def declarationsOf (nodes : List Node) : List Declaration :=
  (pagesOf nodes).flatMap fun page => page.settings.filterMap declared?

def placedSettings (chain : List Branch) (settings : List Node) : List (Placed Node) :=
  (settings.filterMap declared?).map fun declared => ⟨chain, setting declared⟩

mutual

/-- What is well placed at and below a node: categories and pages below categories only, and settings on
such pages. Each node comes before what is below it. -/
def placed (chain : List Branch) : Node → List (Placed Node)
  | category name visibleName children =>
    ⟨chain, category name visibleName children⟩ ::
      placedOf (chain ++ [.ofDeclared .category name visibleName]) children
  | page name visibleName settings =>
    ⟨chain, page name visibleName settings⟩ ::
      placedSettings (chain ++ [.ofDeclared .page name visibleName]) settings
  | setting _ => []
  | malformed => []

def placedOf (chain : List Branch) : List Node → List (Placed Node)
  | [] => []
  | node :: rest => node.placed chain ++ placedOf chain rest

end

/-- What is well placed below a root, which itself is in no chain. -/
def placedBelow : Node → List (Placed Node)
  | category _ _ children => placedOf [] children
  | page _ _ settings => placedSettings [] settings
  | setting _ => []
  | malformed => []

/-- The settings at and below a node that is well placed. -/
def settings : Node → List Declaration
  | setting declared => [declared]
  | node => node.declarations

/-- Whether a snapshot has a setting that is at or below a node. -/
def isPresent (snapshot : Snapshot) (node : Node) : Bool :=
  node.settings.any fun declared => snapshot.contains declared.key

theorem declarations_page (name visibleName : String) (settings : List Node) :
    (page name visibleName settings).declarations = settings.filterMap declared? :=
  List.append_nil _

theorem settings_page (name visibleName : String) (settings : List Node) :
    (page name visibleName settings).settings = settings.filterMap declared? :=
  declarations_page name visibleName settings

theorem declarationsOf_cons (node : Node) (rest : List Node) :
    declarationsOf (node :: rest) = node.declarations ++ declarationsOf rest := by
  unfold declarationsOf
  rw [pagesOf, List.flatMap_append]
  rfl

end Node

/-! ### Nodes of the tree in their places -/

namespace TreeNode

mutual

def placed (chain : List Branch) : TreeNode → List (Placed TreeNode)
  | branch kind id label parent children =>
    ⟨chain, branch kind id label parent children⟩ :: placedOf (chain ++ [⟨kind, id, label⟩]) children
  | leaf setting parent => [⟨chain, leaf setting parent⟩]

/-- All nodes in their places, each before what is below it. -/
def placedOf (chain : List Branch) : List TreeNode → List (Placed TreeNode)
  | [] => []
  | node :: rest => node.placed chain ++ placedOf chain rest

end

theorem map_node_placedOf (chain : List Branch) : ∀ nodes : List TreeNode,
    (placedOf chain nodes).map Placed.node = preorderOf nodes
  | [] => rfl
  | node :: rest => by
    rw [placedOf, List.map_append, map_node_placed chain node, map_node_placedOf chain rest, preorderOf]
where
  map_node_placed (chain : List Branch) : ∀ node : TreeNode,
      (node.placed chain).map Placed.node = node.preorder
    | branch kind id label parent children => by
      rw [placed, List.map_cons, map_node_placedOf _ children, preorder]
    | leaf setting parent => rfl

variable {snapshot : Snapshot}

theorem ofNodes_cons (parent : Option String) (node : Node) (rest : List Node) :
    ofNodes snapshot parent (node :: rest) =
      (ofNode? snapshot parent node).toList ++ ofNodes snapshot parent rest := by
  rw [ofNodes]
  cases ofNode? snapshot parent node <;> rfl

theorem leavesBelow_append (nodes more : List TreeNode) :
    leavesBelow (nodes ++ more) = leavesBelow nodes ++ leavesBelow more := by
  induction nodes with
  | nil => rfl
  | cons node rest ih => rw [List.cons_append, leavesBelow, leavesBelow, ih, List.append_assoc]

theorem preorderOf_append (nodes more : List TreeNode) :
    preorderOf (nodes ++ more) = preorderOf nodes ++ preorderOf more := by
  induction nodes with
  | nil => rfl
  | cons node rest ih => rw [List.cons_append, preorderOf, preorderOf, ih, List.append_assoc]

theorem placedOf_append (chain : List Branch) (nodes more : List TreeNode) :
    placedOf chain (nodes ++ more) = placedOf chain nodes ++ placedOf chain more := by
  induction nodes with
  | nil => rfl
  | cons node rest ih => rw [List.cons_append, placedOf, placedOf, ih, List.append_assoc]

/-! ### Leaves -/

theorem leavesBelow_leavesOf (parent : Option String) (settings : List Node) :
    leavesBelow (leavesOf snapshot parent settings) =
      snapshot.pick (settings.filterMap Node.declared?) := by
  rw [leavesOf_eq_map]
  generalize snapshot.pick _ = shown
  induction shown with
  | nil => rfl
  | cons setting rest ih =>
    rw [List.map_cons, leavesBelow, ih]
    rfl

theorem leavesBelow_branch? (kind : BranchKind) (name visibleName : String) (parent : Option String)
    (children : List TreeNode) :
    leavesBelow (branch? kind name visibleName parent children).toList = leavesBelow children := by
  cases children with
  | nil => rfl
  | cons child rest => exact List.append_nil _

theorem leavesBelow_ofNodes (parent : Option String) : ∀ nodes : List Node,
    leavesBelow (ofNodes snapshot parent nodes) = snapshot.pick (Node.declarationsOf nodes)
  | [] => rfl
  | node :: rest => by
    rw [ofNodes_cons, leavesBelow_append, leavesBelow_ofNode? parent node,
      leavesBelow_ofNodes parent rest, Node.declarationsOf_cons]
    exact List.filterMap_append.symm
where
  leavesBelow_ofNode? (parent : Option String) : ∀ node : Node,
      leavesBelow (ofNode? snapshot parent node).toList = snapshot.pick node.declarations
    | .category name visibleName children => by
      rw [ofNode?, leavesBelow_branch?, leavesBelow_ofNodes _ children]
      rfl
    | .page name visibleName settings => by
      rw [ofNode?, leavesBelow_branch?, leavesBelow_leavesOf, Node.declarations_page]
    | .setting _ => rfl
    | .malformed => rfl

theorem leavesBelow_build (root : Node) (snapshot : Snapshot) :
    leavesBelow (build root snapshot) = snapshot.pick root.declarations := by
  cases root with
  | category name visibleName children => exact leavesBelow_ofNodes none children
  | page name visibleName settings =>
    rw [Node.declarations_page]
    exact leavesBelow_leavesOf none settings
  | setting declared => rfl
  | malformed => rfl

/-! ### Parents -/

/-- Nodes below a parent, of whom each says who its parent is, and none is without a setting. -/
structure Hangs (parent : Option String) (nodes : List TreeNode) : Prop where
  parent_eq : ∀ node ∈ nodes, node.parent = parent
  parent_below : ∀ node ∈ preorderOf nodes, ∀ child ∈ node.children, child.parent = some node.id
  leaves_ne_nil : ∀ node ∈ preorderOf nodes, node.leaves ≠ []

namespace Hangs

variable {parent : Option String} {nodes more : List TreeNode}

theorem append (h : Hangs parent nodes) (hmore : Hangs parent more) : Hangs parent (nodes ++ more) where
  parent_eq node hnode := (List.mem_append.1 hnode).elim (h.parent_eq node) (hmore.parent_eq node)
  parent_below node hnode := by
    rw [preorderOf_append] at hnode
    exact (List.mem_append.1 hnode).elim (h.parent_below node) (hmore.parent_below node)
  leaves_ne_nil node hnode := by
    rw [preorderOf_append] at hnode
    exact (List.mem_append.1 hnode).elim (h.leaves_ne_nil node) (hmore.leaves_ne_nil node)

theorem nil (parent : Option String) : Hangs parent [] where
  parent_eq _ hnode := nomatch hnode
  parent_below _ hnode := nomatch hnode
  leaves_ne_nil _ hnode := nomatch hnode

theorem leavesBelow_ne_nil (h : Hangs parent nodes) (hnodes : nodes ≠ []) : leavesBelow nodes ≠ [] := by
  cases nodes with
  | nil => exact absurd rfl hnodes
  | cons node rest =>
    have hnode : node ∈ preorderOf (node :: rest) := by
      rw [preorderOf]
      cases node <;> exact List.mem_cons_self
    rw [leavesBelow]
    exact List.append_ne_nil_of_left_ne_nil (h.leaves_ne_nil node hnode) _

theorem branch? (kind : BranchKind) (name visibleName : String) (parent : Option String)
    (h : Hangs (some name) nodes) :
    Hangs parent (TreeNode.branch? kind name visibleName parent nodes).toList := by
  unfold TreeNode.branch?
  split
  · exact nil parent
  · rename_i hnodes
    have hleaves := h.leavesBelow_ne_nil fun hnil => hnodes (hnil ▸ rfl)
    refine ⟨fun node hnode => ?_, fun node hnode => ?_, fun node hnode => ?_⟩
    · rw [List.mem_singleton.1 hnode]
      rfl
    all_goals
      have hnode : node ∈ TreeNode.branch kind name _ parent nodes :: (preorderOf nodes ++ []) := hnode
      rw [List.append_nil] at hnode
      rcases List.mem_cons.1 hnode with rfl | hnode
    · exact h.parent_eq
    · exact h.parent_below node hnode
    · exact hleaves
    · exact h.leaves_ne_nil node hnode

theorem leavesOf (snapshot : Snapshot) (parent : Option String) (settings : List Node) :
    Hangs parent (TreeNode.leavesOf snapshot parent settings) := by
  rw [leavesOf_eq_map]
  generalize snapshot.pick _ = shown
  induction shown with
  | nil => exact nil parent
  | cons setting rest ih =>
    have hleaf : Hangs parent [leaf setting parent] := by
      refine ⟨fun node hnode => ?_, fun node hnode => ?_, fun node hnode => ?_⟩
      all_goals
        obtain rfl := List.mem_singleton.1 hnode
      · rfl
      · intro child hchild
        cases hchild
      · exact List.cons_ne_nil _ _
    exact hleaf.append ih

end Hangs

theorem hangs_ofNodes : ∀ (nodes : List Node) (parent : Option String),
    Hangs parent (ofNodes snapshot parent nodes)
  | [], parent => .nil parent
  | node :: rest, parent => by
    rw [ofNodes_cons]
    exact (hangs_ofNode? node parent).append (hangs_ofNodes rest parent)
where
  hangs_ofNode? : ∀ (node : Node) (parent : Option String),
      Hangs parent (ofNode? snapshot parent node).toList
    | .category name visibleName children, parent => by
      rw [ofNode?]
      exact .branch? .category name visibleName parent (hangs_ofNodes children (some name))
    | .page name visibleName settings, parent => by
      rw [ofNode?]
      exact .branch? .page name visibleName parent (.leavesOf snapshot (some name) settings)
    | .setting _, parent => .nil parent
    | .malformed, parent => .nil parent

theorem hangs_build (root : Node) (snapshot : Snapshot) : Hangs none (build root snapshot) := by
  cases root with
  | category name visibleName children => exact hangs_ofNodes children none
  | page name visibleName settings => exact .leavesOf snapshot none settings
  | setting declared => exact .nil none
  | malformed => exact .nil none

/-! ### What is shown where -/

/-- A node of the tree that shows a declared node, in the same place. -/
inductive Shows (snapshot : Snapshot) : Placed Node → Placed TreeNode → Prop
  | category (chain : List Branch) (name visibleName : String) (declared : List Node)
      (parent : Option String) (children : List TreeNode) :
      Shows snapshot ⟨chain, .category name visibleName declared⟩
        ⟨chain, branch .category name (Declaration.firstOf [some visibleName] name) parent children⟩
  | page (chain : List Branch) (name visibleName : String) (declared : List Node)
      (parent : Option String) (children : List TreeNode) :
      Shows snapshot ⟨chain, .page name visibleName declared⟩
        ⟨chain, branch .page name (Declaration.firstOf [some visibleName] name) parent children⟩
  | setting (chain : List Branch) {declared : Declaration} {live : Descriptor}
      (parent : Option String) (hlive : snapshot.get? declared.key = some live) :
      Shows snapshot ⟨chain, .setting declared⟩ ⟨chain, leaf live parent⟩

theorem shows_leavesOf (chain : List Branch) (parent : Option String) (settings : List Node) :
    List.Forall₂ (Shows snapshot)
      ((Node.placedSettings chain settings).filter fun row => row.node.isPresent snapshot)
      (placedOf chain (leavesOf snapshot parent settings)) := by
  rw [leavesOf_eq_map]
  unfold Node.placedSettings
  induction settings.filterMap Node.declared? with
  | nil => exact .nil
  | cons declared rest ih =>
    have hpresent : (Node.setting declared).isPresent snapshot = (snapshot.get? declared.key).isSome :=
      Bool.or_false _
    unfold Snapshot.pick at *
    rw [List.map_cons, List.filter_cons, hpresent, List.filterMap_cons]
    cases hlive : snapshot.get? declared.key with
    | none => exact ih
    | some live => exact .cons (.setting chain parent hlive) ih

/-- A branch is shown if anything is below it, and then so is what is below it. -/
theorem shows_branch? {kind : BranchKind} {name visibleName : String} {chain : List Branch}
    {node : Node} {below : List (Placed Node)} {children : List TreeNode} (parent : Option String)
    (hshows : Shows snapshot ⟨chain, node⟩
      ⟨chain, branch kind name (Declaration.firstOf [some visibleName] name) parent children⟩)
    (hhangs : Hangs (some name) children)
    (hleaves : leavesBelow children = snapshot.pick node.settings)
    (hbelow : List.Forall₂ (Shows snapshot) (below.filter fun row => row.node.isPresent snapshot)
      (placedOf (chain ++ [.ofDeclared kind name visibleName]) children)) :
    List.Forall₂ (Shows snapshot)
      ((⟨chain, node⟩ :: below).filter fun row => row.node.isPresent snapshot)
      (placedOf chain (branch? kind name visibleName parent children).toList) := by
  have hpresent : node.isPresent snapshot = !(leavesBelow children).isEmpty := by
    rw [hleaves, Snapshot.pick_isEmpty, Bool.not_not]
    rfl
  rw [List.filter_cons, hpresent]
  cases children with
  | nil => exact hbelow
  | cons child rest =>
    have hne := hhangs.leavesBelow_ne_nil (List.cons_ne_nil child rest)
    rw [List.isEmpty_eq_false_iff.2 hne]
    show List.Forall₂ _ _ (_ :: (_ ++ []))
    rw [List.append_nil]
    exact .cons hshows hbelow

theorem shows_ofNodes : ∀ (nodes : List Node) (chain : List Branch) (parent : Option String),
    List.Forall₂ (Shows snapshot)
      ((Node.placedOf chain nodes).filter fun row => row.node.isPresent snapshot)
      (placedOf chain (ofNodes snapshot parent nodes))
  | [], _, _ => .nil
  | node :: rest, chain, parent => by
    rw [Node.placedOf, List.filter_append, ofNodes_cons, placedOf_append]
    exact List.rel_append (shows_ofNode? node chain parent) (shows_ofNodes rest chain parent)
where
  shows_ofNode? : ∀ (node : Node) (chain : List Branch) (parent : Option String),
      List.Forall₂ (Shows snapshot)
        ((node.placed chain).filter fun row => row.node.isPresent snapshot)
        (placedOf chain (ofNode? snapshot parent node).toList)
    | .category name visibleName children, chain, parent => by
      rw [Node.placed, ofNode?]
      exact shows_branch? parent (.category chain name visibleName children parent _)
        (hangs_ofNodes children (some name)) (leavesBelow_ofNodes (some name) children)
        (shows_ofNodes children _ (some name))
    | .page name visibleName settings, chain, parent => by
      rw [Node.placed, ofNode?]
      refine shows_branch? parent (.page chain name visibleName settings parent _)
        (.leavesOf snapshot (some name) settings) ?_ (shows_leavesOf _ (some name) settings)
      rw [leavesBelow_leavesOf, Node.settings_page]
    | .setting _, _, _ => .nil
    | .malformed, _, _ => .nil

theorem shows_build (root : Node) (snapshot : Snapshot) :
    List.Forall₂ (Shows snapshot)
      (root.placedBelow.filter fun row => row.node.isPresent snapshot)
      (placedOf [] (build root snapshot)) := by
  cases root with
  | category name visibleName children => exact shows_ofNodes children [] none
  | page name visibleName settings => exact shows_leavesOf [] none settings
  | setting declared => exact .nil
  | malformed => exact .nil

/-- A tree that is a declared tree cut down to the settings of a snapshot. -/
structure CutsDown (root : Node) (snapshot : Snapshot) (nodes : List TreeNode) : Prop where
  /-- From left to right the leaves are the settings that are declared on pages and that the snapshot has,
  in declared order. -/
  leaves_eq : leavesBelow nodes = snapshot.pick root.declarations
  /-- Of what is well placed below the root, the nodes of the tree show what is such a setting or has one
  below it, each in its place and in declared order. -/
  shows : List.Forall₂ (Shows snapshot)
    (root.placedBelow.filter fun row => row.node.isPresent snapshot) (placedOf [] nodes)
  node_eq : (placedOf [] nodes).map Placed.node = preorderOf nodes
  /-- A setting is at or below every node. -/
  leaves_ne_nil : ∀ node ∈ preorderOf nodes, node.leaves ≠ []
  /-- The nodes at the top have no parent, and of every other one the parent is the node that it is in. -/
  parent_top : ∀ node ∈ nodes, node.parent = none
  parent_below : ∀ node ∈ preorderOf nodes, ∀ child ∈ node.children, child.parent = some node.id
  count_eq : countOf nodes = (leavesBelow nodes).length

/-- The tree of settings is the declared tree without its root, cut down to the settings of a snapshot. Two
passes build it: a copy of what is declared, and then the pruning of empty branches. -/
theorem build_cutsDown (root : Node) (snapshot : Snapshot) :
    build root snapshot =
        ((copy? snapshot none root).elim [] fun top => top.prune.children.map atTop) ∧
      CutsDown root snapshot (build root snapshot) := by
  refine ⟨build_eq_prune root snapshot, ?_⟩
  have hhangs := hangs_build root snapshot
  exact {
    leaves_eq := leavesBelow_build root snapshot
    shows := shows_build root snapshot
    node_eq := map_node_placedOf [] _
    leaves_ne_nil := hhangs.leaves_ne_nil
    parent_top := hhangs.parent_eq
    parent_below := hhangs.parent_below
    count_eq := countOf_eq_length _ }

end TreeNode

end SitePresets
