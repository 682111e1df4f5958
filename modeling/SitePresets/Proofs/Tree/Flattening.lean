import SitePresets.Proofs.Service.Recording
import SitePresets.Proofs.Tree.Placing

/-!
# The flat view of a tree

The flat view lists the nodes of a tree of settings in order, each with the id of its parent. Nothing of the
structure is lost in it: as long as no two nodes have one id, the tree is grown again from the two lists, the
last node first.
-/

namespace SitePresets

/-- A tree of ids. -/
inductive Shape where
  | node (id : String) (below : List Shape)

namespace Shape

/-- Puts a node before trees that stand behind it. Those at the front that name it as their parent go below
it. -/
def hang (row : String × Option String) (grown : List (Option String × Shape)) :
    List (Option String × Shape) :=
  (row.2, node row.1 ((grown.takeWhile fun tree => tree.1 = some row.1).map Prod.snd)) ::
    grown.dropWhile fun tree => tree.1 = some row.1

/-- Grows trees from the ids of their nodes and of the parents of these. -/
def regrow (ids : List String) (parents : List (Option String)) : List Shape :=
  ((ids.zip parents).foldr hang []).map Prod.snd

/-- Of trees that name a node as their parent and others that do not, it takes the first below it. -/
theorem hang_append {id : String} (parent : Option String) {below later : List (Option String × Shape)}
    (hbelow : ∀ tree ∈ below, tree.1 = some id) (hlater : ∀ tree ∈ later, tree.1 ≠ some id) :
    hang (id, parent) (below ++ later) = (parent, node id (below.map Prod.snd)) :: later := by
  have hnone : later.takeWhile (fun tree => tree.1 = some id) = [] ∧
      later.dropWhile (fun tree => tree.1 = some id) = later := by
    cases later with
    | nil => exact ⟨rfl, rfl⟩
    | cons tree rest =>
      have htree : decide (tree.1 = some id) = false :=
        decide_eq_false (hlater tree List.mem_cons_self)
      rw [List.takeWhile_cons, List.dropWhile_cons, htree]
      exact ⟨rfl, rfl⟩
  have htest : ∀ tree ∈ below, decide (tree.1 = some id) = true := fun tree htree =>
    decide_eq_true (hbelow tree htree)
  unfold hang
  dsimp only
  rw [List.takeWhile_append_of_pos htest, List.dropWhile_append_of_pos htest, hnone.1, hnone.2,
    List.append_nil]

end Shape

namespace TreeNode

mutual

def shape : TreeNode → Shape
  | branch _ id _ _ children => .node id (shapes children)
  | leaf setting _ => .node setting.key.text []

def shapes : List TreeNode → List Shape
  | [] => []
  | node :: rest => node.shape :: shapes rest

/-- The number of nodes at and below a node. -/
def total : TreeNode → Nat
  | branch _ _ _ _ children => totalOf children + 1
  | leaf .. => 1

def totalOf : List TreeNode → Nat
  | [] => 0
  | node :: rest => node.total + totalOf rest

/-- The place of the node that each node is in, for a node at a place and what is below it. -/
def holders (holder : Option Nat) (place : Nat) : TreeNode → List (Option Nat)
  | branch _ _ _ _ children => holder :: holdersOf (some place) (place + 1) children
  | leaf .. => [holder]

def holdersOf (holder : Option Nat) (place : Nat) : List TreeNode → List (Option Nat)
  | [] => []
  | node :: rest => node.holders holder place ++ holdersOf holder (place + node.total) rest

end

theorem length_preorderOf : ∀ nodes : List TreeNode, (preorderOf nodes).length = totalOf nodes
  | [] => rfl
  | node :: rest => by
    rw [preorderOf, List.length_append, length_preorder node, length_preorderOf rest, totalOf]
where
  length_preorder : ∀ node : TreeNode, node.preorder.length = node.total
    | branch kind id label parent children => by
      rw [preorder, List.length_cons, length_preorderOf children, total]
    | leaf setting parent => rfl

namespace Hangs

variable {parent : Option String} {nodes more : List TreeNode}

theorem of_append (h : Hangs parent (nodes ++ more)) : Hangs parent nodes ∧ Hangs parent more := by
  have hbelow := h.parent_below
  have hleaves := h.leaves_ne_nil
  rw [preorderOf_append] at hbelow hleaves
  exact ⟨⟨fun node hnode => h.parent_eq node (List.mem_append_left _ hnode),
      fun node hnode => hbelow node (List.mem_append_left _ hnode),
      fun node hnode => hleaves node (List.mem_append_left _ hnode)⟩,
    fun node hnode => h.parent_eq node (List.mem_append_right _ hnode),
      fun node hnode => hbelow node (List.mem_append_right _ hnode),
      fun node hnode => hleaves node (List.mem_append_right _ hnode)⟩

theorem of_branch {kind : BranchKind} {id label : String} {own : Option String}
    (h : Hangs parent [branch kind id label own nodes]) : own = parent ∧ Hangs (some id) nodes := by
  have hmem (node : TreeNode) (hnode : node ∈ preorderOf nodes) :
      node ∈ preorderOf [branch kind id label own nodes] := by
    show node ∈ _ :: (preorderOf nodes ++ [])
    rw [List.append_nil]
    exact List.mem_cons_of_mem _ hnode
  exact ⟨h.parent_eq _ List.mem_cons_self, h.parent_below _ List.mem_cons_self,
    fun node hnode => h.parent_below node (hmem node hnode),
    fun node hnode => h.leaves_ne_nil node (hmem node hnode)⟩

end Hangs

/-! ### Where parents stand -/

/-- What a list of nodes holds in a place, and where the node stands that this one is in: nowhere if it is
at the top, and else in an earlier place. -/
inductive Held (tops all : List TreeNode) (node : TreeNode) (place : Nat) : Option Nat → Prop
  | top (hnode : node ∈ tops) (hparent : node.parent = none) : Held tops all node place none
  | inside {holder : Nat} {above : TreeNode} (hlt : holder < place) (habove : all[holder]? = some above)
      (hchild : node ∈ above.children) (hparent : node.parent = some above.id) :
      Held tops all node place (some holder)

theorem Held.mono {tops all : List TreeNode} {node : TreeNode} {place later : Nat} {holder : Option Nat}
    (h : Held tops all node place holder) (hle : place ≤ later) : Held tops all node later holder := by
  cases h with
  | top hnode hparent => exact .top hnode hparent
  | inside hlt habove hchild hparent => exact .inside (Nat.lt_of_lt_of_le hlt hle) habove hchild hparent

section Standing

variable {all part more : List TreeNode} {place : Nat}

/-- Behind one part of what stands in a list from a place on stands the next. -/
theorem stands_behind (h : part ++ more <+: all.drop place) : more <+: all.drop (place + part.length) := by
  obtain ⟨later, hlater⟩ := h
  refine ⟨later, ?_⟩
  rw [← List.drop_drop, ← hlater, List.append_assoc, List.drop_left]

theorem stands_next {node : TreeNode} (h : node :: part <+: all.drop place) :
    part <+: all.drop (place + 1) := by
  have hcons : [node] ++ part <+: all.drop place := h
  exact stands_behind hcons

theorem stands_first {node : TreeNode} (h : node :: part <+: all.drop place) : all[place]? = some node := by
  obtain ⟨later, hlater⟩ := h
  calc all[place]?
    _ = (all.drop place)[0]? := by rw [List.getElem?_drop, Nat.add_zero]
    _ = some node := by
      rw [← hlater]
      rfl

end Standing

/-- Nodes that stand in a list from a place on are held there, if their common holder is known. -/
theorem held_holdersOf {tops all : List TreeNode} : ∀ (nodes : List TreeNode)
    (holder : Option Nat) (place : Nat), preorderOf nodes <+: all.drop place →
    (∀ node ∈ preorderOf nodes, ∀ child ∈ node.children, child.parent = some node.id) →
    (∀ node ∈ nodes, Held tops all node place holder) →
    List.Forall₂ (fun row holder => Held tops all row.1 row.2 holder)
      ((preorderOf nodes).zipIdx place) (holdersOf holder place nodes)
  | [], _, _, _, _, _ => .nil
  | node :: rest, holder, place, hstands, hbelow, hheld => by
    rw [preorderOf] at hstands hbelow
    have hnode := held_holders node holder place ((List.prefix_append _ _).trans hstands)
      (fun found hfound => hbelow found (List.mem_append_left _ hfound)) (hheld node List.mem_cons_self)
    have hrest := held_holdersOf rest holder (place + node.preorder.length) (stands_behind hstands)
      (fun found hfound => hbelow found (List.mem_append_right _ hfound))
      fun found hfound => (hheld found (List.mem_cons_of_mem _ hfound)).mono (Nat.le_add_right _ _)
    rw [length_preorderOf.length_preorder] at hrest
    rw [preorderOf, holdersOf, List.zipIdx_append, length_preorderOf.length_preorder]
    exact List.rel_append hnode hrest
where
  held_holders {tops all : List TreeNode} : ∀ (node : TreeNode) (holder : Option Nat) (place : Nat),
      node.preorder <+: all.drop place →
      (∀ found ∈ node.preorder, ∀ child ∈ found.children, child.parent = some found.id) →
      Held tops all node place holder →
      List.Forall₂ (fun row holder => Held tops all row.1 row.2 holder)
        (node.preorder.zipIdx place) (node.holders holder place)
    | branch kind id label parent children, holder, place, hstands, hbelow, hheld => by
      rw [preorder] at hstands hbelow
      have hinside : ∀ child ∈ children, Held tops all child (place + 1) (some place) :=
        fun child hchild => .inside (Nat.lt_succ_self place) (stands_first hstands) hchild
          (hbelow _ List.mem_cons_self child hchild)
      have hchildren := held_holdersOf children (some place) (place + 1) (stands_next hstands)
        (fun found hfound => hbelow found (List.mem_cons_of_mem _ hfound)) hinside
      rw [preorder, holders, List.zipIdx_cons]
      exact .cons hheld hchildren
    | leaf setting parent, holder, place, _, _, hheld => .cons hheld .nil

/-! ### Growing a tree again -/

theorem shapes_eq_map (nodes : List TreeNode) : shapes nodes = nodes.map shape := by
  induction nodes with
  | nil => rfl
  | cons node rest ih => rw [shapes, ih, List.map_cons]

/-- The rows of nodes grow into their shapes before whatever stands behind them, if that is below none of
them. -/
theorem foldr_hang : ∀ (nodes : List TreeNode) {parent : Option String}
    (later : List (Option String × Shape)), Hangs parent nodes →
    ((preorderOf nodes).map id).Nodup → (∀ node ∈ preorderOf nodes, parent ≠ some node.id) →
    (∀ tree ∈ later, ∀ node ∈ preorderOf nodes, tree.1 ≠ some node.id) →
    ((preorderOf nodes).map fun node => (node.id, node.parent)).foldr Shape.hang later =
      (nodes.map fun node => (parent, node.shape)) ++ later
  | [], _, _, _, _, _, _ => rfl
  | node :: rest, parent, later, hhangs, hdistinct, hparent, hlater => by
    have hboth : Hangs parent ([node] ++ rest) := hhangs
    obtain ⟨hnode, hrest⟩ := hboth.of_append
    rw [preorderOf] at hdistinct hparent hlater
    rw [List.map_append] at hdistinct
    obtain ⟨hfirst, hothers, -⟩ := List.nodup_append.1 hdistinct
    have hgrown := foldr_hang rest later hrest hothers
      (fun found hfound => hparent found (List.mem_append_right _ hfound))
      fun tree htree found hfound => hlater tree htree found (List.mem_append_right _ hfound)
    -- Neither what the siblings have grown into nor what stands behind them is below this node.
    have hapart : ∀ tree ∈ (rest.map fun sibling => (parent, sibling.shape)) ++ later,
        ∀ found ∈ node.preorder, tree.1 ≠ some found.id := by
      intro tree htree found hfound
      rcases List.mem_append.1 htree with htree | htree
      · obtain ⟨sibling, -, rfl⟩ := List.mem_map.1 htree
        exact hparent found (List.mem_append_left _ hfound)
      · exact hlater tree htree found (List.mem_append_left _ hfound)
    rw [preorderOf, List.map_append, List.foldr_append, hgrown,
      foldr_hang_node node _ hnode hfirst hapart]
    rfl
where
  foldr_hang_node : ∀ (node : TreeNode) {parent : Option String}
      (later : List (Option String × Shape)), Hangs parent [node] → (node.preorder.map id).Nodup →
      (∀ tree ∈ later, ∀ found ∈ node.preorder, tree.1 ≠ some found.id) →
      (node.preorder.map fun node => (node.id, node.parent)).foldr Shape.hang later =
        (parent, node.shape) :: later
    | branch kind name label own children, parent, later, hhangs, hdistinct, hlater => by
      obtain ⟨rfl, hbelow⟩ := hhangs.of_branch
      rw [preorder] at hdistinct hlater
      obtain ⟨hname, hdistinct⟩ := List.nodup_cons.1 hdistinct
      have hchildren := foldr_hang children later hbelow hdistinct
        (fun node hnode heq => hname (List.mem_map.2 ⟨node, hnode, (Option.some.inj heq).symm⟩))
        fun tree htree node hnode => hlater tree htree node (List.mem_cons_of_mem _ hnode)
      have hnamed : ∀ tree ∈ children.map fun node => (some name, node.shape), tree.1 = some name := by
        intro tree htree
        obtain ⟨node, -, rfl⟩ := List.mem_map.1 htree
        rfl
      rw [preorder, List.map_cons, List.foldr_cons, hchildren]
      refine (Shape.hang_append own hnamed fun tree htree =>
        hlater tree htree _ List.mem_cons_self).trans ?_
      rw [List.map_map, shape, shapes_eq_map]
      rfl
    | leaf setting own, parent, later, hhangs, _, hlater => by
      obtain rfl : own = parent := hhangs.parent_eq _ List.mem_cons_self
      have hnone : ∀ tree ∈ ([] : List (Option String × Shape)), tree.1 = some setting.key.text :=
        fun _ htree => absurd htree List.not_mem_nil
      exact Shape.hang_append own hnone fun tree htree => hlater tree htree _ List.mem_cons_self

/-- The shape of a tree whose nodes have different ids is told by the ids and the parents. -/
theorem regrow_ofNodes {nodes : List TreeNode} (h : Hangs none nodes)
    (hdistinct : (FlatTree.ofNodes nodes).ids.Nodup) :
    Shape.regrow (FlatTree.ofNodes nodes).ids (FlatTree.ofNodes nodes).parents =
      nodes.map shape := by
  have hgrown := foldr_hang nodes [] h hdistinct (fun _ _ => nofun) fun _ h => nomatch h
  unfold Shape.regrow
  show ((((preorderOf nodes).map id).zip ((preorderOf nodes).map parent)).foldr Shape.hang []).map
    Prod.snd = _
  rw [List.zip_map', hgrown, List.append_nil, List.map_map]
  rfl

end TreeNode

/-! ### Flat views of built trees -/

/-- A flat view of nodes: five lists with the nodes in order, each after the one that it is in. -/
structure FlatTree.Lists (flat : FlatTree) (nodes : List TreeNode) : Prop where
  length_ids : flat.ids.length = TreeNode.totalOf nodes
  length_nodes : flat.nodes.length = TreeNode.totalOf nodes
  length_labels : flat.labels.length = TreeNode.totalOf nodes
  length_descriptions : flat.descriptions.length = TreeNode.totalOf nodes
  length_parents : flat.parents.length = TreeNode.totalOf nodes
  rows : ∀ (place : Nat) (node : TreeNode), (TreeNode.preorderOf nodes)[place]? = some node →
    flat.ids[place]? = some node.id ∧ flat.nodes[place]? = some node.shown ∧
      flat.labels[place]? = some node.label ∧ flat.descriptions[place]? = some node.description ∧
        flat.parents[place]? = some node.parent
  /-- The places of the nodes that the nodes are in. -/
  held : List.Forall₂ (fun row holder =>
      TreeNode.Held nodes (TreeNode.preorderOf nodes) row.1 row.2 holder)
    (TreeNode.preorderOf nodes).zipIdx (TreeNode.holdersOf none 0 nodes)
  /-- A node at the top has no parent. -/
  parents_top : ∀ place : Nat, (TreeNode.holdersOf none 0 nodes)[place]? = some none →
    flat.parents[place]? = some none
  /-- The parent of any other one is the id in the place of the node that it is in, which comes earlier. -/
  parents_inside : ∀ place holder : Nat, (TreeNode.holdersOf none 0 nodes)[place]? = some (some holder) →
    holder < place ∧ ∃ id, flat.ids[holder]? = some id ∧ flat.parents[place]? = some (some id)

namespace TreeNode

variable {nodes : List TreeNode}

theorem lists_ofNodes (h : Hangs none nodes) : (FlatTree.ofNodes nodes).Lists nodes := by
  have hlength {β : Type} (field : TreeNode → β) :
      ((preorderOf nodes).map field).length = totalOf nodes := by
    rw [List.length_map, length_preorderOf]
  have hfield {β : Type} (field : TreeNode → β) {place : Nat} {node : TreeNode}
      (hnode : (preorderOf nodes)[place]? = some node) :
      ((preorderOf nodes).map field)[place]? = some (field node) := by
    rw [List.getElem?_map, hnode, Option.map_some]
  have htop : ∀ node ∈ nodes, Held nodes (preorderOf nodes) node 0 none := fun node hnode =>
    .top hnode (h.parent_eq node hnode)
  have hheld := held_holdersOf nodes none 0 List.prefix_rfl h.parent_below htop
  have hplace {place : Nat} {holder : Option Nat}
      (hholder : (holdersOf none 0 nodes)[place]? = some holder) :
      ∃ node, (preorderOf nodes)[place]? = some node ∧
        Held nodes (preorderOf nodes) node place holder := by
    obtain ⟨hlt, rfl⟩ := List.getElem?_eq_some_iff.1 hholder
    have hrows : place < (preorderOf nodes).zipIdx.length := hheld.length_eq.symm ▸ hlt
    have hrow := hheld.get hrows hlt
    rw [List.get_eq_getElem, List.getElem_zipIdx, Nat.zero_add] at hrow
    exact ⟨_, List.getElem?_eq_getElem _, hrow⟩
  exact {
    length_ids := hlength id
    length_nodes := hlength shown
    length_labels := hlength label
    length_descriptions := hlength description
    length_parents := hlength parent
    rows := fun place node hnode =>
      ⟨hfield id hnode, hfield shown hnode, hfield label hnode, hfield description hnode,
        hfield parent hnode⟩
    held := hheld
    parents_top := by
      intro place hholder
      obtain ⟨node, hnode, hheld⟩ := hplace hholder
      cases hheld with
      | top _ hparent => exact (hfield parent hnode).trans (congrArg some hparent)
    parents_inside := by
      intro place holder hholder
      obtain ⟨node, hnode, hheld⟩ := hplace hholder
      cases hheld with
      | inside hlt habove _ hparent =>
        exact ⟨hlt, _, hfield id habove, (hfield parent hnode).trans (congrArg some hparent)⟩ }

/-- The flat view of a tree of settings lists its nodes, and where no two of them have one id, it tells the
structure of the tree: the ids and the parents grow into it again, and another tree with the same has the
same shape. -/
theorem flat_keeps_structure (root other : Node) (snapshot otherSnapshot : Snapshot) :
    (FlatTree.ofNodes (build root snapshot)).Lists (build root snapshot) ∧
      ((FlatTree.ofNodes (build root snapshot)).ids.Nodup →
        Shape.regrow (FlatTree.ofNodes (build root snapshot)).ids
          (FlatTree.ofNodes (build root snapshot)).parents = (build root snapshot).map shape) ∧
        ((FlatTree.ofNodes (build root snapshot)).ids.Nodup →
          (FlatTree.ofNodes (build other otherSnapshot)).ids.Nodup →
            (FlatTree.ofNodes (build root snapshot)).ids =
              (FlatTree.ofNodes (build other otherSnapshot)).ids →
              (FlatTree.ofNodes (build root snapshot)).parents =
                (FlatTree.ofNodes (build other otherSnapshot)).parents →
                (build root snapshot).map shape = (build other otherSnapshot).map shape) := by
  refine ⟨lists_ofNodes (hangs_build root snapshot), regrow_ofNodes (hangs_build root snapshot), ?_⟩
  intro hdistinct hother hids hparents
  rw [← regrow_ofNodes (hangs_build root snapshot) hdistinct,
    ← regrow_ofNodes (hangs_build other otherSnapshot) hother, hids, hparents]

end TreeNode

namespace SmallSite

/-- The page of the small site among others, of which none has a setting in the snapshot below. -/
def scattered : Node :=
  .category "other" "" [.malformed, .page "back" "" [.malformed, .category "lost" "" [tree]],
    .page "front" "Front" [.setting { name := "notice" }, .setting { name := "limit" }],
    .category "shed" "" [.category "box" "" []]]

def noticed : Snapshot :=
  .ofList [(notice, .wrap .text { name := "notice" } (some "open") [])]

/-- Another declared tree with the same flat view. -/
theorem scattered_same_shape :
    (FlatTree.ofNodes (TreeNode.build tree noticed)).ids = ["front", "notice@@none"] ∧
      (FlatTree.ofNodes (TreeNode.build tree noticed)).parents = [none, some "front"] ∧
        (FlatTree.ofNodes (TreeNode.build scattered noticed)).ids = ["front", "notice@@none"] ∧
          (FlatTree.ofNodes (TreeNode.build scattered noticed)).parents = [none, some "front"] ∧
            (TreeNode.build tree noticed).map TreeNode.shape =
              (TreeNode.build scattered noticed).map TreeNode.shape := by
  obtain ⟨hids, hparents, hids', hparents'⟩ :
      (FlatTree.ofNodes (TreeNode.build tree noticed)).ids = ["front", "notice@@none"] ∧
        (FlatTree.ofNodes (TreeNode.build tree noticed)).parents = [none, some "front"] ∧
          (FlatTree.ofNodes (TreeNode.build scattered noticed)).ids = ["front", "notice@@none"] ∧
            (FlatTree.ofNodes (TreeNode.build scattered noticed)).parents = [none, some "front"] := by
    decide +kernel
  have hdistinct : ["front", "notice@@none"].Nodup := by decide
  refine ⟨hids, hparents, hids', hparents', ?_⟩
  exact (TreeNode.flat_keeps_structure tree scattered noticed noticed).2.2 (hids ▸ hdistinct)
    (hids' ▸ hdistinct) (hids.trans hids'.symm) (hparents.trans hparents'.symm)

end SmallSite

end SitePresets
