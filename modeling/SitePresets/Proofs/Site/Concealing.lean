import SitePresets.Proofs.Service.Protection
import SitePresets.SettingsTree

/-!
# What a tree of settings tells of passwords

Two sites that differ in the texts of their passwords have the same tree of settings, except for the values
that the nodes of the passwords themselves carry along; the flat view, which shows a password masked, is the
same. A password that bears the name of another setting's facet tells by it whether it reads as set.
-/

namespace SitePresets

/-! ### Concealed settings -/

namespace Descriptor

/-- Whether the value is a text that is not shown. -/
def isSecret (d : Descriptor) : Bool :=
  d.kind = .password && !d.rule.isNumeric

/-- The same setting with the form that is shown in the place of a secret text. -/
def conceal (d : Descriptor) : Descriptor :=
  if d.isSecret then { d with raw := some (d.rule.display d.value) } else d

variable {d live now : Descriptor} {given others : List (Facet × Option String)}

@[simp]
theorem declared_conceal (d : Descriptor) : d.conceal.declared = d.declared := by
  unfold conceal
  split <;> rfl

@[simp]
theorem facetMarks_conceal (d : Descriptor) : d.conceal.facetMarks = d.facetMarks := by
  unfold conceal
  split <;> rfl

theorem family_of_isSecret (h : d.isSecret) : d.rule.family = .secret := by
  have hkind : d.kind = .password := of_decide_eq_true (Bool.and_eq_true_iff.1 h).1
  show d.kind.family = .secret
  rw [hkind]
  rfl

theorem value_of_isSecret (h : d.isSecret) : d.value = d.raw := by
  have hnumeric : d.rule.isNumeric = false := by
    simpa using (Bool.and_eq_true_iff.1 h).2
  have htext (text : String) : d.rule.cleanText text = some text := by
    unfold ValueRule.cleanText
    rw [family_of_isSecret h, hnumeric]
    rfl
  unfold value ValueRule.clean
  rw [funext htext]
  exact Option.bind_fun_some d.raw

/-- A secret is shown masked unless it is empty. -/
theorem display_of_isSecret (h : d.isSecret) :
    d.rule.display d.value = if d.raw.getD "" = "" then "" else "********" := by
  unfold ValueRule.display
  rw [family_of_isSecret h, value_of_isSecret h]

theorem conceal_of_isSecret (h : d.isSecret) (hraw : d.raw.getD "" ≠ "") :
    d.conceal = { d with raw := some "********" } := by
  unfold conceal
  rw [if_pos h, display_of_isSecret h, if_neg hraw]

/-- Two settings that differ in their secret texts are concealed alike. -/
theorem conceal_eq_of_isSecret (h : live.isSecret) (hlive : live.raw.getD "" ≠ "")
    (hnow : now.raw.getD "" ≠ "") (hsame : { now with raw := live.raw } = live) :
    now.conceal = live.conceal := by
  have hsecret : now.isSecret := by
    rw [← hsame] at h
    exact h
  rw [conceal_of_isSecret hsecret hnow, conceal_of_isSecret h hlive]
  exact congrArg (fun d : Descriptor => { d with raw := some "********" }) hsame

/-- What is shown for a secret is shown for itself. -/
@[simp]
theorem display_conceal (d : Descriptor) : d.conceal.display = d.display := by
  have hshown : d.conceal.rule.display d.conceal.value = d.rule.display d.value := by
    by_cases h : d.isSecret
    · have hconceal : d.conceal = { d with raw := some (d.rule.display d.value) } := if_pos h
      have hsecret : d.conceal.isSecret := by
        rw [hconceal]
        exact h
      rw [display_of_isSecret hsecret, hconceal, Option.getD_some, display_of_isSecret h]
      by_cases hempty : d.raw.getD "" = ""
      · rw [if_pos hempty, if_pos rfl]
      · rw [if_neg hempty, if_neg (by decide)]
    · have hconceal : d.conceal = d := if_neg h
      rw [hconceal]
  unfold display
  rw [hshown, facetMarks_conceal]

/-- The facets of a setting depend on how the given texts read. -/
theorem facetsOf_eq (kind : Kind) (h : List.Forall₂ (fun (row found : Facet × Option String) =>
      found.1 = row.1 ∧ found.2.map Value.textIsOn = row.2.map Value.textIsOn) given others) :
    facetsOf kind others = facetsOf kind given := by
  have hfind (facet : Facet) : (Table.find? facet others).join.map Value.textIsOn =
      (Table.find? facet given).join.map Value.textIsOn := by
    induction h with
    | nil => rfl
    | @cons row found rest more hrow _ ih =>
      rw [Table.find?, Table.find?, hrow.1]
      by_cases hfacet : row.1 = facet
      · rw [if_pos hfacet, if_pos hfacet]
        exact hrow.2
      · rw [if_neg hfacet, if_neg hfacet]
        exact ih
  unfold facetsOf
  refine List.filterMap_congr fun facet _ => ?_
  have hpair := congrArg (Option.map fun on => (facet, on)) (hfind facet)
  rwa [Option.map_map, Option.map_map] at hpair

end Descriptor

/-! ### Concealed trees -/

namespace Snapshot

def conceal (snapshot : Snapshot) : Snapshot :=
  ⟨snapshot.rows.map fun row => (row.1, row.2.conceal)⟩

variable {snapshot other : Snapshot} {live now : Descriptor}

theorem get?_conceal (snapshot : Snapshot) (key : Key) :
    snapshot.conceal.get? key = (snapshot.get? key).map Descriptor.conceal :=
  Table.find?_map (f := id) Descriptor.conceal (fun _ h => h) snapshot.rows

theorem contains_eq_of_conceal (h : other.conceal = snapshot.conceal) (key : Key) :
    other.contains key = snapshot.contains key := by
  have hget := get?_conceal other key
  rw [h, get?_conceal] at hget
  unfold Table.contains
  rw [← Option.isSome_map, ← hget, Option.isSome_map]

theorem conceal_put (h : other.conceal = snapshot.conceal) (hlive : now.conceal = live.conceal)
    (key : Key) : conceal (other.put key now) = conceal (snapshot.put key live) := by
  have hput (snapshot : Snapshot) (live : Descriptor) :
      conceal (snapshot.put key live) = snapshot.conceal.put key live.conceal :=
    congrArg Table.mk (Table.write_map Descriptor.conceal key live snapshot.rows).symm
  rw [hput, hput, h, hlive]

end Snapshot

namespace TreeNode

mutual

/-- A node with every secret at it and below it concealed. -/
def conceal : TreeNode → TreeNode
  | branch kind id label parent children => branch kind id label parent (concealAll children)
  | leaf setting parent => leaf setting.conceal parent

def concealAll : List TreeNode → List TreeNode
  | [] => []
  | node :: rest => node.conceal :: concealAll rest

end

theorem concealAll_eq_map (nodes : List TreeNode) : concealAll nodes = nodes.map conceal := by
  induction nodes with
  | nil => rfl
  | cons node rest ih => rw [concealAll, ih, List.map_cons]

variable {snapshot : Snapshot}

theorem leavesOf_conceal (parent : Option String) (settings : List Node) :
    leavesOf snapshot.conceal parent settings = concealAll (leavesOf snapshot parent settings) := by
  unfold leavesOf
  rw [concealAll_eq_map, List.map_filterMap]
  refine List.filterMap_congr fun node _ => ?_
  cases node.declared? with
  | none => rfl
  | some declared =>
    show (snapshot.conceal.get? declared.key).bind _ = ((snapshot.get? declared.key).bind _).map _
    rw [Snapshot.get?_conceal]
    cases snapshot.get? declared.key <;> rfl

theorem branch?_conceal (kind : BranchKind) (name visibleName : String) (parent : Option String)
    (children : List TreeNode) :
    branch? kind name visibleName parent (concealAll children) =
      (branch? kind name visibleName parent children).map conceal := by
  cases children <;> rfl

theorem ofNodes_conceal : ∀ (nodes : List Node) (parent : Option String),
    ofNodes snapshot.conceal parent nodes = concealAll (ofNodes snapshot parent nodes)
  | [], _ => rfl
  | node :: rest, parent => by
    rw [ofNodes, ofNodes, ofNode?_conceal node parent, ofNodes_conceal rest parent]
    cases ofNode? snapshot parent node <;> rfl
where
  ofNode?_conceal : ∀ (node : Node) (parent : Option String),
      ofNode? snapshot.conceal parent node = (ofNode? snapshot parent node).map conceal
    | .category name visibleName children, parent => by
      rw [ofNode?, ofNode?, ofNodes_conceal children, branch?_conceal]
    | .page name visibleName settings, parent => by
      rw [ofNode?, ofNode?, leavesOf_conceal, branch?_conceal]
    | .setting _, _ => rfl
    | .malformed, _ => rfl

/-- The tree over a concealed snapshot is the tree over the snapshot, concealed. -/
theorem build_conceal (root : Node) (snapshot : Snapshot) :
    build root snapshot.conceal = concealAll (build root snapshot) := by
  cases root with
  | category name visibleName children => exact ofNodes_conceal children none
  | page name visibleName settings => exact leavesOf_conceal none settings
  | setting declared => rfl
  | malformed => rfl

theorem preorderOf_concealAll : ∀ nodes : List TreeNode,
    preorderOf (concealAll nodes) = (preorderOf nodes).map conceal
  | [] => rfl
  | node :: rest => by
    rw [concealAll, preorderOf, preorderOf, preorder_conceal node, preorderOf_concealAll rest,
      List.map_append]
where
  preorder_conceal : ∀ node : TreeNode, node.conceal.preorder = node.preorder.map conceal
    | branch kind id label parent children => by
      rw [conceal, preorder, preorder, preorderOf_concealAll children, List.map_cons, conceal]
    | leaf setting parent => rfl

variable (node : TreeNode)

theorem id_conceal : node.conceal.id = node.id := by
  cases node with
  | branch => rfl
  | leaf setting parent => exact congrArg (Key.text ∘ Declaration.key) setting.declared_conceal

theorem label_conceal : node.conceal.label = node.label := by
  cases node with
  | branch => rfl
  | leaf setting parent => exact congrArg Declaration.label setting.declared_conceal

theorem description_conceal : node.conceal.description = node.description := by
  cases node with
  | branch => rfl
  | leaf setting parent => exact congrArg Declaration.description setting.declared_conceal

theorem parent_conceal : node.conceal.parent = node.parent := by
  cases node <;> rfl

theorem shown_conceal : node.conceal.shown = node.shown := by
  cases node with
  | branch => rfl
  | leaf setting parent => exact setting.display_conceal

end TreeNode

/-- The flat view is the one of the concealed tree. -/
theorem FlatTree.ofNodes_concealAll (nodes : List TreeNode) :
    ofNodes (TreeNode.concealAll nodes) = ofNodes nodes := by
  have hmap {β : Type} (field : TreeNode → β) (hfield : ∀ node, field node.conceal = field node) :
      (TreeNode.preorderOf (TreeNode.concealAll nodes)).map field =
        (TreeNode.preorderOf nodes).map field := by
    rw [TreeNode.preorderOf_concealAll, List.map_map]
    exact List.map_congr_left fun node _ => hfield node
  unfold ofNodes
  simp only [hmap _ TreeNode.id_conceal, hmap _ TreeNode.shown_conceal,
    hmap _ TreeNode.label_conceal, hmap _ TreeNode.description_conceal,
    hmap _ TreeNode.parent_conceal]

/-! ### Sites with other passwords -/

namespace Site

/-- Whether the setting with a key is a password, and not one that is a number. -/
def IsPassword (site : Site) (key : Key) : Prop :=
  ∃ declared, site.tree.find? key = some declared ∧
    Resolver.kindOf site.chain declared = .password ∧
      declared.paramType ≠ some "int" ∧ declared.paramType ≠ some "float"

/-- Whether a key is the variable of a facet of a setting that is offered. -/
def HoldsFacet (site : Site) (key : Key) : Prop :=
  ∃ owner declared, site.offered? owner = some declared ∧
    ∃ facet ∈ (Resolver.kindOf site.chain declared).facets,
      key = ⟨declared.scope, facet.variableOf declared.name⟩

/-- A store that differs from the one of a site in the texts of passwords only, where both have one. -/
structure Disguises (site : Site) (store : Store) : Prop where
  get_cases : ∀ key, store.get key = site.store.get key ∨
    site.IsPassword key ∧ ∃ text other, text ≠ "" ∧ other ≠ "" ∧
      site.store.get key = .ok (some text) ∧ store.get key = .ok (some other)
  plugin_eq : ∀ plugin, store.plugin? plugin = site.store.plugin? plugin
  pluginsOf_eq : ∀ type, store.pluginsOf type = site.store.pluginsOf type

/-- Whether the texts under the variables of facets read as the same flags in a store as at a site. -/
def SameFlags (site : Site) (store : Store) : Prop :=
  ∀ key, site.HoldsFacet key → ∀ text other, site.store.get key = .ok (some text) →
    store.get key = .ok (some other) → Value.textIsOn other = Value.textIsOn text

variable {site : Site} {store : Store} {declared : Declaration}

theorem Disguises.offers_eq (h : site.Disguises store) (key : Key) :
    { site with store }.offers key = site.offers key := by
  have hplugins : site.store.SamePlugins store :=
    ⟨h.plugin_eq, fun type => h.pluginsOf_eq type ▸ .refl _⟩
  unfold offers
  rw [hplugins.scopeAvailable_eq]

theorem Disguises.choicesOf_eq (h : site.Disguises store) (kind : Kind) (declared : Declaration) :
    choicesOf store kind declared = choicesOf site.store kind declared := by
  have hhandlers (type : String) : store.handlersOf type = site.store.handlersOf type := by
    unfold Store.handlersOf
    rw [h.pluginsOf_eq]
  unfold choicesOf
  simp only [hhandlers]

theorem Disguises.sameOutcome_readFacet (h : site.Disguises store) (hflags : site.SameFlags store)
    {key : Key} (hoffered : site.offered? key = some declared) (facet : Facet)
    (hfacet : facet ∈ (Resolver.kindOf site.chain declared).facets) :
    SameOutcome (fun row found =>
        found.1 = row.1 ∧ found.2.map Value.textIsOn = row.2.map Value.textIsOn)
      (readFacet site.store declared facet) (readFacet store declared facet) := by
  unfold readFacet
  rcases h.get_cases ⟨declared.scope, facet.variableOf declared.name⟩ with
    hsame | ⟨-, text, other, -, -, htext, hother⟩
  · rw [hsame]
    refine (SameOutcome.refl _).bind fun stored _ hstored => ?_
    exact .ok ⟨rfl, by rw [hstored]⟩
  · have hflag := hflags _ ⟨key, declared, hoffered, facet, hfacet, rfl⟩ text other htext hother
    rw [htext, hother]
    exact .ok ⟨rfl, congrArg some hflag⟩

/-- A setting is read alike from both stores, but for the text of a password. -/
theorem Disguises.sameOutcome_read (h : site.Disguises store) (hflags : site.SameFlags store)
    {key : Key} (hoffered : site.offered? key = some declared) :
    SameOutcome (fun live now => now.conceal = live.conceal) (site.read declared)
      ({ site with store }.read declared) := by
  have hgiven := SameOutcome.mapM (h.sameOutcome_readFacet hflags hoffered)
  unfold read
  rcases h.get_cases declared.key with hsame | ⟨hpassword, text, other, htext, hother, hget, hfound⟩
  · rw [hsame]
    refine (SameOutcome.refl _).bind fun stored _ hstored => hstored ▸ ?_
    refine hgiven.bind fun given others hrows => .ok ?_
    unfold Descriptor.wrap
    rw [Descriptor.facetsOf_eq _ hrows, h.choicesOf_eq]
  · obtain ⟨found, hfind, hkind, hint, hfloat⟩ := hpassword
    have hsame : found = declared := by
      obtain ⟨-, rfl⟩ := mem_of_offered hoffered
      exact Option.some.inj (hfind.symm.trans (offered_eq_some.1 hoffered).2)
    subst hsame
    -- Both stores have a text for the password, so the two settings differ in a secret only.
    rw [hget, hfound]
    refine hgiven.bind fun given others hrows => .ok ?_
    refine Descriptor.conceal_eq_of_isSecret ?_ htext hother ?_
    · simp [Descriptor.isSecret, Descriptor.wrap, Descriptor.rule, ValueRule.isNumeric, hkind, hint,
        hfloat]
    · unfold Descriptor.wrap
      rw [Descriptor.facetsOf_eq _ hrows, h.choicesOf_eq]

end Site

namespace Snapshot

variable {site : Site} {store : Store} {snapshot other : Snapshot}

/-- The rest of a snapshot is taken alike, if the settings that it does not have yet are read alike. -/
theorem sameOutcome_foldlM_add {declarations : List Declaration}
    (hoffers : ∀ key, { site with store }.offers key = site.offers key)
    (h : ∀ declared, Lacks site snapshot declarations declared →
      SameOutcome (fun live now => now.conceal = live.conceal) (site.read declared)
        ({ site with store }.read declared))
    (hlike : other.conceal = snapshot.conceal) :
    SameOutcome (fun (snapshot other : Snapshot) => other.conceal = snapshot.conceal)
      (declarations.foldlM (add site) snapshot)
      (declarations.foldlM (add { site with store }) other) := by
  induction declarations generalizing snapshot other with
  | nil => exact .ok hlike
  | cons declared rest ih =>
    rw [List.foldlM_cons, List.foldlM_cons]
    -- Concealed alike, both snapshots have the same keys, so both walks skip or both read.
    have hcontains := contains_eq_of_conceal hlike declared.key
    by_cases hskip : ¬ site.offers declared.key ∨ snapshot.contains declared.key
    · rw [add_of_skip hskip, add_of_skip (by rwa [hoffers, hcontains])]
      exact ih (fun found hlacks => h found (hlacks.of_skip hskip)) hlike
    · simp only [not_or, not_not] at hskip
      obtain ⟨hoffer, hnew⟩ := hskip
      rw [add_of_offers hoffer hnew, add_of_offers (by rwa [hoffers]) (by rwa [hcontains])]
      have hread := h declared (.head hoffer hnew)
      generalize site.read declared = x, { site with store }.read declared = y at hread
      cases hread with
      | error refusal => exact .error refusal
      | ok hsame =>
        exact ih (fun found hlacks => h found hlacks.of_put) (conceal_put hlike hsame declared.key)

theorem sameOutcome_ofSite_of_disguises (h : site.Disguises store) (hflags : site.SameFlags store) :
    SameOutcome (fun (snapshot other : Snapshot) => other.conceal = snapshot.conceal)
      (ofSite site) (ofSite { site with store }) := by
  refine sameOutcome_foldlM_add h.offers_eq (fun declared hlacks => ?_) rfl
  exact h.sameOutcome_read hflags (Site.offered_eq_some.2 ⟨hlacks.offers, hlacks.find_eq⟩)

end Snapshot

namespace Site

variable {site : Site} {store : Store}

/-- The tree of the settings of a site. -/
def settingsTree (site : Site) : Except Refusal (List TreeNode) :=
  (Snapshot.ofSite site).map (TreeNode.build site.tree)

/-- The tree of settings is the same for other passwords, but for the texts that the nodes of the passwords
carry; what it shows of every setting is the same. -/
theorem passwords_concealed (h : site.Disguises store) (hflags : site.SameFlags store) :
    { site with store }.settingsTree.map TreeNode.concealAll =
        site.settingsTree.map TreeNode.concealAll ∧
      { site with store }.settingsTree.map FlatTree.ofNodes =
        site.settingsTree.map FlatTree.ofNodes := by
  have hsnapshots := Snapshot.sameOutcome_ofSite_of_disguises h hflags
  have htrees : SameOutcome (fun nodes others =>
      TreeNode.concealAll others = TreeNode.concealAll nodes)
      site.settingsTree { site with store }.settingsTree := by
    refine hsnapshots.map fun snapshot other hlike => ?_
    rw [← TreeNode.build_conceal, ← TreeNode.build_conceal, hlike]
  refine ⟨htrees.map_eq fun nodes others hsame => hsame,
    htrees.map_eq fun nodes others hsame => ?_⟩
  rw [← FlatTree.ofNodes_concealAll others, hsame, FlatTree.ofNodes_concealAll]

end Site

namespace SmallSite

/-- The small site with a password to its door, and with one that has the name of a facet. -/
def doored (secret flag : String) : Site where
  store := .memory (.ofLists
    [(password, some secret), (commentsAdvanced, some flag), (comments, some "1")] [(chat, 1)])
  tree := .category "root" "" [.page "door" "" [hidden "password", hidden "comments_adv"], tree]
where
  hidden (name : String) : Node :=
    .setting { name, settingClass := "admin_setting_configpasswordunmask", type := "password" }

variable {secret flag other otherFlag : String}

theorem doored_disguises (hsecret : secret ≠ "") (hother : other ≠ "") (hflag : flag ≠ "")
    (hotherFlag : otherFlag ≠ "") :
    (doored secret flag).Disguises (doored other otherFlag).store where
  get_cases key := by
    have hget (secret flag : String) : (doored secret flag).store.get key =
        .ok (Table.find? key [(comments, some "1"), (commentsAdvanced, some flag),
          (password, some secret)]).join := by
      show Except.ok (Option.join (Table.get? _ key)) = _
      rw [Memory.ofLists, Table.get?_ofList]
      rfl
    by_cases hpassword : key = password
    · subst hpassword
      exact .inr ⟨⟨_, rfl, rfl, by decide, by decide⟩, secret, other, hsecret, hother, rfl, rfl⟩
    · by_cases hadvanced : key = commentsAdvanced
      · subst hadvanced
        exact .inr ⟨⟨_, rfl, rfl, by decide, by decide⟩, flag, otherFlag, hflag, hotherFlag, rfl, rfl⟩
      · rw [hget, hget]
        simp [Table.find?, Ne.symm hpassword, Ne.symm hadvanced]
  plugin_eq _ := rfl
  pluginsOf_eq _ := rfl

theorem doored_sameFlags (hflag : Value.textIsOn otherFlag = Value.textIsOn flag) :
    (doored secret flag).SameFlags (doored other otherFlag).store := by
  rintro key ⟨owner, declared, hoffered, facet, hfacet, rfl⟩ text found htext hfound
  have hdeclared : declared ∈ (doored "" "").tree.declarations := (Site.mem_of_offered hoffered).1
  -- Of the four settings only the comments have a facet.
  have hcomments : ∀ declared ∈ (doored "" "").tree.declarations,
      ∀ facet ∈ (Resolver.kindOf Resolver.stock declared).facets,
        (⟨declared.scope, facet.variableOf declared.name⟩ : Key) = commentsAdvanced := by
    decide +kernel
  rw [hcomments declared hdeclared facet hfacet] at htext hfound
  have htext : some flag = some text := Except.ok.inj htext
  have hfound : some otherFlag = some found := Except.ok.inj hfound
  rw [← Option.some.inj htext, ← Option.some.inj hfound]
  exact hflag

theorem swordfish_concealed :
    (doored "hunter2" "off").Disguises (doored "swordfish" "no").store ∧
      (doored "hunter2" "off").SameFlags (doored "swordfish" "no").store ∧
        (doored "swordfish" "no").settingsTree.map TreeNode.concealAll =
          (doored "hunter2" "off").settingsTree.map TreeNode.concealAll ∧
        (doored "swordfish" "no").settingsTree.map (fun nodes => (FlatTree.ofNodes nodes).nodes) =
          .ok ["door", "********", "********", "root", "front", "", "Yes"] := by
  have hdisguises : (doored "hunter2" "off").Disguises (doored "swordfish" "no").store :=
    doored_disguises (by decide) (by decide) (by decide) (by decide)
  have hflags : (doored "hunter2" "off").SameFlags (doored "swordfish" "no").store :=
    doored_sameFlags (by decide +kernel)
  obtain ⟨htree, -⟩ := Site.passwords_concealed hdisguises hflags
  exact ⟨hdisguises, hflags, htree, by decide +kernel⟩

/-- The values that the nodes carry tell a password, and one with the name of a facet is told by the mark of
the facet. -/
theorem passwords_told :
    (doored "hunter2" "off").Disguises (doored "swordfish" "off").store ∧
      (doored "hunter2" "off").settingsTree.map (fun nodes =>
          (TreeNode.leavesBelow nodes).map Descriptor.value) =
        .ok [some "hunter2", some "off", some "", some "1"] ∧
      (doored "swordfish" "off").settingsTree.map (fun nodes =>
          (TreeNode.leavesBelow nodes).map Descriptor.value) =
        .ok [some "swordfish", some "off", some "", some "1"] ∧
      (doored "hunter2" "off").Disguises (doored "hunter2" "on").store ∧
        (doored "hunter2" "off").settingsTree.map (fun nodes => (FlatTree.ofNodes nodes).nodes) =
          .ok ["door", "********", "********", "root", "front", "", "Yes"] ∧
        (doored "hunter2" "on").settingsTree.map (fun nodes => (FlatTree.ofNodes nodes).nodes) =
          .ok ["door", "********", "********", "root", "front", "", "Yes (advanced)"] := by
  refine ⟨doored_disguises (by decide) (by decide) (by decide) (by decide), by decide +kernel,
    by decide +kernel, doored_disguises (by decide) (by decide) (by decide) (by decide),
    by decide +kernel, by decide +kernel⟩

end SmallSite

end SitePresets
