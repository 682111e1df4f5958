import SitePresets.Proofs.Service.Secrecy

/-!
# What a snapshot of a site holds

A snapshot is taken on a walk over the declared tree, and settings are looked up in that tree by themselves.
The two agree: the snapshot holds the settings that are found and offered, each once, with the value of the
site, and lists them by scope in the order in which they are declared.
-/

namespace SitePresets

/-! ### The walk over the tree -/

namespace Snapshot

/-- Adds what stands on a page if it is a setting. -/
def addNode (site : Site) (snapshot : Snapshot) (node : Node) : Except Refusal Snapshot :=
  match node.declared? with
  | some declared => add site snapshot declared
  | none => .ok snapshot

mutual

/-- Goes on with a snapshot below a node: through the children of a category, and over the settings of a
page. -/
def walk (site : Site) : Node → Snapshot → Except Refusal Snapshot
  | .category _ _ children, snapshot => walkAll site children snapshot
  | .page _ _ settings, snapshot => settings.foldlM (addNode site) snapshot
  | .setting _, snapshot => .ok snapshot
  | .malformed, snapshot => .ok snapshot

def walkAll (site : Site) : List Node → Snapshot → Except Refusal Snapshot
  | [], snapshot => .ok snapshot
  | node :: rest, snapshot => do
    let snapshot ← walk site node snapshot
    walkAll site rest snapshot

end

theorem foldlM_addNode (site : Site) (nodes : List Node) (snapshot : Snapshot) :
    nodes.foldlM (addNode site) snapshot =
      (nodes.filterMap Node.declared?).foldlM (add site) snapshot := by
  induction nodes generalizing snapshot with
  | nil => rfl
  | cons node rest ih =>
    rw [List.foldlM_cons, List.filterMap_cons]
    unfold addNode
    cases node.declared? with
    | none => exact ih snapshot
    | some declared =>
      rw [List.foldlM_cons]
      exact bind_congr ih

theorem walk_eq_foldlM (site : Site) : ∀ (node : Node) (snapshot : Snapshot),
    walk site node snapshot = node.declarations.foldlM (add site) snapshot
  | .category _ _ children, snapshot => walkAll_eq_foldlM children snapshot
  | .page name visibleName settings, snapshot => by
    have hpage : (Node.page name visibleName settings).declarations =
        settings.filterMap Node.declared? ++ [] := rfl
    rw [hpage, List.append_nil, walk, foldlM_addNode]
  | .setting _, _ => rfl
  | .malformed, _ => rfl
where
  walkAll_eq_foldlM : ∀ (nodes : List Node) (snapshot : Snapshot), walkAll site nodes snapshot =
    ((Node.pagesOf nodes).flatMap fun page => page.settings.filterMap Node.declared?).foldlM
      (add site) snapshot
  | [], _ => rfl
  | node :: rest, snapshot => by
    rw [walkAll, walk_eq_foldlM site node snapshot, Node.pagesOf, List.flatMap_append,
      List.foldlM_append]
    exact bind_congr (walkAll_eq_foldlM rest)

/-- The snapshot of a site is what the walk over its tree comes to. -/
theorem ofSite_eq_walk (site : Site) : Snapshot.ofSite site = walk site site.tree .empty :=
  (walk_eq_foldlM site site.tree .empty).symm

end Snapshot

/-! ### What can be read -/

namespace Site

variable {site : Site} {declared : Declaration}

/-- The variables that hold a declared setting: its value and its facets. -/
def variablesOf (site : Site) (declared : Declaration) : List Key :=
  declared.key :: (Resolver.kindOf site.chain declared).facets.map fun facet =>
    ⟨declared.scope, facet.variableOf declared.name⟩

/-- The variables of the settings that are offered can all be read. -/
def Legible (site : Site) : Prop :=
  ∀ key declared, site.offered? key = some declared → ∀ held ∈ site.variablesOf declared,
    ∃ stored, site.store.get held = .ok stored

theorem exists_read_iff : (∃ live, site.read declared = .ok live) ↔
    ∀ held ∈ site.variablesOf declared, ∃ stored, site.store.get held = .ok stored := by
  constructor
  · rintro ⟨live, hread⟩ held hheld
    have hshows := shows_of_read hread
    rcases List.mem_cons.1 hheld with rfl | hheld
    · obtain ⟨stored, hstored, -⟩ := hshows.raw_eq
      exact ⟨stored, hstored⟩
    · obtain ⟨facet, hfacet, rfl⟩ := List.mem_map.1 hheld
      rw [← hshows.kind_eq] at hfacet
      obtain ⟨stored, hstored, -⟩ := hshows.facet_eq facet hfacet
      unfold Descriptor.facetKey at hstored
      rw [hshows.declared_eq] at hstored
      exact ⟨stored, hstored⟩
  · intro hreadable
    refine exists_read (hreadable _ List.mem_cons_self) fun facet hfacet => ?_
    exact hreadable _ (List.mem_cons_of_mem _ (List.mem_map_of_mem hfacet))

theorem exists_ofSite_iff : (∃ snapshot, Snapshot.ofSite site = .ok snapshot) ↔ site.Legible := by
  constructor
  · rintro ⟨snapshot, hsnapshot⟩ key declared hoffered
    obtain ⟨live, hread, -⟩ := Snapshot.exists_read_of_ofSite hsnapshot hoffered
    exact exists_read_iff.1 ⟨live, hread⟩
  · intro hlegible
    exact Snapshot.exists_ofSite fun key declared hoffered =>
      exists_read_iff.2 (hlegible key declared hoffered)

/-- The keys of the settings that are offered, in the order in which they are first declared. -/
def available (site : Site) : List Key :=
  ((site.tree.declarations.map Declaration.key).filter site.offers).eraseDups

end Site

/-! ### Lookup and order -/

namespace Snapshot

variable {site : Site} {snapshot after : Snapshot}

/-- Each step of the walk adds a key at the end, unless it is not offered or already there. -/
theorem keys_foldlM_add {declarations : List Declaration}
    (h : declarations.foldlM (add site) snapshot = .ok after) :
    after.keys = snapshot.keys ++ ((declarations.map Declaration.key).filter fun key =>
      site.offers key && !snapshot.contains key).eraseDups := by
  induction declarations generalizing snapshot with
  | nil =>
    obtain rfl := Except.ok.inj h
    exact (List.append_nil _).symm
  | cons declared rest ih =>
    rw [List.foldlM_cons] at h
    obtain ⟨next, hnext, hrest⟩ := bind_eq_ok.1 h
    rw [ih hrest, List.map_cons]
    by_cases hskip : ¬ site.offers declared.key ∨ snapshot.contains declared.key
    · rw [add_of_skip hskip] at hnext
      obtain rfl := Except.ok.inj hnext
      have htest : ¬ (site.offers declared.key && !snapshot.contains declared.key) = true := by
        rw [Bool.and_eq_true, Bool.not_eq_true', Bool.eq_false_iff, not_and_or, not_not]
        exact hskip
      rw [List.filter_cons, if_neg htest]
    · simp only [not_or, not_not] at hskip
      obtain ⟨hoffers, hnew⟩ := hskip
      rw [add_of_offers hoffers hnew] at hnext
      obtain ⟨live, -, rfl⟩ := map_eq_ok.1 hnext
      have hkeys : (snapshot.put declared.key live).keys = snapshot.keys ++ [declared.key] := by
        have hmem : declared.key ∉ snapshot.rows.map Prod.fst := fun hmem =>
          hnew (Table.find?_isSome_iff.2 hmem)
        unfold Table.keys Table.put
        rw [Table.keys_write, if_neg hmem]
      have hcontains : (fun key => site.offers key &&
            !(snapshot.put declared.key live).contains key) = fun key =>
          (!key == declared.key) && (site.offers key && !snapshot.contains key) := by
        funext key
        unfold Table.contains
        rw [Table.get?_put]
        by_cases hkey : key = declared.key
        · simp [hkey]
        · simp [hkey]
      have htest : (site.offers declared.key && !snapshot.contains declared.key) = true := by
        rw [hoffers, Bool.eq_false_iff.2 hnew]
        rfl
      rw [hkeys, hcontains, List.filter_cons, if_pos htest, List.eraseDups_cons, List.filter_filter,
        List.append_assoc, List.singleton_append]

theorem keys_ofSite (h : Snapshot.ofSite site = .ok snapshot) : snapshot.keys = site.available := by
  have hkeys := keys_foldlM_add h
  have hempty : (fun key => site.offers key && !(Table.empty : Snapshot).contains key) =
      site.offers := by
    funext key
    exact Bool.and_true _
  rw [hempty] at hkeys
  exact hkeys

theorem keys_inOrder (h : Snapshot.ofSite site = .ok snapshot) :
    snapshot.inOrder.map Descriptor.key =
      (site.available.map Key.scope).eraseDups.flatMap fun scope =>
        site.available.filter fun key => key.scope = scope := by
  have hsettings : (snapshot.rows.map Prod.snd).map Descriptor.key = site.available :=
    (map_key_rows h).trans (keys_ofSite h)
  calc snapshot.inOrder.map Descriptor.key
    _ = Grouping.grouped Key.scope ((snapshot.rows.map Prod.snd).map Descriptor.key) :=
      (Grouping.grouped_map (fun _ => rfl) _).symm
    _ = Grouping.grouped Key.scope site.available := by rw [hsettings]

/-- What a snapshot of a site is: the settings that are declared and offered, and nothing else. -/
structure Surveys (site : Site) (snapshot : Snapshot) : Prop where
  /-- There is a setting under a key if one is found in the tree and its scope is available. -/
  isSome_iff : ∀ key, (snapshot.get? key).isSome ↔
    key.name ≠ "" ∧ site.store.scopeAvailable key.scope ∧ (site.tree.find? key).isSome
  /-- It is the first that is declared with the key, with the stored value or else its default. -/
  shows : ∀ key live, snapshot.get? key = some live →
    ∃ declared, site.tree.find? key = some declared ∧ site.Shows declared live
  /-- The settings that are listed are those that are found by their keys. -/
  mem_iff : ∀ live, live ∈ snapshot.inOrder ↔ snapshot.get? live.key = some live
  nodup : (snapshot.inOrder.map Descriptor.key).Nodup
  /-- The scopes come in the order of their first available settings, and the settings of a scope in the
  order in which they are declared. -/
  keys_eq : snapshot.inOrder.map Descriptor.key =
    (site.available.map Key.scope).eraseDups.flatMap fun scope =>
      site.available.filter fun key => key.scope = scope

/-- The snapshot of a site, taken on a walk over the tree, exists if the variables of the settings that are
offered can be read, and then it holds the settings that a lookup in the tree finds. -/
theorem ofSite_surveys (site : Site) :
    Snapshot.ofSite site = walk site site.tree .empty ∧
      ((∃ snapshot, Snapshot.ofSite site = .ok snapshot) ↔ site.Legible) ∧
        ∀ snapshot, Snapshot.ofSite site = .ok snapshot → Surveys site snapshot := by
  refine ⟨ofSite_eq_walk site, Site.exists_ofSite_iff, fun snapshot h => ?_⟩
  exact {
    isSome_iff := by
      intro key
      rw [← and_assoc, ← Site.offers_iff, Option.isSome_iff_exists, Option.isSome_iff_exists]
      constructor
      · rintro ⟨live, hlive⟩
        obtain ⟨declared, hdeclared, -⟩ := read_of_get h hlive
        obtain ⟨hoffers, hfound⟩ := Site.offered_eq_some.1 hdeclared
        exact ⟨hoffers, declared, hfound⟩
      · rintro ⟨hoffers, declared, hfound⟩
        obtain ⟨live, -, hlive⟩ :=
          exists_read_of_ofSite h (Site.offered_eq_some.2 ⟨hoffers, hfound⟩)
        exact ⟨live, hlive⟩
    shows := by
      intro key live hlive
      obtain ⟨declared, hdeclared, hread⟩ := read_of_get h hlive
      exact ⟨declared, (Site.offered_eq_some.1 hdeclared).2, Site.shows_of_read hread⟩
    mem_iff := fun live => mem_inOrder h
    nodup := nodup_inOrder h
    keys_eq := keys_inOrder h }

end Snapshot

namespace SmallSite

/-- One available setting whose stored text cannot be decrypted, and there is no snapshot at all. -/
theorem undecryptable_unsurveyed :
    password.name ≠ "" ∧ (passworded (.plain "secret")).site.store.scopeAvailable password.scope ∧
      ((passworded (.plain "secret")).site.tree.find? password).isSome ∧
        notice.name ≠ "" ∧ (passworded (.plain "secret")).site.store.scopeAvailable notice.scope ∧
          ((passworded (.plain "secret")).site.tree.find? notice).isSome ∧
            Snapshot.ofSite (passworded (.plain "secret")).site = .error (.undecryptable "password") := by
  refine ⟨by decide, by decide, by decide, by decide, by decide, by decide, rfl⟩

end SmallSite

end SitePresets
