import Mathlib.Data.List.Perm.Subperm
import SitePresets.Proofs.Site.Surveying
import SitePresets.Proofs.Tree.Placing

/-!
# What the tree of settings of a site shows

The snapshot of a site takes the first of two declarations with one key, and the tree of settings shows both.
So the tree shows every setting of the snapshot, and each once exactly if no setting that is available is
declared twice.
-/

namespace SitePresets

/-- The keys of the settings that are offered, as often as they are declared. -/
def Site.declaredKeys (site : Site) : List Key :=
  (site.tree.declarations.map Declaration.key).filter site.offers

namespace Snapshot

variable {site : Site} {snapshot : Snapshot} {live : Descriptor} {declared : Declaration}

theorem mem_pick {declarations : List Declaration} :
    live ∈ snapshot.pick declarations ↔
      ∃ declared ∈ declarations, snapshot.get? declared.key = some live :=
  List.mem_filterMap

theorem isSome_get_of_mem (h : Snapshot.ofSite site = .ok snapshot)
    (hdeclared : declared ∈ site.tree.declarations) :
    (snapshot.get? declared.key).isSome = site.offers declared.key := by
  cases hoffers : site.offers declared.key with
  | true =>
    obtain ⟨found, hfound⟩ : ∃ found, site.tree.find? declared.key = some found :=
      Option.isSome_iff_exists.1 (List.find?_isSome.2 ⟨declared, hdeclared, decide_eq_true rfl⟩)
    obtain ⟨live, -, hlive⟩ := exists_read_of_ofSite h (Site.offered_eq_some.2 ⟨hoffers, hfound⟩)
    rw [hlive]
    rfl
  | false =>
    cases hlive : snapshot.get? declared.key with
    | none => rfl
    | some live =>
      obtain ⟨found, hfound, -⟩ := read_of_get h hlive
      exact nomatch hoffers.symm.trans (Site.offered_eq_some.1 hfound).1

theorem map_key_pick (h : Snapshot.ofSite site = .ok snapshot) :
    (snapshot.pick site.tree.declarations).map Descriptor.key = site.declaredKeys := by
  have hkey (declared : Declaration) (hdeclared : declared ∈ site.tree.declarations) :
      (snapshot.get? declared.key).map Descriptor.key = Option.guard site.offers declared.key := by
    have hsome := isSome_get_of_mem h hdeclared
    unfold Option.guard
    rw [← hsome]
    cases hlive : snapshot.get? declared.key with
    | none => rfl
    | some live => exact congrArg some (Apply.declared_of_get h hlive).2
  calc (snapshot.pick site.tree.declarations).map Descriptor.key
    _ = site.tree.declarations.filterMap fun declared => (snapshot.get? declared.key).map Descriptor.key :=
      List.map_filterMap
    _ = site.tree.declarations.filterMap fun declared => Option.guard site.offers declared.key :=
      List.filterMap_congr hkey
    _ = (site.tree.declarations.map Declaration.key).filterMap (Option.guard site.offers) := by
      rw [List.filterMap_map]
      rfl
    _ = site.declaredKeys := by
      rw [List.filterMap_eq_filter]
      rfl

/-- The settings that are declared and picked are those of the snapshot. -/
theorem mem_pick_iff (h : Snapshot.ofSite site = .ok snapshot) :
    live ∈ snapshot.pick site.tree.declarations ↔ live ∈ snapshot.inOrder := by
  rw [mem_pick, mem_inOrder h]
  constructor
  · rintro ⟨declared, -, hlive⟩
    rw [(Apply.declared_of_get h hlive).2]
    exact hlive
  · intro hlive
    exact ⟨live.declared, (Apply.declared_of_get h hlive).1, hlive⟩

theorem perm_pick_iff (h : Snapshot.ofSite site = .ok snapshot) :
    (snapshot.pick site.tree.declarations).Perm snapshot.inOrder ↔ site.declaredKeys.Nodup := by
  rw [← map_key_pick h]
  constructor
  · intro hperm
    exact (hperm.map Descriptor.key).nodup_iff.2 (nodup_inOrder h)
  · intro hnodup
    exact (List.perm_ext_iff_of_nodup hnodup.of_map (nodup_inOrder h).of_map).2 fun _ => mem_pick_iff h

/-- Every setting is picked, so as many are only if none is picked twice. -/
theorem length_pick_iff (h : Snapshot.ofSite site = .ok snapshot) :
    (snapshot.pick site.tree.declarations).length = snapshot.inOrder.length ↔
      site.declaredKeys.Nodup := by
  rw [← perm_pick_iff h]
  constructor
  · intro hlength
    have hsubperm : snapshot.inOrder.Subperm (snapshot.pick site.tree.declarations) :=
      List.subperm_of_subset (nodup_inOrder h).of_map fun _ hlive => (mem_pick_iff h).2 hlive
    exact (hsubperm.perm_of_length_le (Nat.le_of_eq hlength)).symm
  · exact List.Perm.length_eq

end Snapshot

open TreeNode

/-- Nodes that show the settings of a site wherever these are declared. -/
structure Displays (site : Site) (snapshot : Snapshot) (nodes : List TreeNode) : Prop where
  /-- There is a leaf for each declaration of a setting that is available, in declared order. -/
  keys_eq : (leavesBelow nodes).map Descriptor.key = site.declaredKeys
  /-- It shows what the snapshot has under the key, so the first of two declarations twice. -/
  get_eq : ∀ live ∈ leavesBelow nodes, snapshot.get? live.key = some live
  /-- The first leaves of all settings are those of the snapshot, in its order. -/
  first_eq : ((leavesBelow nodes).map Descriptor.key).eraseDups = snapshot.keys
  mem_iff : ∀ live, live ∈ leavesBelow nodes ↔ live ∈ snapshot.inOrder
  perm_iff : (leavesBelow nodes).Perm snapshot.inOrder ↔ site.declaredKeys.Nodup
  count_iff : countOf nodes = snapshot.inOrder.length ↔ site.declaredKeys.Nodup

/-- The tree of settings of a site shows every setting of its snapshot, and each once exactly if none that is
available is declared twice. -/
theorem Site.build_displays {site : Site} {snapshot : Snapshot}
    (h : Snapshot.ofSite site = .ok snapshot) :
    Displays site snapshot (build site.tree snapshot) := by
  have hleaves := leavesBelow_build site.tree snapshot
  exact {
    keys_eq := by
      rw [hleaves]
      exact Snapshot.map_key_pick h
    get_eq := by
      intro live hlive
      rw [hleaves, Snapshot.mem_pick_iff h] at hlive
      exact (Snapshot.mem_inOrder h).1 hlive
    first_eq := by
      rw [hleaves, Snapshot.map_key_pick h, Snapshot.keys_ofSite h]
      rfl
    mem_iff := by
      intro live
      rw [hleaves]
      exact Snapshot.mem_pick_iff h
    perm_iff := by
      rw [hleaves]
      exact Snapshot.perm_pick_iff h
    count_iff := by
      rw [countOf_eq_length, hleaves]
      exact Snapshot.length_pick_iff h }

namespace SmallSite

/-- The small site with a second page, where the notice is declared again. -/
def repeated : Site where
  store := service.site.store
  tree := .category "root" "" [tree, .page "back" "" [.setting { name := "notice", visibleName := "News" }]]

theorem repeated_displays : ∃ snapshot, Snapshot.ofSite repeated = .ok snapshot ∧
    Displays repeated snapshot (build repeated.tree snapshot) := by
  obtain ⟨snapshot, hsnapshot⟩ : ∃ snapshot, Snapshot.ofSite repeated = .ok snapshot :=
    Snapshot.exists_ofSite fun _ _ _ => Site.exists_read ⟨_, rfl⟩ fun _ _ => ⟨_, rfl⟩
  exact ⟨snapshot, hsnapshot, Site.build_displays hsnapshot⟩

/-- The snapshot has two settings, and the tree shows one of them twice. -/
theorem notice_displayed_twice :
    (Snapshot.ofSite repeated).map (fun snapshot => snapshot.inOrder.map Descriptor.key) =
        .ok [notice, comments] ∧
      (Snapshot.ofSite repeated).map (fun snapshot =>
          (leavesBelow (build repeated.tree snapshot)).map Descriptor.key) =
        .ok [notice, comments, notice] ∧
      (Snapshot.ofSite repeated).map (fun snapshot => countOf (build repeated.tree snapshot)) = .ok 3 := by
  decide +kernel

end SmallSite

end SitePresets
