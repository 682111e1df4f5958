import Mathlib.Data.List.Forall2
import Mathlib.Data.List.Nodup
import SitePresets.Grouping

/-!
# Stable grouping, twice

Grouping loses nothing, goes well with what leaves the keys alone, and changes nothing the second time.
-/

namespace SitePresets.Grouping

variable {α κ : Type} [DecidableEq κ] {key : α → κ} {items : List α} {ks : List κ} {k : κ}

theorem nodup_eraseDups (ks : List κ) : ks.eraseDups.Nodup := by
  match ks with
  | [] => exact List.nodup_nil
  | k :: rest =>
    have hrest := nodup_eraseDups (rest.filter fun other => !other == k)
    rw [List.eraseDups_cons, List.nodup_cons]
    exact ⟨by simp [List.mem_eraseDups], hrest⟩
termination_by ks.length
decreasing_by exact Nat.lt_succ_of_le (List.length_filter_le _ rest)

theorem mem_keys : k ∈ keys key items ↔ ∃ item ∈ items, key item = k := by
  simp [keys, List.mem_eraseDups]

theorem mem_grouped {item : α} : item ∈ grouped key items ↔ item ∈ items := by
  simp only [grouped, List.mem_flatMap, mem_members, mem_keys]
  constructor
  · rintro ⟨k, -, hitem, -⟩
    exact hitem
  · intro hitem
    exact ⟨key item, ⟨item, hitem, rfl⟩, hitem, rfl⟩

/-- Members that differ in some respect still do when they are grouped. -/
theorem nodup_grouped {β : Type} {f : α → β} (h : (items.map f).Nodup) :
    ((grouped key items).map f).Nodup := by
  have hpairwise := h
  rw [List.Nodup, List.pairwise_map] at hpairwise
  rw [List.Nodup, List.pairwise_map, grouped, List.pairwise_flatMap]
  refine ⟨fun k _ => hpairwise.filter _, (nodup_eraseDups _).imp fun hne item hitem other hother heq => ?_⟩
  obtain ⟨hmem, hkey⟩ := mem_members.1 hitem
  obtain ⟨hmem', hkey'⟩ := mem_members.1 hother
  have hsame := List.inj_on_of_nodup_map h hmem hmem' heq
  rw [hsame] at hkey
  exact hne (hkey.symm.trans hkey')

theorem grouped_map {β : Type} {f : α → β} {other : β → κ} (h : ∀ item, other (f item) = key item)
    (items : List α) : grouped other (items.map f) = (grouped key items).map f := by
  have hkeys : keys other (items.map f) = keys key items := by
    simp [keys, Function.comp_def, h]
  have hmembers : members other (items.map f) = fun k => (members key items k).map f := by
    funext k
    simp [members, List.filter_map, Function.comp_def, h]
  rw [grouped, hkeys, hmembers, grouped, List.map_flatMap]

/-- Related items with the same keys are grouped alike. -/
theorem forall₂_grouped {R : α → α → Prop} {others : List α} (hkey : ∀ a b, R a b → key b = key a)
    (h : List.Forall₂ R items others) : List.Forall₂ R (grouped key items) (grouped key others) := by
  have hkeys : keys key others = keys key items := by
    unfold keys
    congr 1
    induction h with
    | nil => rfl
    | cons hab _ ih => rw [List.map_cons, List.map_cons, hkey _ _ hab, ih]
  have hmembers (k : κ) : List.Forall₂ R (members key items k) (members key others k) :=
    List.rel_filter (fun a b hab => by dsimp only; rw [hkey a b hab]) h
  unfold grouped
  rw [hkeys]
  induction keys key items with
  | nil => exact .nil
  | cons k rest ih =>
    rw [List.flatMap_cons, List.flatMap_cons]
    exact List.rel_append (hmembers k) ih

theorem mem_groups {group : κ × List α} (h : group ∈ groups key items) :
    (∃ item ∈ items, key item = group.1) ∧ group.2 = members key items group.1 := by
  obtain ⟨k, hk, rfl⟩ := List.mem_map.1 h
  exact ⟨mem_keys.1 hk, rfl⟩

/-- What is made of the members of each group, one by one, is made of all members in groups. -/
theorem flatMap_groups {β : Type} {f : α → β} {g : κ × List α → List β}
    (h : ∀ group ∈ groups key items, g group = group.2.map f) :
    (groups key items).flatMap g = (grouped key items).map f := by
  rw [List.flatMap_congr h, groups, List.flatMap_map, grouped, List.map_flatMap]

/-! ### Blocks -/

/-- A block of members with one key, before members with other keys. -/
theorem keys_append {first rest : List α} (hne : first ≠ []) (hfirst : ∀ item ∈ first, key item = k)
    (hrest : ∀ item ∈ rest, key item ≠ k) : keys key (first ++ rest) = k :: keys key rest := by
  have hkeep : (rest.map key).filter (fun other => !other == k) = rest.map key :=
    List.filter_eq_self.2 fun other hmem => by
      obtain ⟨item, hitem, rfl⟩ := List.mem_map.1 hmem
      simpa using hrest item hitem
  obtain ⟨item, others, rfl⟩ := List.exists_cons_of_ne_nil hne
  have hitem : key item = k := hfirst item List.mem_cons_self
  have hdrop : (others.map key).filter (fun other => !other == k) = [] := by
    simpa using fun other hmem => hfirst other (List.mem_cons_of_mem _ hmem)
  rw [keys, List.cons_append, List.map_cons, List.map_append, List.eraseDups_cons, hitem,
    List.filter_append, hdrop, hkeep, List.nil_append, keys]

/-- Such a block stays where it is. -/
theorem grouped_append {first rest : List α} (hfirst : ∀ item ∈ first, key item = k)
    (hrest : ∀ item ∈ rest, key item ≠ k) :
    grouped key (first ++ rest) = first ++ grouped key rest := by
  by_cases hne : first = []
  · rw [hne]
    rfl
  have hblock : members key (first ++ rest) k = first := by
    have hkeep : members key first k = first :=
      List.filter_eq_self.2 fun item hitem => decide_eq_true (hfirst item hitem)
    have hdrop : members key rest k = [] :=
      List.filter_eq_nil_iff.2 fun item hitem => by simpa using hrest item hitem
    have happend : members key (first ++ rest) k = members key first k ++ members key rest k :=
      List.filter_append _ _
    rw [happend, hkeep, hdrop, List.append_nil]
  have hothers : ∀ other ∈ keys key rest,
      members key (first ++ rest) other = members key rest other := by
    intro other hother
    obtain ⟨item, hitem, rfl⟩ := mem_keys.1 hother
    have hdrop : members key first (key item) = [] :=
      List.filter_eq_nil_iff.2 fun member hmember heq =>
        hrest item hitem ((of_decide_eq_true heq).symm.trans (hfirst member hmember))
    have happend : members key (first ++ rest) (key item) =
        members key first (key item) ++ members key rest (key item) := List.filter_append _ _
    rw [happend, hdrop, List.nil_append]
  rw [grouped, keys_append hne hfirst hrest, List.flatMap_cons, hblock, List.flatMap_congr hothers,
    grouped]

/-- What comes in blocks, one for each key, is grouped. -/
theorem grouped_flatMap {block : κ → List α} (hnodup : ks.Nodup)
    (hblock : ∀ k, ∀ item ∈ block k, key item = k) :
    grouped key (ks.flatMap block) = ks.flatMap block := by
  induction ks with
  | nil => rfl
  | cons k rest ih =>
    obtain ⟨hk, hrest⟩ := List.nodup_cons.1 hnodup
    have hapart : ∀ item ∈ rest.flatMap block, key item ≠ k := by
      intro item hitem heq
      obtain ⟨other, hother, hmem⟩ := List.mem_flatMap.1 hitem
      exact hk (heq.symm.trans (hblock other item hmem) ▸ hother)
    rw [List.flatMap_cons, grouped_append (hblock k) hapart, ih hrest]

@[simp]
theorem grouped_grouped (key : α → κ) (items : List α) :
    grouped key (grouped key items) = grouped key items :=
  grouped_flatMap (nodup_eraseDups _) fun _ _ hitem => (mem_members.1 hitem).2

/-- Groups stay groups when members are left out. -/
theorem grouped_filter_grouped (test : α → Bool) (items : List α) :
    grouped key ((grouped key items).filter test) = (grouped key items).filter test := by
  have hblocks : (grouped key items).filter test =
      (keys key items).flatMap fun k => (members key items k).filter test := List.filter_flatMap
  rw [hblocks]
  exact grouped_flatMap (nodup_eraseDups _) fun _ _ hitem =>
    (mem_members.1 (List.mem_filter.1 hitem).1).2

end SitePresets.Grouping
