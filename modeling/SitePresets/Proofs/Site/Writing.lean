import SitePresets.Proofs.Site.Reading
import SitePresets.Proofs.Store.Plugins

/-!
# Writing to a site

What writes make of a site. A list of changes says it all: which keys were written and what they hold
now, what they held before, and which numbers the log gave them.
-/

namespace SitePresets

namespace Site

theorem offered_eq {site after : Site} (htree : after.tree = site.tree)
    (hplugins : site.store.SamePlugins after.store) (key : Key) :
    after.offered? key = site.offered? key := by
  unfold offered? offers
  rw [htree, hplugins.scopeAvailable_eq]

/-- Two sites that differ at most in their values, their logs and what is visible. -/
structure Keeps (site after : Site) : Prop where
  tree_eq : after.tree = site.tree
  chain_eq : after.chain = site.chain
  readOnly_eq : after.readOnly = site.readOnly
  pinned_eq : after.pinned = site.pinned
  pluginTable_eq : after.store.pluginTable = site.store.pluginTable
  pluginsOf_eq : ∀ type, after.store.pluginsOf type = site.store.pluginsOf type
  holds_eq : after.store.holds = site.store.holds

namespace Keeps

variable {site middle after : Site}

theorem refl (site : Site) : site.Keeps site :=
  ⟨rfl, rfl, rfl, rfl, rfl, fun _ => rfl, rfl⟩

theorem trans (h : site.Keeps middle) (h' : middle.Keeps after) : site.Keeps after where
  tree_eq := h'.tree_eq.trans h.tree_eq
  chain_eq := h'.chain_eq.trans h.chain_eq
  readOnly_eq := h'.readOnly_eq.trans h.readOnly_eq
  pinned_eq := h'.pinned_eq.trans h.pinned_eq
  pluginTable_eq := h'.pluginTable_eq.trans h.pluginTable_eq
  pluginsOf_eq type := (h'.pluginsOf_eq type).trans (h.pluginsOf_eq type)
  holds_eq := h'.holds_eq.trans h.holds_eq

theorem plugin_eq (h : site.Keeps after) (plugin : Plugin) :
    after.store.plugin? plugin = site.store.plugin? plugin :=
  congrArg (fun table => Table.get? table plugin) h.pluginTable_eq

theorem accepts_eq (h : site.Keeps after) (user : Option Int) :
    after.store.accepts user = site.store.accepts user := by
  unfold Store.accepts
  rw [h.holds_eq]

theorem samePlugins (h : site.Keeps after) : site.store.SamePlugins after.store where
  plugin_eq := h.plugin_eq
  pluginsOf_perm type := h.pluginsOf_eq type ▸ .refl _

theorem sameState (h : site.Keeps after) (plugin : Plugin) : site.SameState after plugin :=
  ⟨h.plugin_eq plugin, h.pinned_eq, h.holds_eq⟩

theorem offered_eq (h : site.Keeps after) (key : Key) : after.offered? key = site.offered? key :=
  Site.offered_eq h.tree_eq h.samePlugins key

theorem choicesOf_eq (h : site.Keeps after) (kind : Kind) (declared : Declaration) :
    choicesOf after.store kind declared = choicesOf site.store kind declared := by
  unfold choicesOf Store.handlersOf
  simp only [h.pluginsOf_eq]

end Keeps

/-- What one change makes of a site. -/
structure Wrote (site : Site) (change : Change) (after : Site) : Prop where
  store : site.store.Wrote change.key change.new change after.store
  keeps : site.Keeps after

/-- What changes make of a site that are made one after another. -/
inductive WroteAll : Site → List Change → Site → Prop
  | nil {site : Site} : WroteAll site [] site
  | cons {site middle after : Site} {change : Change} {rest : List Change} :
    site.Wrote change middle → WroteAll middle rest after → WroteAll site (change :: rest) after

variable {site middle after : Site} {change : Change} {changes more : List Change} {key : Key}

namespace Wrote

theorem get_self (h : site.Wrote change after) : after.store.get change.key = .ok change.new := by
  rw [h.store.get_eq, if_pos rfl]

theorem get_of_ne (h : site.Wrote change after) (hkey : key ≠ change.key) :
    after.store.get key = site.store.get key := by
  rw [h.store.get_eq, if_neg hkey]

theorem staysReadable (h : site.Wrote change after) : site.store.StaysReadable after.store := by
  intro key hkey
  rw [h.store.get_eq]
  split
  · exact ⟨_, rfl⟩
  · exact hkey

end Wrote

namespace WroteAll

theorem append (h : site.WroteAll changes middle) (h' : middle.WroteAll more after) :
    site.WroteAll (changes ++ more) after := by
  induction h with
  | nil => exact h'
  | cons hchange _ ih => exact .cons hchange (ih h')

theorem of_wrote (h : site.Wrote change after) : site.WroteAll [change] after :=
  .cons h .nil

theorem eq_of_nil (h : site.WroteAll [] after) : after = site := by
  cases h
  rfl

theorem keeps (h : site.WroteAll changes after) : site.Keeps after := by
  induction h with
  | nil => exact .refl _
  | cons hchange _ ih => exact hchange.keeps.trans ih

theorem get_of_not_mem (h : site.WroteAll changes after) (hkey : key ∉ changes.map Change.key) :
    after.store.get key = site.store.get key := by
  induction h with
  | nil => rfl
  | cons hchange _ ih =>
    rw [List.map_cons, List.mem_cons, not_or] at hkey
    rw [ih hkey.2, hchange.get_of_ne hkey.1]

/-- After changes a key holds what it did, or what one of them made it hold. -/
theorem get_cases (h : site.WroteAll changes after) (key : Key) :
    after.store.get key = site.store.get key ∨
      ∃ change ∈ changes, change.key = key ∧ after.store.get key = .ok change.new := by
  -- The last change to the key counts, so the rest of the changes is asked first.
  induction h with
  | nil => exact .inl rfl
  | @cons site middle after change rest hchange _ ih =>
    rcases ih with hsame | ⟨later, hlater, hkey, hget⟩
    · by_cases hkey : change.key = key
      · subst hkey
        exact .inr ⟨change, List.mem_cons_self, rfl, hsame.trans hchange.get_self⟩
      · exact .inl (hsame.trans (hchange.get_of_ne (Ne.symm hkey)))
    · exact .inr ⟨later, List.mem_cons_of_mem _ hlater, hkey, hget⟩

/-- Keys that are written only once hold what was written. -/
theorem get_of_mem (h : site.WroteAll changes after) (hnodup : (changes.map Change.key).Nodup)
    (hmem : change ∈ changes) : after.store.get change.key = .ok change.new := by
  induction h with
  | nil => cases hmem
  | cons hchange hrest ih =>
    rw [List.map_cons, List.nodup_cons] at hnodup
    rcases List.mem_cons.1 hmem with rfl | hmem
    · rw [hrest.get_of_not_mem hnodup.1, hchange.get_self]
    · exact ih hnodup.2 hmem

/-- Their changes recorded what the keys held at the start. -/
theorem old_of_mem (h : site.WroteAll changes after) (hnodup : (changes.map Change.key).Nodup)
    (hmem : change ∈ changes) : site.store.get change.key = .ok change.old := by
  induction h with
  | nil => cases hmem
  | cons hchange hrest ih =>
    rw [List.map_cons, List.nodup_cons] at hnodup
    rcases List.mem_cons.1 hmem with rfl | hmem
    · exact hchange.store.old_eq
    · rw [← ih hnodup.2 hmem, hchange.get_of_ne]
      rintro heq
      exact hnodup.1 (heq ▸ List.mem_map_of_mem hmem)

theorem staysReadable (h : site.WroteAll changes after) :
    site.store.StaysReadable after.store := by
  intro key hkey
  induction h with
  | nil => exact hkey
  | cons hchange _ ih => exact ih (hchange.staysReadable key hkey)

theorem changes_eq (h : site.WroteAll changes after) :
    after.store.changes = site.store.changes ++ changes.map .ok := by
  induction h with
  | nil => simp
  | cons hchange _ ih => rw [ih, hchange.store.changes_eq, List.append_assoc]; rfl

theorem nextChangeId_eq (h : site.WroteAll changes after) :
    after.store.nextChangeId = site.store.nextChangeId + changes.length := by
  induction h with
  | nil => rfl
  | cons hchange _ ih =>
    rw [ih, hchange.store.nextChangeId_eq, List.length_cons]
    omega

theorem ids_eq (h : site.WroteAll changes after) :
    changes.map Change.id = List.range' site.store.nextChangeId changes.length := by
  induction h with
  | nil => rfl
  | cons hchange _ ih =>
    rw [List.map_cons, ih, hchange.store.id_eq, hchange.store.nextChangeId_eq]
    rfl

theorem id_of_mem (h : site.WroteAll changes after) (hmem : change ∈ changes) :
    site.store.nextChangeId ≤ change.id ∧ change.id < after.store.nextChangeId := by
  have hid : change.id ∈ changes.map Change.id := List.mem_map_of_mem hmem
  rw [h.ids_eq, List.mem_range'_1] at hid
  rw [h.nextChangeId_eq]
  exact hid

theorem change_of_lt (h : site.WroteAll changes after) {id : Nat}
    (hid : id < site.store.nextChangeId) : after.store.change? id = site.store.change? id := by
  induction h with
  | nil => rfl
  | cons hchange _ ih =>
    rw [ih, hchange.store.change_of_lt id hid]
    rw [hchange.store.nextChangeId_eq]
    omega

theorem change_of_mem (h : site.WroteAll changes after) (hmem : change ∈ changes)
    (hholds : site.store.holds change.id) :
    after.store.change? change.id = .ok (some change) := by
  induction h with
  | nil => cases hmem
  | cons hchange hrest ih =>
    rcases List.mem_cons.1 hmem with rfl | hmem
    · rw [hrest.change_of_lt, hchange.store.change_self hholds]
      rw [hchange.store.nextChangeId_eq, hchange.store.id_eq]
      exact Nat.lt_succ_self _
    · refine ih hmem ?_
      rwa [hchange.keeps.holds_eq]

end WroteAll

/-! ### Operations -/

variable {value : Option String} {user : Option Int} {live : Descriptor} {facet : Facet}

theorem wrote_of_set (h : site.set key value user = .ok (change, after)) :
    site.Wrote change after ∧ change.key = key ∧ change.new = value := by
  unfold set at h
  split at h
  · cases h
  · obtain ⟨⟨written, store⟩, hset, h⟩ := bind_eq_ok.1 h
    obtain ⟨rfl, rfl⟩ := Prod.mk.inj (Except.ok.inj h)
    have hwrote := Store.wrote_of_set hset
    obtain rfl := hwrote.key_eq
    obtain rfl := hwrote.new_eq
    exact ⟨⟨hwrote, ⟨rfl, rfl, rfl, rfl, hwrote.pluginTable_eq, hwrote.pluginsOf_eq,
      hwrote.holds_eq⟩⟩, rfl, rfl⟩

theorem accepts_of_set (h : site.set key value user = .ok (change, after)) :
    key ∉ site.readOnly ∧ site.store.accepts user := by
  unfold set at h
  split at h
  · cases h
  · rename_i hkey
    obtain ⟨⟨written, store⟩, hset, -⟩ := bind_eq_ok.1 h
    exact ⟨hkey, Store.accepts_of_set hset⟩

/-- A key can be written that is not protected, if its value can be read. -/
theorem exists_set (hkey : key ∉ site.readOnly) (hold : ∃ old, site.store.get key = .ok old)
    (huser : site.store.accepts user) (value : Option String) :
    ∃ change after, site.set key value user = .ok (change, after) := by
  obtain ⟨old, hold⟩ := hold
  obtain ⟨change, store, hset⟩ := Store.exists_set hold huser value
  refine ⟨change, { site with store }, ?_⟩
  unfold set
  rw [if_neg hkey, hset]
  rfl

/-- Writing a value is setting its key, except for what is visible. -/
theorem write_eq_ok (h : site.write live value user = .ok (change, after)) :
    ∃ middle, site.set live.key value user = .ok (change, middle) ∧
      (after = middle ∨ ∃ visible,
        after = { middle with store := middle.store.setVisible blogMenu visible }) := by
  obtain ⟨⟨written, middle⟩, hset, h⟩ := bind_eq_ok.1 h
  dsimp only at h
  split at h
  all_goals obtain ⟨rfl, rfl⟩ := Prod.mk.inj (Except.ok.inj h)
  · exact ⟨middle, hset, .inr ⟨_, rfl⟩⟩
  · exact ⟨middle, hset, .inl rfl⟩

theorem exists_write (h : ∃ change after, site.set live.key value user = .ok (change, after)) :
    ∃ change after, site.write live value user = .ok (change, after) := by
  obtain ⟨change, middle, hset⟩ := h
  unfold write
  rw [hset, ok_bind]
  dsimp only
  split
  · exact ⟨_, _, rfl⟩
  · exact ⟨_, _, rfl⟩

theorem wrote_of_write (h : site.write live value user = .ok (change, after)) :
    site.Wrote change after ∧ change.key = live.key ∧ change.new = value := by
  obtain ⟨middle, hset, hafter⟩ := write_eq_ok h
  obtain ⟨hwrote, hkey, hnew⟩ := wrote_of_set hset
  refine ⟨?_, hkey, hnew⟩
  rcases hafter with rfl | ⟨visible, rfl⟩
  · exact hwrote
  · exact ⟨hwrote.store.setVisible blogMenu visible, hwrote.keeps.trans
      ⟨rfl, rfl, rfl, rfl, Store.pluginTable_setVisible .., Store.pluginsOf_setVisible _ _ _,
        Store.holds_setVisible ..⟩⟩

end Site

end SitePresets
