import SitePresets.Proofs.Descriptor.Alike
import SitePresets.Proofs.Site.Writing

/-!
# What persists of a site

Operations on values and plugins leave a site its tree and its kinds of settings, and what could be read
still can be. While the plugins are in the same states, the same settings are offered, and each has the
same choices.
-/

namespace SitePresets

namespace Site

variable {site middle after : Site} {declared : Declaration} {live now : Descriptor}
  {snapshot later : Snapshot} {key : Key}

/-- A site later on. -/
structure Persists (site after : Site) : Prop where
  tree_eq : after.tree = site.tree
  chain_eq : after.chain = site.chain
  staysReadable : site.store.StaysReadable after.store

namespace Persists

theorem refl (site : Site) : site.Persists site :=
  ⟨rfl, rfl, fun _ => id⟩

theorem trans (h : site.Persists middle) (h' : middle.Persists after) : site.Persists after where
  tree_eq := h'.tree_eq.trans h.tree_eq
  chain_eq := h'.chain_eq.trans h.chain_eq
  staysReadable key hread := h'.staysReadable key (h.staysReadable key hread)

theorem exists_read (h : site.Persists after) (hread : site.read declared = .ok live) :
    ∃ now, after.read declared = .ok now := by
  have hshows := shows_of_read hread
  obtain ⟨stored, hstored, -⟩ := hshows.raw_eq
  refine Site.exists_read (h.staysReadable _ ⟨stored, hstored⟩) fun facet hfacet => ?_
  rw [h.chain_eq, ← hshows.kind_eq] at hfacet
  obtain ⟨stored, hstored, -⟩ := hshows.facet_eq facet hfacet
  rw [← hshows.declared_eq]
  exact h.staysReadable _ ⟨stored, hstored⟩

theorem exists_ofSite (h : site.Persists after) (hplugins : site.store.SamePlugins after.store)
    (hsnapshot : Snapshot.ofSite site = .ok snapshot) :
    ∃ later, Snapshot.ofSite after = .ok later := by
  refine Snapshot.exists_ofSite fun key declared hoffered => ?_
  rw [offered_eq h.tree_eq hplugins] at hoffered
  obtain ⟨live, hread, -⟩ := Snapshot.exists_read_of_ofSite hsnapshot hoffered
  exact h.exists_read hread

/-- Plugins of a type in another order are the same choices. -/
theorem isChoice_choicesOf (hplugins : site.store.SamePlugins after.store) (kind : Kind)
    (declared : Declaration) (family : Family) (numeric : Option String) :
    (⟨family, numeric, choicesOf after.store kind declared⟩ : ValueRule).isChoice =
      (⟨family, numeric, choicesOf site.store kind declared⟩ : ValueRule).isChoice := by
  rcases choicesOf_cases kind declared with hsame | ⟨-, type, -, hhandlers⟩
  · rw [hsame site.store after.store]
  · funext text
    rw [isChoice_handlers (hhandlers after.store), isChoice_handlers (hhandlers site.store)]
    exact decide_eq_decide.2 (hplugins.handlersOf_perm type).mem_iff

theorem alike (h : site.Persists after) (hplugins : site.store.SamePlugins after.store)
    (hlive : site.Shows declared live) (hnow : after.Shows declared now) : live.Alike now := by
  have hdeclared : now.declared = live.declared := hnow.declared_eq.trans hlive.declared_eq.symm
  have hkind : now.kind = live.kind := by
    rw [hnow.kind_eq, hlive.kind_eq, h.chain_eq]
  refine ⟨hdeclared, hkind, ?_⟩
  unfold Descriptor.rule
  rw [hnow.choices_eq, hlive.choices_eq, hkind, hdeclared]
  exact isChoice_choicesOf hplugins _ _ _ _

/-- Every setting of the site is there later on. -/
theorem exists_alike (h : site.Persists after) (hplugins : site.store.SamePlugins after.store)
    (hsnapshot : Snapshot.ofSite site = .ok snapshot) (hlater : Snapshot.ofSite after = .ok later)
    (hlive : snapshot.get? key = some live) :
    ∃ now, later.get? key = some now ∧ after.Shows live.declared now ∧ live.Alike now := by
  obtain ⟨declared, hoffered, hread⟩ := Snapshot.read_of_get hsnapshot hlive
  obtain ⟨now, hnow⟩ := h.exists_read hread
  have hlookup := Snapshot.lookup_eq_get hlater key
  rw [lookup_eq_some.2 ⟨declared, (offered_eq h.tree_eq hplugins key).trans hoffered, hnow⟩] at hlookup
  have hlive := shows_of_read hread
  have hshows := shows_of_read hnow
  refine ⟨now, (Except.ok.inj hlookup).symm, ?_, h.alike hplugins hlive hshows⟩
  rw [hlive.declared_eq]
  exact hshows

end Persists

end Site

end SitePresets
