import SitePresets.Proofs.Descriptor.Cleaning
import SitePresets.Proofs.Site.Writing

/-!
# Switching plugins

Plugins decide which settings are available, and among which handlers a setting chooses. When some are
switched, a setting that stays available is as it was but for its choices; one becomes available only if
its scope does, and has other choices only if it chooses among handlers.
-/

namespace SitePresets

/-- The same setting with other choices. -/
def Descriptor.withChoices (d : Descriptor) (choices : Option (List (String × String))) : Descriptor :=
  { d with choices }

namespace Site

variable {site after : Site} {declared : Declaration} {live now : Descriptor} {snapshot later : Snapshot}
  {key : Key}

namespace Switches

theorem read_eq (h : site.Switches after) (declared : Declaration) :
    after.read declared = (site.read declared).map fun live =>
      live.withChoices (choicesOf after.store live.kind declared) := by
  have hfacet : readFacet after.store declared = readFacet site.store declared := by
    funext facet
    unfold readFacet
    rw [h.values.get_eq]
  unfold read
  rw [h.chain_eq, h.values.get_eq, hfacet]
  cases site.store.get declared.key with
  | error refusal => rfl
  | ok stored =>
    dsimp only [ok_bind]
    cases (Resolver.kindOf site.chain declared).facets.mapM (readFacet site.store declared) <;> rfl

/-- A setting that is in both snapshots. -/
theorem now_eq (h : site.Switches after) (hsnapshot : Snapshot.ofSite site = .ok snapshot)
    (hlater : Snapshot.ofSite after = .ok later) (hlive : snapshot.get? key = some live)
    (hnow : later.get? key = some now) :
    now = live.withChoices (choicesOf after.store live.kind live.declared) := by
  obtain ⟨declared, hoffered, hread⟩ := Snapshot.read_of_get hsnapshot hlive
  obtain ⟨other, hother, hagain⟩ := Snapshot.read_of_get hlater hnow
  have hfound := (offered_eq_some.1 hother).2
  rw [h.tree_eq] at hfound
  obtain rfl := Option.some.inj ((offered_eq_some.1 hoffered).2.symm.trans hfound)
  rw [h.read_eq, hread] at hagain
  rw [(shows_of_read hread).declared_eq]
  exact (Except.ok.inj hagain).symm

/-- A setting that is in the second snapshot only. -/
theorem scopeAvailable_of_new (h : site.Switches after) (hsnapshot : Snapshot.ofSite site = .ok snapshot)
    (hlater : Snapshot.ofSite after = .ok later) (hlive : snapshot.get? key = none)
    (hnow : later.get? key = some now) :
    site.store.scopeAvailable key.scope = false ∧ after.store.scopeAvailable key.scope := by
  obtain ⟨declared, hoffered, -⟩ := Snapshot.read_of_get hlater hnow
  obtain ⟨hoffers, hfind⟩ := offered_eq_some.1 hoffered
  obtain ⟨hname, havailable⟩ := offers_iff.1 hoffers
  refine ⟨?_, havailable⟩
  rw [← Bool.not_eq_true]
  intro hbefore
  have hsame : site.offered? key = some declared :=
    offered_eq_some.2 ⟨offers_iff.2 ⟨hname, hbefore⟩, h.tree_eq ▸ hfind⟩
  obtain ⟨live, -, hget⟩ := Snapshot.exists_read_of_ofSite hsnapshot hsame
  rw [hlive] at hget
  cases hget

end Switches

end Site

end SitePresets
