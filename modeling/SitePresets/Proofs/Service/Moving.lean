import SitePresets.Proofs.Service.Operating
import SitePresets.Service.Step

/-!
# What operations change

What applies and rollbacks do to a site at most: what can be read still can be, the log keeps its
numbers, and a rollback adds no rows to a ledger.
-/

namespace SitePresets

def Store.Readable (store : Store) : Prop :=
  ∀ key, ∃ stored, store.get key = .ok stored

theorem Store.Readable.of_sameValues {store after : Store} (h : store.SameValues after)
    (hreadable : store.Readable) : after.Readable := by
  intro key
  rw [h.get_eq]
  exact hreadable key

namespace Site

/-- What an operation does to a site at most. -/
structure Moves (site after : Site) : Prop where
  later : site.store.Later after.store
  readable : site.store.Readable → after.store.Readable
  fit : site.store.StatesFit → after.store.StatesFit
  tree_eq : after.tree = site.tree
  readOnly_eq : after.readOnly = site.readOnly
  pinned_eq : after.pinned = site.pinned

namespace Moves

variable {site middle after : Site} {changes : List Change}

theorem refl (site : Site) : site.Moves site :=
  ⟨.refl _, id, id, rfl, rfl, rfl⟩

theorem trans (h : site.Moves middle) (h' : middle.Moves after) : site.Moves after where
  later := h.later.trans h'.later
  readable hreadable := h'.readable (h.readable hreadable)
  fit hfit := h'.fit (h.fit hfit)
  tree_eq := h'.tree_eq.trans h.tree_eq
  readOnly_eq := h'.readOnly_eq.trans h.readOnly_eq
  pinned_eq := h'.pinned_eq.trans h.pinned_eq

theorem of_wroteAll (h : site.WroteAll changes after) : site.Moves after where
  later := .of_wroteAll h
  readable hreadable key := h.staysReadable key (hreadable key)
  fit hfit plugin enabled hplugin := by
    rw [h.keeps.plugin_eq] at hplugin
    rw [h.keeps.holds_eq]
    exact hfit plugin enabled hplugin
  tree_eq := h.keeps.tree_eq
  readOnly_eq := h.keeps.readOnly_eq
  pinned_eq := h.keeps.pinned_eq

theorem of_switches (h : site.Switches after)
    (hfit : site.store.StatesFit → after.store.StatesFit) : site.Moves after where
  later := .of_sameValues h.values
  readable hreadable := hreadable.of_sameValues h.values
  fit := hfit
  tree_eq := h.tree_eq
  readOnly_eq := h.readOnly_eq
  pinned_eq := h.pinned_eq

end Moves

/-- What operations do to a site in the end: write, and switch plugins and what is visible. -/
inductive Evolves : Site → Site → Prop
  | refl (site : Site) : Evolves site site
  | wrote {site after : Site} {change : Change} (hwrote : site.Wrote change after) :
    Evolves site after
  | switched {site after : Site} (hswitches : site.Switches after)
    (hfit : site.store.StatesFit → after.store.StatesFit) : Evolves site after
  | trans {site middle after : Site} (hfirst : Evolves site middle) (hrest : Evolves middle after) :
    Evolves site after

theorem Evolves.of_operates {site after : Site} {changes : List Change}
    (h : site.Operates changes after) : site.Evolves after := by
  induction h with
  | nil => exact .refl _
  | write _ hperform _ ih => exact .trans (.wrote (Planned.wrote_of_perform hperform).1) ih
  | switch hset _ ih =>
    exact .trans (.switched (switches_of_setPlugin hset) (statesFit_of_setPlugin hset)) ih

theorem Moves.of_evolves {site after : Site} (h : site.Evolves after) : site.Moves after := by
  induction h with
  | refl site => exact .refl site
  | wrote hwrote => exact .of_wroteAll (.of_wrote hwrote)
  | switched hswitches hfit => exact .of_switches hswitches hfit
  | trans _ _ hfirst hrest => exact hfirst.trans hrest

end Site

/-! ### Applying -/

theorem Apply.evolves_run {request : ApplyRequest} {site : Site} {preset : Preset}
    {report : ApplyReport} {progress : Progress}
    (hrun : Apply.run request site preset = .ok (report, progress)) :
    site.Evolves progress.site := by
  obtain ⟨changes, hoperates⟩ := operates_run hrun
  exact .of_operates hoperates

theorem Apply.moves_run {request : ApplyRequest} {site : Site} {preset : Preset}
    {report : ApplyReport} {progress : Progress}
    (hrun : Apply.run request site preset = .ok (report, progress)) : site.Moves progress.site :=
  .of_evolves (evolves_run hrun)

theorem Service.evolves_apply (service : Service) (presetId : Int) (request : ApplyRequest)
    (timeout : Option Int) :
    service.site.Evolves (service.apply presetId request timeout).2.site := by
  obtain ⟨changes, hoperates⟩ := service.operates_apply presetId request timeout
  exact .of_operates hoperates

theorem Service.moves_apply (service : Service) (presetId : Int) (request : ApplyRequest)
    (timeout : Option Int) :
    service.site.Moves (service.apply presetId request timeout).2.site :=
  .of_evolves (service.evolves_apply presetId request timeout)

/-! ### Rolling back -/

theorem Rollback.evolves_run {user : Option Int} {cancellation : Cancellation} {site : Site}
    {application : Application} {state : State}
    (h : run user cancellation site application = .ok state) :
    site.Evolves state.site ∧ state.kept.Sublist application.rows := by
  obtain ⟨⟨changes, hoperates⟩, hkept⟩ := operates_run h
  exact ⟨.of_operates hoperates, hkept⟩

end SitePresets
