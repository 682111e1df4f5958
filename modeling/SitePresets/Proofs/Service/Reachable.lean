import SitePresets.Proofs.Service.Soundness
import SitePresets.Proofs.Table

/-!
# Reachable services

The services that come of a new one by steps in any order. All of them are sound.
-/

namespace SitePresets

/-! ### A log that forgets -/

/-- A database that has lost some changes of its log. -/
def Rows.forget (rows : Rows) (ids : List Nat) : Rows :=
  { rows with log := rows.log.filter fun row => row.id ∉ ids }

theorem Rows.find?_forget (rows : Rows) (ids : List Nat) (id : Nat) :
    (rows.forget ids).log.find? (fun row => (row.id : Int) = id) =
      if id ∈ ids then none else rows.log.find? fun row => (row.id : Int) = id := by
  unfold forget
  rw [List.find?_filter]
  split
  · rename_i hid
    refine List.find?_eq_none.2 fun row _ => ?_
    simp only [decide_eq_true_eq, Int.natCast_inj, not_and]
    rintro hrow rfl
    exact hrow hid
  · rename_i hid
    refine congrArg (List.find? · rows.log) (funext fun row => decide_eq_decide.2 ?_)
    simp only [decide_eq_true_eq, Int.natCast_inj, and_iff_right_iff_imp]
    rintro rfl
    exact hid

theorem Rows.change_forget (rows : Rows) (ids : List Nat) (id : Nat) :
    (rows.forget ids).change? id = rows.change? id ∨ (rows.forget ids).change? id = .ok none := by
  unfold change?
  rw [find?_forget]
  by_cases hid : id ∈ ids
  · rw [if_pos hid]
    by_cases hfits : fitsColumn (id : Int)
    · exact .inr (if_pos hfits)
    · refine .inl ?_
      rw [if_neg hfits, if_neg hfits]
  · rw [if_neg hid]
    exact .inl rfl

theorem Site.Moves.forget {site : Site} {rows : Rows} {ids : List Nat}
    (hstore : site.store = .rows rows) (hnext : (rows.forget ids).nextId = rows.nextId) :
    site.Moves { site with store := .rows (rows.forget ids) } where
  later := by
    rw [hstore]
    exact ⟨Nat.le_of_eq hnext.symm, fun id _ => rows.change_forget ids id, rfl⟩
  readable hreadable := by
    rw [hstore] at hreadable
    exact hreadable
  fit hfit := by
    rw [hstore] at hfit
    exact hfit
  tree_eq := rfl
  readOnly_eq := rfl
  pinned_eq := rfl

/-- A step that does not reach around the service: it protects nothing from it, it does not touch the
database behind its back, and it declares a tree whose facets are apart. -/
def Step.Ordinary : Step → Prop
  | .world (.protect _ _) | .world (.truncateLog _) | .world (.poke _ _) => False
  | .world (.declare tree) => tree.FacetsApart
  | _ => True

/-- What an ordinary step may do. -/
def Limits.ordinary : Limits where
  trees := Node.FacetsApart
  protection := False

theorem Step.Ordinary.within {step : Step} (h : step.Ordinary) : step.Within .ordinary := by
  cases step with
  | site | apply | rollback => trivial
  | library step => cases step <;> simp [Step.Within, Limits.ordinary]
  | world step =>
    cases step with
    | protect | truncateLog | poke => exact h.elim
    | declare tree => exact h
    | _ => trivial

namespace Service

variable {service : Service}

/-- Every step leaves a sound service, also one that fails. -/
theorem Sound.step {step : Step} (h : service.Sound) (hordinary : step.Ordinary) :
    (service.after step).Sound := by
  have hbecomes : service.Becomes .ordinary (service.after step) :=
    .of_step (fun _ _ => trivial) (fun _ => trivial) hordinary.within
  exact h.becomes hbecomes (fun _ => id) id

/-- A service that has not applied anything yet. -/
structure Fresh (service : Service) : Prop where
  apart : service.site.tree.FacetsApart
  readable : service.site.store.Readable
  fit : service.site.store.StatesFit
  readOnly_eq : service.site.readOnly = []
  pinned_eq : service.site.pinned = []
  library : service.library.Sound
  applications_eq : service.library.applications = []

/-- The services that come of a fresh one by ordinary steps in any order. In between a database may
lose changes of its log, as long as it gives no number twice. -/
inductive Reachable : Service → Prop
  | start {service : Service} (hfresh : service.Fresh) : Reachable service
  | step {service : Service} (step : Step) (hreachable : Reachable service)
    (hordinary : step.Ordinary) : Reachable (service.after step)
  | forget {service : Service} {rows : Rows} (ids : List Nat) (hreachable : Reachable service)
    (hstore : service.site.store = .rows rows) (hnext : (rows.forget ids).nextId = rows.nextId) :
    Reachable (service.withStore (.rows (rows.forget ids)))

theorem Fresh.sound (h : service.Fresh) : service.Sound where
  apart := h.apart
  readable := h.readable
  fit := h.fit
  readOnly_eq := h.readOnly_eq
  pinned_eq := h.pinned_eq
  library := h.library
  backs application happlication := by
    rw [h.applications_eq] at happlication
    cases happlication
  arranged application happlication := by
    rw [h.applications_eq] at happlication
    cases happlication

theorem Reachable.sound (h : service.Reachable) : service.Sound := by
  induction h with
  | start hfresh => exact hfresh.sound
  | step step _ hordinary ih => exact ih.step hordinary
  | forget ids _ hstore hnext ih => exact ih.moves_site (.forget hstore hnext)

end Service

namespace SmallSite

theorem service_fresh : service.Fresh :=
  ⟨tree_facetsApart, fun _ => ⟨_, rfl⟩, fun _ _ _ => rfl, rfl, rfl, library_sound, rfl⟩

theorem newService_fresh : newService.Fresh := by
  refine ⟨tree_facetsApart, fun _ => ⟨_, rfl⟩, ?_, rfl, rfl, library_sound, rfl⟩
  intro plugin enabled hplugin
  have hplugin : (if chat = plugin then some 1 else none) = some enabled := hplugin
  split at hplugin
  · obtain rfl := Option.some.inj hplugin
    decide
  · cases hplugin

end SmallSite

end SitePresets
