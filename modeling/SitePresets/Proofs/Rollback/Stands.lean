import SitePresets.Proofs.Descriptor.Cleaning
import SitePresets.Proofs.Rollback.Row
import SitePresets.Proofs.Site.Persisting

/-!
# Writes that still stand

A setting that is read back after an apply has the value that was written: cleaning leaves a cleaned
value as it is, and means it by itself. So the row of a write is restorable as long as its key holds
what was written.
-/

namespace SitePresets

namespace Site

variable {site after : Site} {declared : Declaration} {live now : Descriptor}

theorem Keeps.persists (h : site.Keeps after) (hreads : site.store.StaysReadable after.store) :
    site.Persists after :=
  ⟨h.tree_eq, h.chain_eq, hreads⟩

theorem Keeps.exists_ofSite {snapshot : Snapshot} (h : site.Keeps after)
    (hreads : site.store.StaysReadable after.store)
    (hsnapshot : Snapshot.ofSite site = .ok snapshot) :
    ∃ snapshot, Snapshot.ofSite after = .ok snapshot :=
  (h.persists hreads).exists_ofSite h.samePlugins hsnapshot

/-- The same setting of a site, read again later. -/
structure SameSetting (after : Site) (live now : Descriptor) : Prop where
  shows : after.Shows live.declared now
  kind_eq : now.kind = live.kind
  rule_eq : now.rule = live.rule

theorem Keeps.sameSetting (h : site.Keeps after) (hlive : site.Shows declared live)
    (hnow : after.Shows declared now) : SameSetting after live now := by
  have hkind : now.kind = live.kind := by
    rw [hnow.kind_eq, hlive.kind_eq, h.chain_eq]
  refine ⟨hlive.declared_eq ▸ hnow, hkind, ?_⟩
  unfold Descriptor.rule
  rw [hnow.choices_eq, hlive.choices_eq, h.choicesOf_eq, hnow.declared_eq, hlive.declared_eq, hkind]

theorem Keeps.exists_lookup {snapshot : Snapshot} (h : site.Keeps after)
    (hreads : site.store.StaysReadable after.store)
    (hsnapshot : Snapshot.ofSite site = .ok snapshot) {key : Key}
    (hlive : snapshot.get? key = some live) :
    ∃ now, after.lookup key = .ok (some now) ∧ SameSetting after live now := by
  obtain ⟨declared, hoffered, hread⟩ := Snapshot.read_of_get hsnapshot hlive
  obtain ⟨now, hnow⟩ := (h.persists hreads).exists_read hread
  refine ⟨now, lookup_eq_some.2 ⟨declared, (h.offered_eq key).trans hoffered, hnow⟩, ?_⟩
  exact h.sameSetting (shows_of_read hread) (shows_of_read hnow)

/-- What a site has under a key it has again, with another value at most. -/
theorem Keeps.get_again {snapshot later : Snapshot} (h : site.Keeps after)
    (hreads : site.store.StaysReadable after.store)
    (hsnapshot : Snapshot.ofSite site = .ok snapshot) (hlater : Snapshot.ofSite after = .ok later)
    (key : Key) :
    match snapshot.get? key with
    | none => later.get? key = none
    | some live => ∃ now, later.get? key = some now ∧ SameSetting after live now := by
  have hlookup := Snapshot.lookup_eq_get hlater key
  cases hlive : snapshot.get? key with
  | none =>
    dsimp only
    cases hoffered : site.offered? key with
    | none =>
      unfold lookup at hlookup
      rw [h.offered_eq, hoffered] at hlookup
      exact (Except.ok.inj hlookup).symm
    | some declared =>
      obtain ⟨live, -, hget⟩ := Snapshot.exists_read_of_ofSite hsnapshot hoffered
      rw [hlive] at hget
      cases hget
  | some live =>
    obtain ⟨now, hnow, hsame⟩ := h.exists_lookup hreads hsnapshot hlive
    exact ⟨now, Except.ok.inj (hlookup.symm.trans hnow), hsame⟩

namespace SameSetting

theorem alike (h : SameSetting after live now) : live.Alike now :=
  .of_rule_eq h.shows.declared_eq h.kind_eq h.rule_eq

/-- A value that was not written is the same as before. -/
theorem value_eq (h : SameSetting after live now) (hlive : site.Shows declared live)
    (hget : after.store.get live.key = site.store.get live.key) : now.value = live.value := by
  obtain ⟨stored, hstored, hraw⟩ := hlive.raw_eq
  obtain ⟨stored', hstored', hraw'⟩ := h.shows.raw_eq
  rw [← hlive.declared_eq] at hstored hraw
  have hsame : stored' = stored := Except.ok.inj (hstored'.symm.trans (hget.trans hstored))
  unfold Descriptor.value
  rw [h.rule_eq, hraw, hraw', hsame]

theorem equals_eq (h : SameSetting after live now) (hlive : site.Shows declared live)
    (hget : after.store.get live.key = site.store.get live.key) : now.equals = live.equals := by
  funext other
  unfold Descriptor.equals
  rw [h.rule_eq, h.value_eq hlive hget]

theorem facet_eq (h : SameSetting after live now) (hlive : site.Shows declared live) {facet : Facet}
    (hfacet : facet ∈ live.kind.facets)
    (hget : after.store.get (live.facetKey facet) = site.store.get (live.facetKey facet)) :
    now.facet? facet = live.facet? facet := by
  have hkey := h.alike.facetKey_eq facet
  obtain ⟨stored, hstored, hshown⟩ := hlive.facet_eq facet hfacet
  obtain ⟨stored', hstored', hshown'⟩ := h.shows.facet_eq facet (h.kind_eq ▸ hfacet)
  rw [hkey] at hstored'
  have hsame : stored' = stored := Except.ok.inj (hstored'.symm.trans (hget.trans hstored))
  rw [hshown, hshown', hsame, hlive.declared_eq]

end SameSetting

end Site

/-- A setting that holds what was written has what was wanted, unless it has reverted to its default. -/
theorem Planned.differs_held {site : Site} {planned : Planned}
    (hshows : site.Shows planned.live.declared planned.live) (hproper : planned.IsProper)
    (hget : site.store.get planned.key = .ok planned.text) : planned.differs = planned.reverts := by
  obtain ⟨live, facet, text⟩ := planned
  cases facet with
  | none =>
    obtain ⟨source, htext⟩ := hproper
    obtain ⟨stored, hstored, hraw⟩ := hshows.raw_eq
    obtain rfl := Except.ok.inj (hget.symm.trans hstored)
    show (!live.equals text) = _
    cases text with
    | none =>
      have hvalue : live.value = live.rule.clean (some live.declared.defaultText) := by
        unfold Descriptor.value
        rw [hraw]
        rfl
      unfold Descriptor.equals reverts
      rw [hvalue, ValueRule.same_none]
      simp
    | some value =>
      have hrule : live.rule = Descriptor.rule { live with raw := source } := rfl
      rw [Descriptor.equals_of_cleaned hrule htext.symm hraw]
      rfl
  | some facet =>
    obtain ⟨hfacet, on, rfl⟩ := hproper
    obtain ⟨stored, hstored, hshown⟩ := hshows.facet_eq facet hfacet
    obtain rfl := Except.ok.inj (hget.symm.trans hstored)
    show (!live.facetEquals facet (some (Value.flagText on))) = false
    unfold Descriptor.facetEquals
    rw [hshown]
    simp

namespace Site.SameSetting

variable {after : Site} {planned : Planned} {now : Descriptor}

theorem reverts_on (h : SameSetting after planned.live now) :
    (planned.on now).reverts = planned.reverts := by
  unfold Planned.reverts Planned.on
  rw [h.rule_eq, h.shows.declared_eq]

theorem isProper_on (h : SameSetting after planned.live now) (hproper : planned.IsProper) :
    (planned.on now).IsProper := by
  unfold Planned.IsProper Planned.on at *
  rwa [h.rule_eq, h.kind_eq]

/-- What was written is still wanted of the setting read again only if it reverts. -/
theorem differs_on (h : SameSetting after planned.live now) (hproper : planned.IsProper)
    (hget : after.store.get planned.key = .ok planned.text) :
    (planned.on now).differs = planned.reverts := by
  have hshows : after.Shows now.declared now := h.shows.declared_eq ▸ h.shows
  rw [← h.reverts_on]
  refine Planned.differs_held hshows (h.isProper_on hproper) ?_
  rw [Planned.key_on h.shows.declared_eq]
  exact hget

end Site.SameSetting

namespace Rollback

variable {site current : Site} {snapshot : Snapshot} {request : ApplyRequest} {item : Item}
  {planned : Planned} {change : Change}

theorem facetOf_row (planned : Planned) (logId : Nat) : facetOf (planned.row logId) = planned.facet := by
  unfold Planned.row
  cases planned.facet <;> rfl

theorem isOurs_eq (planned : Planned) :
    isOurs planned.live planned.facet planned.text = !planned.differs := by
  unfold isOurs Planned.differs
  cases planned.facet <;> simp

theorem targetKey_row (hkey : change.key = planned.key) :
    targetKey (planned.row change.id) change = planned.live.key := by
  obtain ⟨live, facet, text⟩ := planned
  cases facet with
  | none => exact hkey
  | some facet => exact congrArg (Key.mk · live.key.name) (congrArg Key.scope hkey)

/-- The row of a write is restorable exactly if the write does not revert, as long as the log still has its
change and its key what was written. -/
theorem restorable_row (hsnapshot : Snapshot.ofSite site = .ok snapshot) (hkeeps : site.Keeps current)
    (hreads : site.store.StaysReadable current.store)
    (hplanned : planned ∈ Apply.plan request snapshot item)
    (hkey : change.key = planned.key) (hnew : change.new = planned.text)
    (hchange : current.store.change? change.id = .ok (some change))
    (hstored : current.store.get change.key = .ok change.new) :
    Restorable current (planned.row change.id) ↔ planned.reverts = false := by
  obtain ⟨later, hlater⟩ := hkeeps.exists_ofSite hreads hsnapshot
  have hlive := Apply.live_of_mem_plan hplanned
  have hagain := hkeeps.get_again hreads hsnapshot hlater item.key
  rw [hlive] at hagain
  obtain ⟨now, hnow, hsame⟩ := hagain
  rw [← (Apply.declared_of_get hsnapshot hlive).2] at hnow
  rw [hkey, hnew] at hstored
  have hdiffers := hsame.differs_on (Apply.isProper_of_mem_plan hplanned) hstored
  have hours : isOurs now planned.facet planned.text = !(planned.on now).differs :=
    isOurs_eq (planned.on now)
  rw [hdiffers] at hours
  have hsupports : supports now planned.facet := by
    unfold supports
    rw [hsame.kind_eq]
    cases hfacet : planned.facet with
    | none => rfl
    | some facet => exact List.contains_iff_mem.2 (Apply.facet_mem_of_mem_plan hplanned hfacet)
  rw [restorable_iff hlater (planned.logId_row change.id) hchange, targetKey_row hkey, facetOf_row, hnew,
    hnow, Option.filter_some, if_pos hsupports]
  simpa using congrArg (· = true) hours

end Rollback

end SitePresets
