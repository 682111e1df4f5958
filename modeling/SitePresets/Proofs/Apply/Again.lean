import Mathlib.Data.List.Flatten
import Mathlib.Data.List.Nodup
import Mathlib.Data.List.TakeWhile
import Mathlib.Data.Option.Basic
import SitePresets.Proofs.Apply.Effect
import SitePresets.Proofs.Apply.Outcome
import SitePresets.Proofs.Rollback.Stands

/-!
# Applying again

After an apply that has set no plugins the same apply has next to nothing left to write. What was written is
read back as it was wanted, what was refused is refused again, and all else is as it was. Only a setting
whose value was taken away has its default for a value now, and is written once more.
-/

namespace SitePresets

/-! ### All that an item might write -/

namespace Apply

def candidates (live wanted : Descriptor) : List Planned :=
  ⟨live, none, wanted.value⟩ ::
    wanted.facets.map fun (facet, on) => ⟨live, some facet, some (Value.flagText on)⟩

theorem planWanted_eq_filter (live wanted : Descriptor) :
    planWanted live wanted = (candidates live wanted).filter Planned.differs := by
  have hfacets : planFacets live wanted =
      (wanted.facets.map fun (facet, on) =>
        (⟨live, some facet, some (Value.flagText on)⟩ : Planned)).filter Planned.differs := by
    rw [List.filter_map]
    rfl
  unfold planWanted candidates
  rw [List.filter_cons, hfacets]
  cases h : live.equals wanted.value <;> simp [Planned.differs, h]

theorem isProper_of_mem_candidates {live : Descriptor} {item : Item} {planned : Planned}
    (h : planned ∈ candidates live (live.withStored item.value item.attributes)) :
    planned.live = live ∧ planned.IsProper := by
  unfold candidates at h
  rcases List.mem_cons.1 h with rfl | h
  · exact ⟨rfl, item.value, rfl⟩
  · obtain ⟨⟨facet, on⟩, hrow, rfl⟩ := List.mem_map.1 h
    exact ⟨rfl, (Descriptor.mem_facets_withStored.1 hrow).1, on, rfl⟩

/-- No two of them are of one facet. -/
theorem nodup_candidates (live : Descriptor) (item : Item) :
    ((candidates live (live.withStored item.value item.attributes)).map Planned.facet).Nodup := by
  have hnodup : ((live.withStored item.value item.attributes).facets.map Prod.fst).Nodup :=
    Descriptor.nodup_facetsOf
  unfold candidates
  rw [List.map_cons, List.map_map, List.nodup_cons]
  constructor
  · intro hmem
    obtain ⟨row, -, hrow⟩ := List.mem_map.1 hmem
    cases hrow
  · have hsome : (Planned.facet ∘ fun (row : Facet × Bool) =>
        (⟨live, some row.1, some (Value.flagText row.2)⟩ : Planned)) = fun row => some row.1 := rfl
    rw [hsome]
    have hmap := hnodup.map (Option.some_injective Facet)
    rwa [List.map_map] at hmap

theorem candidates_on {after : Site} {live now : Descriptor} (h : Site.SameSetting after live now)
    (item : Item) :
    candidates now (now.withStored item.value item.attributes) =
      (candidates live (live.withStored item.value item.attributes)).map (Planned.on · now) := by
  unfold candidates
  rw [h.alike.value_withStored, h.alike.facets_withStored, List.map_cons, List.map_map]
  rfl

/-! ### After the first run -/

/-- What a run over items has made of a site. -/
structure Carried (request : ApplyRequest) (site : Site) (snapshot : Snapshot) (items : List Item)
    (after : Site) (writes : List (Planned × Change)) : Prop where
  reads : Snapshot.ofSite site = .ok snapshot
  apart : site.tree.FacetsApart
  keys : (items.map Item.key).Nodup
  wrote : site.WroteAll (writes.map Prod.snd) after
  fulfils : ∀ write ∈ writes, write.2.key = write.1.key ∧ write.2.new = write.1.text
  writes_eq : writes.map Prod.fst =
    items.flatMap fun item => (plan request snapshot item).takeWhile (site.permits request.user)

/-- Whether a run has not made a planned write. -/
def unwritten (writes : List (Planned × Change)) (planned : Planned) : Bool :=
  planned.key ∉ writes.map fun write => write.1.key

/-- Whether what was planned is still wanted after a run. -/
def stillWanted (writes : List (Planned × Change)) (planned : Planned) : Bool :=
  unwritten writes planned || planned.reverts

namespace Carried

variable {request : ApplyRequest} {site after : Site} {snapshot : Snapshot} {items : List Item}
  {writes : List (Planned × Change)} {item : Item} {live now : Descriptor} {planned : Planned}

theorem change_keys (h : Carried request site snapshot items after writes) :
    (writes.map Prod.snd).map Change.key = writes.map fun write => write.1.key := by
  rw [List.map_map]
  exact List.map_congr_left fun write hwrite => (h.fulfils write hwrite).1

theorem sublist (h : Carried request site snapshot items after writes) :
    (writes.map Prod.fst).Sublist (items.flatMap (plan request snapshot)) := by
  rw [h.writes_eq]
  exact List.Sublist.flatMap_right _ fun item _ => List.takeWhile_sublist _

theorem nodup (h : Carried request site snapshot items after writes) :
    ((writes.map Prod.snd).map Change.key).Nodup := by
  have hkeys := (nodup_plan h.reads h.apart h.keys).sublist (h.sublist.map Planned.key)
  rw [h.change_keys]
  rwa [List.map_map] at hkeys

theorem get_of_written (h : Carried request site snapshot items after writes)
    {write : Planned × Change} (hwrite : write ∈ writes) :
    after.store.get write.1.key = .ok write.1.text := by
  obtain ⟨hkey, hnew⟩ := h.fulfils write hwrite
  rw [← hkey, ← hnew]
  exact h.wrote.get_of_mem h.nodup (List.mem_map_of_mem hwrite)

theorem get_of_unwritten (h : Carried request site snapshot items after writes)
    (hplanned : unwritten writes planned) :
    after.store.get planned.key = site.store.get planned.key := by
  refine h.wrote.get_of_not_mem ?_
  rw [h.change_keys]
  exact of_decide_eq_true hplanned

/-- A written key belongs to the item that might write it. -/
theorem mem_plan_of_written (h : Carried request site snapshot items after writes)
    (hitem : item ∈ items) (hlive : snapshot.get? item.key = some live)
    (hplanned : planned ∈ candidates live (live.withStored item.value item.attributes))
    (hwritten : unwritten writes planned = false) :
    ∃ write ∈ writes, write.1 ∈ plan request snapshot item ∧ write.1.facet = planned.facet := by
  have hmem : planned.key ∈ writes.map fun write => write.1.key := by
    simpa [unwritten] using hwritten
  obtain ⟨write, hwrite, hkey⟩ := List.mem_map.1 hmem
  obtain ⟨other, hother, hplan⟩ :=
    List.mem_flatMap.1 (h.sublist.subset (List.mem_map_of_mem hwrite))
  have hwlive := live_of_mem_plan hplan
  have hplive : planned.live = live := by
    unfold candidates at hplanned
    rcases List.mem_cons.1 hplanned with rfl | hplanned
    · rfl
    · obtain ⟨row, -, rfl⟩ := List.mem_map.1 hplanned
      rfl
  obtain ⟨hdeclared, hlivekey⟩ := declared_of_get h.reads hlive
  obtain ⟨hwdeclared, hwkey⟩ := declared_of_get h.reads hwlive
  obtain ⟨hkeys, hfacet⟩ := key_inj h.apart hwdeclared (hplive ▸ hdeclared) hkey
  have hsame : other = item := by
    refine List.inj_on_of_nodup_map h.keys hother hitem ?_
    rw [← hwkey, hkeys, hplive, hlivekey]
  exact ⟨write, hwrite, hsame ▸ hplan, hfacet⟩

theorem written_eq (h : Carried request site snapshot items after writes) (hitem : item ∈ items)
    (hlive : snapshot.get? item.key = some live)
    (hplanned : planned ∈ candidates live (live.withStored item.value item.attributes))
    (hwritten : unwritten writes planned = false) :
    planned.differs ∧ ∃ write ∈ writes, write.1 = planned := by
  obtain ⟨write, hwrite, hplan, hfacet⟩ := h.mem_plan_of_written hitem hlive hplanned hwritten
  obtain ⟨found, wanted, hjudge, hwanted⟩ := mem_plan.1 hplan
  obtain ⟨-, hfound, rfl, -⟩ := judge_eq_wanted.1 hjudge
  obtain rfl := Option.some.inj (hfound.symm.trans hlive)
  rw [planWanted_eq_filter, List.mem_filter] at hwanted
  obtain rfl := List.inj_on_of_nodup_map (nodup_candidates found item) hwanted.1 hplanned hfacet
  exact ⟨hwanted.2, write, hwrite, rfl⟩

/-- An item without a plan leaves all that it might write as it is. -/
theorem unwritten_of_plan (h : Carried request site snapshot items after writes)
    (hitem : item ∈ items) (hlive : snapshot.get? item.key = some live)
    (hplan : plan request snapshot item = [])
    (hplanned : planned ∈ candidates live (live.withStored item.value item.attributes)) :
    unwritten writes planned := by
  by_contra hwritten
  rw [Bool.not_eq_true] at hwritten
  obtain ⟨write, -, hmem, -⟩ := h.mem_plan_of_written hitem hlive hplanned hwritten
  rw [hplan] at hmem
  exact List.not_mem_nil hmem

theorem permitted_of_written (h : Carried request site snapshot items after writes)
    (hwritten : unwritten writes planned = false) : site.permits request.user planned := by
  have hmem : planned.key ∈ writes.map fun write => write.1.key := by
    simpa [unwritten] using hwritten
  obtain ⟨write, hwrite, hkey⟩ := List.mem_map.1 hmem
  have hmade := List.mem_map_of_mem (f := Prod.fst) hwrite
  rw [h.writes_eq] at hmade
  obtain ⟨item, -, hmade⟩ := List.mem_flatMap.1 hmade
  have hpermitted := List.mem_takeWhile_imp hmade
  unfold Site.permits at hpermitted ⊢
  rwa [← hkey]

/-- What was written is held, and what was not is as it was. -/
theorem differs_on (h : Carried request site snapshot items after writes) (hitem : item ∈ items)
    (hlive : snapshot.get? item.key = some live) (hsame : Site.SameSetting after live now)
    (hplanned : planned ∈ candidates live (live.withStored item.value item.attributes)) :
    (planned.on now).differs = (planned.differs && stillWanted writes planned) := by
  obtain ⟨declared, -, hread⟩ := Snapshot.read_of_get h.reads hlive
  have hshows := Site.shows_of_read hread
  unfold stillWanted
  cases hunwritten : unwritten writes planned with
  | true =>
    have hget := h.get_of_unwritten hunwritten
    rw [Bool.true_or, Bool.and_true]
    unfold candidates at hplanned
    rcases List.mem_cons.1 hplanned with rfl | hplanned
    · show (!now.equals _) = !live.equals _
      rw [hsame.equals_eq hshows hget]
      rfl
    · obtain ⟨⟨facet, on⟩, hrow, rfl⟩ := List.mem_map.1 hplanned
      have hfacet : facet ∈ live.kind.facets := (Descriptor.mem_facets_withStored.1 hrow).1
      show (!now.facetEquals facet _) = !live.facetEquals facet _
      unfold Descriptor.facetEquals
      rw [hsame.facet_eq hshows hfacet hget]
      rfl
  | false =>
    obtain ⟨hdiffers, write, hwrite, rfl⟩ := h.written_eq hitem hlive hplanned hunwritten
    obtain ⟨rfl, hproper⟩ := isProper_of_mem_candidates hplanned
    rw [hdiffers, Bool.false_or, Bool.true_and]
    exact hsame.differs_on hproper (h.get_of_written hwrite)

/-- What is planned again is what is still wanted. -/
theorem planWanted_eq (h : Carried request site snapshot items after writes) (hitem : item ∈ items)
    (hlive : snapshot.get? item.key = some live) (hsame : Site.SameSetting after live now) :
    planWanted now (now.withStored item.value item.attributes) =
      ((planWanted live (live.withStored item.value item.attributes)).filter
        (stillWanted writes)).map (Planned.on · now) := by
  rw [planWanted_eq_filter, planWanted_eq_filter, candidates_on hsame, List.filter_map,
    List.filter_filter]
  refine congrArg (List.map (Planned.on · now)) (List.filter_congr fun planned hplanned => ?_)
  rw [Bool.and_comm]
  exact h.differs_on hitem hlive hsame hplanned

end Carried

/-! ### How items fare again -/

/-- What an item has written that does not last. -/
def lapsed (request : ApplyRequest) (snapshot : Snapshot) (site : Site) (item : Item) : List Planned :=
  ((plan request snapshot item).takeWhile (site.permits request.user)).filter Planned.reverts

theorem lapsed_of_value {request : ApplyRequest} {snapshot : Snapshot} {item : Item}
    (hvalue : item.value.isSome) (site : Site) : lapsed request snapshot site item = [] := by
  refine List.filter_eq_nil_iff.2 fun planned hplanned => ?_
  rw [reverts_of_value ((List.takeWhile_sublist _).subset hplanned) hvalue]
  exact Bool.false_ne_true

/-- How an item fares the second time if all lasts: what was applied is unchanged now. -/
def settled (fared : Status × Option String) : Status × Option String :=
  if fared.1 = .applied then (.unchanged, some Reason.unchanged) else fared

theorem permits_iff {site : Site} {user : Option Int} {planned : Planned} :
    site.permits user planned ↔ site.objection? user planned = none := by
  unfold Site.permits Site.objection?
  cases site.refusal? user planned.key <;> simp

/-- How an item fares the second time. -/
def outcomeAgain (request : ApplyRequest) (snapshot : Snapshot) (site : Site) (item : Item) :
    Status × Option String :=
  if (lapsed request snapshot site item).isEmpty then settled (outcome request snapshot site item)
  else outcome request snapshot site item

section Left

variable {site : Site} {user : Option Int} {plan : List Planned} {writes : List (Planned × Change)}

theorem filter_stillWanted (hmade : ∀ planned ∈ plan, unwritten writes planned = false) :
    plan.filter (stillWanted writes) = plan.filter Planned.reverts := by
  refine List.filter_congr fun planned hplanned => ?_
  unfold stillWanted
  rw [hmade planned hplanned, Bool.false_or]

/-- If all that the site permits at the start of a plan has been written, and nothing else, then what is
still wanted of the plan is written as far as it does not last, and fares like the plan, except that
nothing is applied if all lasts. -/
theorem fare_filter (hmade : ∀ planned ∈ plan.takeWhile (site.permits user), unwritten writes planned = false)
    (hpermitted : ∀ planned, unwritten writes planned = false → site.permits user planned) :
    (plan.filter (stillWanted writes)).takeWhile (site.permits user) =
        (plan.takeWhile (site.permits user)).filter Planned.reverts ∧
      fare site user (plan.filter (stillWanted writes)) (.unchanged, some Reason.unchanged) =
        if ((plan.takeWhile (site.permits user)).filter Planned.reverts).isEmpty then
          settled (fare site user plan (.unchanged, some Reason.unchanged))
        else fare site user plan (.unchanged, some Reason.unchanged) := by
  cases hfirst : plan.findSome? (site.objection? user) with
  | none =>
    have hall := List.findSome?_eq_none_iff.1 hfirst
    have htake : plan.takeWhile (site.permits user) = plan := by
      rw [List.takeWhile_eq_self_iff]
      exact fun planned hplanned => permits_iff.2 (hall planned hplanned)
    rw [htake] at hmade ⊢
    rw [filter_stillWanted hmade]
    have hpart : ∀ planned ∈ plan.filter Planned.reverts, site.objection? user planned = none :=
      fun planned hplanned => hall planned (List.mem_filter.1 hplanned).1
    constructor
    · rw [List.takeWhile_eq_self_iff]
      exact fun planned hplanned => permits_iff.2 (hpart planned hplanned)
    · unfold fare settled
      rw [hfirst, List.findSome?_eq_none_iff.2 hpart]
      cases plan with
      | nil => rfl
      | cons => cases List.filter Planned.reverts _ <;> rfl
  | some reason =>
    obtain ⟨front, refused, back, rfl, hrefused, hfront⟩ := List.findSome?_eq_some_iff.1 hfirst
    have hstop : site.permits user refused = false := by
      rw [← Bool.not_eq_true, permits_iff, hrefused]
      exact Option.some_ne_none reason
    have htake (rest : List Planned) {part : List Planned} (hpart : part ⊆ front) :
        (part ++ refused :: rest).takeWhile (site.permits user) = part := by
      rw [List.takeWhile_append_of_pos fun planned hplanned =>
        permits_iff.2 (hfront planned (hpart hplanned)), List.takeWhile_cons_of_neg (by simp [hstop]),
        List.append_nil]
    rw [htake back (List.Subset.refl front)] at hmade ⊢
    have hkept : stillWanted writes refused = true := by
      unfold stillWanted
      cases hunwritten : unwritten writes refused with
      | true => rfl
      | false =>
        rw [hpermitted refused hunwritten] at hstop
        cases hstop
    have hpart : front.filter Planned.reverts ⊆ front := List.filter_subset_self _
    rw [List.filter_append, filter_stillWanted hmade, List.filter_cons_of_pos hkept, htake _ hpart]
    refine ⟨rfl, ?_⟩
    have hagain : (front.filter Planned.reverts).findSome? (site.objection? user) = none :=
      List.findSome?_eq_none_iff.2 fun planned hplanned => hfront planned (hpart hplanned)
    unfold fare settled
    rw [hfirst, List.findSome?_append, hagain, List.findSome?_cons, hrefused]
    cases (front.filter Planned.reverts).isEmpty <;> rfl

end Left

theorem fare_on {site after : Site} {user : Option Int} {now : Descriptor} {plan : List Planned}
    (hsame : after.refusal? user = site.refusal? user)
    (hplan : ∀ planned ∈ plan, now.declared = planned.live.declared) (idle : Status × Option String) :
    fare after user (plan.map (Planned.on · now)) idle = fare site user plan idle ∧
      (plan.map (Planned.on · now)).takeWhile (after.permits user) =
        (plan.takeWhile (site.permits user)).map (Planned.on · now) := by
  have hrefusal (planned : Planned) (hplanned : planned ∈ plan) :
      after.refusal? user (planned.on now).key = site.refusal? user planned.key := by
    rw [Planned.key_on (hplan planned hplanned), hsame]
  have hfirst : (plan.map (Planned.on · now)).findSome? (after.objection? user) =
      plan.findSome? (site.objection? user) := by
    clear hplan
    induction plan with
    | nil => rfl
    | cons planned rest ih =>
      have hobjection : after.objection? user (planned.on now) = site.objection? user planned := by
        unfold Site.objection?
        rw [hrefusal planned List.mem_cons_self]
        rfl
      rw [List.map_cons, List.findSome?_cons, List.findSome?_cons, hobjection,
        ih fun other hother => hrefusal other (List.mem_cons_of_mem _ hother)]
  constructor
  · unfold fare
    rw [hfirst, List.isEmpty_map]
  · clear hfirst hplan
    induction plan with
    | nil => rfl
    | cons planned rest ih =>
      have hpermits : after.permits user (planned.on now) = site.permits user planned := by
        unfold Site.permits
        rw [hrefusal planned List.mem_cons_self]
      rw [List.map_cons, List.takeWhile_cons, List.takeWhile_cons, hpermits,
        ih fun other hother => hrefusal other (List.mem_cons_of_mem _ hother)]
      split <;> rfl

namespace Carried

variable {request : ApplyRequest} {site after : Site} {snapshot later : Snapshot} {items : List Item}
  {writes : List (Planned × Change)} {item : Item} {live : Descriptor}

/-- What the site has under a key it has again, with another value at most. -/
theorem get_again (h : Carried request site snapshot items after writes)
    (hlater : Snapshot.ofSite after = .ok later) (key : Key) :
    match snapshot.get? key with
    | none => later.get? key = none
    | some live => ∃ now, later.get? key = some now ∧ Site.SameSetting after live now :=
  h.wrote.keeps.get_again h.wrote.staysReadable h.reads hlater key

/-- An item is judged as before. -/
theorem judge_again (h : Carried request site snapshot items after writes)
    (hlater : Snapshot.ofSite after = .ok later) (item : Item) :
    match judge request snapshot item with
    | .excluded => judge request later item = .excluded
    | .unknown => judge request later item = .unknown
    | .invalid _ => ∃ now, judge request later item = .invalid now
    | .wanted live _ => ∃ now, Site.SameSetting after live now ∧
        judge request later item = .wanted now (now.withStored item.value item.attributes) := by
  have hget := h.get_again hlater item.key
  unfold judge
  by_cases hexcluded : item.key ∈ request.exclusions ∧ ¬ request.override
  · simp only [if_pos hexcluded]
  · simp only [if_neg hexcluded]
    cases hlive : snapshot.get? item.key with
    | none =>
      rw [hlive] at hget
      rw [hget]
    | some live =>
      rw [hlive] at hget
      obtain ⟨now, hnow, hsame⟩ := hget
      rw [hnow]
      dsimp only
      rw [hsame.alike.isValid_withStored]
      cases (live.withStored item.value item.attributes).isValid with
      | false => exact ⟨now, rfl⟩
      | true => exact ⟨now, hsame, rfl⟩

theorem plan_permitted (h : Carried request site snapshot items after writes) (hitem : item ∈ items) :
    ∀ planned ∈ (plan request snapshot item).takeWhile (site.permits request.user),
      unwritten writes planned = false := by
  intro planned hplanned
  have hmade : planned ∈ writes.map Prod.fst := by
    rw [h.writes_eq]
    exact List.mem_flatMap.2 ⟨item, hitem, hplanned⟩
  obtain ⟨write, hwrite, rfl⟩ := List.mem_map.1 hmade
  refine decide_eq_false fun hunwritten => hunwritten ?_
  exact List.mem_map_of_mem (f := fun write : Planned × Change => write.1.key) hwrite

/-- Every item fares as before, except that what was applied is unchanged now if all of it lasts; and only
what does not last is written again. -/
theorem settles (h : Carried request site snapshot items after writes)
    (hlater : Snapshot.ofSite after = .ok later) (hitem : item ∈ items) :
    outcome request later after item = outcomeAgain request snapshot site item ∧
      ((plan request later item).takeWhile (after.permits request.user)).map Planned.brief =
        (lapsed request snapshot site item).map Planned.brief := by
  have hpermitted := h.plan_permitted hitem
  have hagain := h.judge_again hlater item
  unfold outcomeAgain outcome lapsed plan at *
  cases hjudge : judge request snapshot item with
  | excluded | unknown =>
    rw [hjudge] at hagain
    rw [hagain]
    exact ⟨rfl, rfl⟩
  | invalid live =>
    rw [hjudge] at hagain
    obtain ⟨now, hagain⟩ := hagain
    rw [hagain]
    exact ⟨rfl, rfl⟩
  | wanted live wanted =>
    rw [hjudge] at hagain hpermitted
    obtain ⟨now, hsame, hagain⟩ := hagain
    obtain ⟨-, hlive, rfl, -⟩ := judge_eq_wanted.1 hjudge
    have hdeclared : ∀ planned ∈
        (planWanted live (live.withStored item.value item.attributes)).filter (stillWanted writes),
        now.declared = planned.live.declared := by
      intro planned hplanned
      rw [live_of_mem_planWanted (List.mem_filter.1 hplanned).1, hsame.shows.declared_eq]
    obtain ⟨hfare, htake⟩ := fare_on (funext fun key => h.wrote.keeps.refusal_eq request.user key)
      hdeclared (.unchanged, some Reason.unchanged)
    obtain ⟨hlapsed, hsettled⟩ := fare_filter hpermitted fun _ => h.permitted_of_written
    rw [hagain]
    dsimp only
    rw [h.planWanted_eq hitem hlive hsame, hfare, htake, hsettled, hlapsed, List.map_map]
    refine ⟨rfl, List.map_congr_left fun planned hplanned => ?_⟩
    rw [← hlapsed] at hplanned
    exact Prod.ext (Planned.key_on (hdeclared planned ((List.takeWhile_sublist _).subset hplanned))) rfl

theorem settles_of_value (h : Carried request site snapshot items after writes)
    (hlater : Snapshot.ofSite after = .ok later) (hitem : item ∈ items) (hvalue : item.value.isSome) :
    outcome request later after item = settled (outcome request snapshot site item) ∧
      (plan request later item).takeWhile (after.permits request.user) = [] := by
  have hlapsed : lapsed request snapshot site item = [] := lapsed_of_value hvalue site
  obtain ⟨houtcome, hplan⟩ := h.settles hlater hitem
  rw [hlapsed, List.map_nil, List.map_eq_nil_iff] at hplan
  unfold outcomeAgain at houtcome
  rw [hlapsed] at houtcome
  exact ⟨houtcome, hplan⟩

end Carried

end Apply

end SitePresets
