import SitePresets.Proofs.Apply.Plan

/-!
# A run and its plan

A run makes planned writes in their order, and nothing else. Each write it makes is a change of the
log and a row of the ledger. It stops within an item only when a write is refused.
-/

namespace SitePresets

namespace Planned

variable {planned : Planned} {user : Option Int} {site after : Site} {change : Change}

def perform (planned : Planned) (user : Option Int) (site : Site) :
    Except Refusal (Change × Site) :=
  match planned.facet with
  | none => site.write planned.live planned.text user
  | some facet => site.writeFacet planned.live facet planned.text user

theorem wrote_of_perform (h : planned.perform user site = .ok (change, after)) :
    site.Wrote change after ∧ change.key = planned.key ∧ change.new = planned.text := by
  obtain ⟨live, facet, text⟩ := planned
  cases facet with
  | none => exact Site.wrote_of_write h
  | some facet => exact Site.wrote_of_set h

theorem accepts_of_perform (h : planned.perform user site = .ok (change, after)) :
    planned.key ∉ site.readOnly ∧ site.store.accepts user := by
  obtain ⟨live, facet, text⟩ := planned
  cases facet with
  | none =>
    obtain ⟨middle, hset, -⟩ := Site.write_eq_ok h
    exact Site.accepts_of_set hset
  | some facet => exact Site.accepts_of_set h

end Planned

/-- Nothing stands in the way of planned writes. -/
structure Site.Writable (site : Site) (user : Option Int) (plan : List Planned) : Prop where
  accepts : site.store.accepts user
  unprotected : ∀ planned ∈ plan, planned.key ∉ site.readOnly
  readable : ∀ planned ∈ plan, ∃ old, site.store.get planned.key = .ok old

theorem Site.Writable.of_subset {site : Site} {user : Option Int} {plan part : List Planned}
    (h : site.Writable user plan) (hpart : part ⊆ plan) : site.Writable user part where
  accepts := h.accepts
  unprotected planned hplanned := h.unprotected planned (hpart hplanned)
  readable planned hplanned := h.readable planned (hpart hplanned)

theorem Planned.exists_perform {planned : Planned} {user : Option Int} {site : Site}
    (h : site.Writable user [planned]) :
    ∃ change after, planned.perform user site = .ok (change, after) := by
  have hset := Site.exists_set (h.unprotected planned List.mem_cons_self)
    (h.readable planned List.mem_cons_self) h.accepts planned.text
  obtain ⟨live, facet, text⟩ := planned
  cases facet with
  | none => exact Site.exists_write hset
  | some facet => exact hset

namespace Progress

/-- How a run gets from one state to another by planned writes, each of which made a change. -/
structure Made (before : Progress) (writes : List (Planned × Change)) (after : Progress) : Prop where
  wrote : before.site.WroteAll (writes.map Prod.snd) after.site
  fulfils : ∀ write ∈ writes, write.2.key = write.1.key ∧ write.2.new = write.1.text
  unprotected : ∀ write ∈ writes, write.1.key ∉ before.site.readOnly
  rows_eq : after.rows = before.rows ++ writes.map fun write => write.1.row write.2.id
  writes_eq : after.writes = before.writes + writes.length

variable {before middle after : Progress} {writes more : List (Planned × Change)}

namespace Made

theorem refl (before : Progress) : before.Made [] before where
  wrote := .nil
  fulfils := fun _ h => nomatch h
  unprotected := fun _ h => nomatch h
  rows_eq := (List.append_nil _).symm
  writes_eq := rfl

theorem append (h : before.Made writes middle) (h' : middle.Made more after) :
    before.Made (writes ++ more) after where
  wrote := by
    rw [List.map_append]
    exact h.wrote.append h'.wrote
  fulfils write hwrite := (List.mem_append.1 hwrite).elim (h.fulfils write) (h'.fulfils write)
  unprotected write hwrite := by
    rcases List.mem_append.1 hwrite with hwrite | hwrite
    · exact h.unprotected write hwrite
    · rw [← h.wrote.keeps.readOnly_eq]
      exact h'.unprotected write hwrite
  rows_eq := by rw [h'.rows_eq, h.rows_eq, List.map_append, List.append_assoc]
  writes_eq := by
    rw [h'.writes_eq, h.writes_eq, List.length_append]
    omega

theorem eq_of_nil (h : before.Made [] after) : after = before := by
  obtain ⟨site, writes, rows⟩ := after
  obtain rfl := h.wrote.eq_of_nil
  obtain rfl := h.writes_eq
  obtain rfl := h.rows_eq
  rw [List.map_nil, List.append_nil]
  rfl

theorem keys_eq (h : before.Made writes after) :
    (writes.map Prod.snd).map Change.key = (writes.map Prod.fst).map Planned.key := by
  rw [List.map_map, List.map_map]
  exact List.map_congr_left fun write hwrite => (h.fulfils write hwrite).1

theorem writable (h : before.Made writes after) {user : Option Int} {plan : List Planned}
    (hplan : before.site.Writable user plan) : after.site.Writable user plan where
  accepts := by
    rw [h.wrote.keeps.accepts_eq]
    exact hplan.accepts
  unprotected planned hplanned := by
    rw [h.wrote.keeps.readOnly_eq]
    exact hplan.unprotected planned hplanned
  readable planned hplanned :=
    h.wrote.staysReadable planned.key (hplan.readable planned hplanned)

end Made

/-- A planned write is made, unless something stands in its way. -/
theorem write_cases (progress : Progress) (user : Option Int) (planned : Planned) :
    (∃ refusal, progress.write false (planned.perform user) planned.row = .error refusal ∧
        ¬ progress.site.Writable user [planned]) ∨
      ∃ change after, progress.write false (planned.perform user) planned.row =
          .ok (some change.id, after) ∧ progress.Made [(planned, change)] after := by
  cases hperform : planned.perform user progress.site with
  | error refusal =>
    refine .inl ⟨refusal, by simp [write, hperform], fun hwritable => ?_⟩
    obtain ⟨change, site, hok⟩ := Planned.exists_perform hwritable
    rw [hperform] at hok
    cases hok
  | ok result =>
    obtain ⟨change, site⟩ := result
    obtain ⟨hwrote, hkey, hnew⟩ := Planned.wrote_of_perform hperform
    refine .inr ⟨change,
      { site, writes := progress.writes + 1, rows := progress.rows ++ [planned.row change.id] },
      by simp [write, hperform], ?_⟩
    exact {
      wrote := .of_wrote hwrote
      fulfils := by
        intro write hwrite
        obtain rfl := List.mem_singleton.1 hwrite
        exact ⟨hkey, hnew⟩
      unprotected := by
        intro write hwrite
        obtain rfl := List.mem_singleton.1 hwrite
        exact (Planned.accepts_of_perform hperform).1
      rows_eq := rfl
      writes_eq := rfl }

/-- A run over a plan: what it makes is a part of it, and all of it if nothing stands in the way. -/
def Performs (before : Progress) (user : Option Int) (plan : List Planned) (after : Progress) : Prop :=
  ∃ writes, before.Made writes after ∧ (writes.map Prod.fst).Sublist plan ∧
    (before.site.Writable user plan → writes.map Prod.fst = plan)

namespace Performs

variable {user : Option Int} {plan rest : List Planned}

theorem refl (before : Progress) (user : Option Int) : before.Performs user [] before :=
  ⟨[], .refl before, .slnil, fun _ => rfl⟩

theorem append (h : before.Performs user plan middle) (h' : middle.Performs user rest after) :
    before.Performs user (plan ++ rest) after := by
  obtain ⟨writes, hmade, hpart, hall⟩ := h
  obtain ⟨more, hmore, hpart', hall'⟩ := h'
  refine ⟨writes ++ more, hmade.append hmore, ?_, fun hwritable => ?_⟩
  · rw [List.map_append]
    exact hpart.append hpart'
  · have hplan := hwritable.of_subset (List.subset_append_left plan rest)
    have hrest := hwritable.of_subset (List.subset_append_right plan rest)
    rw [List.map_append, hall hplan, hall' (hmade.writable hrest)]

theorem of_made {planned : Planned} {change : Change} (h : before.Made [(planned, change)] after) :
    before.Performs user [planned] after :=
  ⟨_, h, .refl _, fun _ => rfl⟩

theorem of_refused {planned : Planned} (h : ¬ before.site.Writable user [planned]) :
    before.Performs user (planned :: rest) before := by
  refine ⟨[], .refl before, List.nil_sublist _, fun hwritable => absurd ?_ h⟩
  exact hwritable.of_subset (List.cons_subset_cons planned (List.nil_subset rest))

end Performs

end Progress

theorem Store.accepts_of_fits {user : Option Int} (huser : user.all fitsColumn) (store : Store) :
    store.accepts user := by
  cases store with
  | memory memory => cases user <;> rfl
  | rows rows => exact huser

namespace Apply

open Progress

variable {request : ApplyRequest} {snapshot : Snapshot}

/-- No key is written twice, however far a run has come. -/
theorem nodup_keys {before middle : Progress} {writes : List (Planned × Change)}
    {items reached : List Item} (hmade : before.Made writes middle)
    (hsnapshot : Snapshot.ofSite before.site = .ok snapshot) (hroot : before.site.tree.FacetsApart)
    (hitems : (items.map Item.key).Nodup) (hreached : reached <+: items)
    (hpart : (writes.map Prod.fst).Sublist (reached.flatMap (plan request snapshot))) :
    ((writes.map Prod.snd).map Change.key).Nodup := by
  rw [hmade.keys_eq]
  have hreached := hitems.sublist (hreached.sublist.map Item.key)
  exact (nodup_plan hsnapshot hroot hreached).sublist (hpart.map Planned.key)

/-- The snapshot has read all the variables that a plan writes. -/
theorem readable_plan {site : Site} (hsnapshot : Snapshot.ofSite site = .ok snapshot)
    {items : List Item} {planned : Planned} (h : planned ∈ items.flatMap (plan request snapshot)) :
    ∃ old, site.store.get planned.key = .ok old := by
  obtain ⟨item, -, hplanned⟩ := List.mem_flatMap.1 h
  obtain ⟨declared, -, hread⟩ := Snapshot.read_of_get hsnapshot (live_of_mem_plan hplanned)
  have hshows := Site.shows_of_read hread
  obtain ⟨live, facet, text⟩ := planned
  cases facet with
  | none =>
    obtain ⟨stored, hstored, -⟩ := hshows.raw_eq
    rw [← hshows.declared_eq] at hstored
    exact ⟨stored, hstored⟩
  | some facet =>
    obtain ⟨stored, hstored, -⟩ := hshows.facet_eq facet (facet_mem_of_mem_plan hplanned rfl)
    exact ⟨stored, hstored⟩

/-- Nothing stands in the way of a plan on a site that protects nothing. -/
theorem writable_plan {site : Site} (hsnapshot : Snapshot.ofSite site = .ok snapshot)
    (hprotected : site.readOnly = []) {user : Option Int} (huser : site.store.accepts user)
    (items : List Item) : site.Writable user (items.flatMap (plan request snapshot)) where
  accepts := huser
  unprotected planned _ := by
    rw [hprotected]
    exact List.not_mem_nil
  readable _ hplanned := readable_plan hsnapshot hplanned

theorem performs_writeFacets (hreal : request.simulate = false) (live : Descriptor)
    (facets : List (Facet × Bool)) (entry : Entry) (progress : Progress) :
    progress.Performs request.user
      (facets.map fun (facet, on) => ⟨live, some facet, some (Value.flagText on)⟩)
      (writeFacets request live entry progress facets).2 := by
  induction facets generalizing entry progress with
  | nil => exact .refl _ _
  | cons row rest ih =>
    obtain ⟨facet, on⟩ := row
    rw [writeFacets, hreal]
    rcases progress.write_cases request.user ⟨live, some facet, some (Value.flagText on)⟩ with
      ⟨refusal, hwrite, hrefused⟩ | ⟨change, after, hwrite, hmade⟩
    · have hwrite : progress.write false
          (·.writeFacet live facet (some (Value.flagText on)) request.user)
          (.facet · live.key.name facet) = .error refusal := hwrite
      rw [hwrite]
      exact .of_refused hrefused
    · have hwrite : progress.write false
          (·.writeFacet live facet (some (Value.flagText on)) request.user)
          (.facet · live.key.name facet) = .ok (some change.id, after) := hwrite
      rw [hwrite]
      exact .append (.of_made hmade) (ih _ after)

theorem performs_writeWanted (hreal : request.simulate = false) (live wanted : Descriptor)
    (entry : Entry) (progress : Progress) :
    progress.Performs request.user (planWanted live wanted)
      (writeWanted request live wanted entry progress).2 := by
  unfold planWanted writeWanted
  split
  · exact performs_writeFacets hreal live _ _ progress
  · rw [hreal]
    rcases progress.write_cases request.user ⟨live, none, wanted.value⟩ with
      ⟨refusal, hwrite, hrefused⟩ | ⟨change, after, hwrite, hmade⟩
    · have hwrite : progress.write false (·.write live wanted.value request.user) .setting =
          .error refusal := hwrite
      dsimp only
      rw [hwrite]
      exact .of_refused hrefused
    · have hwrite : progress.write false (·.write live wanted.value request.user) .setting =
          .ok (some change.id, after) := hwrite
      dsimp only
      rw [hwrite]
      exact .append (.of_made hmade) (performs_writeFacets hreal live _ _ after)

theorem performs_applyItem (hreal : request.simulate = false) (item : Item) (progress : Progress) :
    progress.Performs request.user (plan request snapshot item)
      (applyItem request snapshot item progress).2 := by
  unfold plan applyItem
  cases judge request snapshot item with
  | wanted live wanted => exact performs_writeWanted hreal live wanted _ progress
  | _ => exact .refl _ _

@[simp]
theorem cancelled_add (report : ApplyReport) (entry : Entry) :
    (report.add entry).cancelled = report.cancelled := by
  unfold ApplyReport.add
  split <;> rfl

@[simp]
theorem applicationId_add (report : ApplyReport) (entry : Entry) :
    (report.add entry).applicationId = report.applicationId := by
  unfold ApplyReport.add
  split <;> rfl

theorem foldl_add_cancelled (items : List Item) (report : ApplyReport) :
    (items.foldl (fun report item => report.add (cancelledEntry item)) report).cancelled =
        report.cancelled ∧
      (items.foldl (fun report item => report.add (cancelledEntry item)) report).applicationId =
        report.applicationId := by
  induction items generalizing report with
  | nil => exact ⟨rfl, rfl⟩
  | cons item rest ih =>
    rw [List.foldl_cons]
    obtain ⟨hcancelled, hid⟩ := ih (report.add (cancelledEntry item))
    exact ⟨hcancelled.trans (cancelled_add _ _), hid.trans (applicationId_add _ _)⟩

theorem applicationId_applyItems (items : List Item) (index : Nat) (report : ApplyReport)
    (progress : Progress) :
    (applyItems request snapshot index report progress items).1.applicationId =
      report.applicationId := by
  induction items generalizing index report progress with
  | nil => rfl
  | cons item rest ih =>
    rw [applyItems_cons]
    split
    · exact (foldl_add_cancelled _ _).2
    · exact (ih _ _ _).trans (applicationId_add _ _)

theorem cancelled_of_never (hnever : request.cancellation = .never) (items : List Item) (index : Nat)
    (report : ApplyReport) (progress : Progress) :
    (applyItems request snapshot index report progress items).1.cancelled = report.cancelled := by
  induction items generalizing index report progress with
  | nil => rfl
  | cons item rest ih =>
    rw [applyItems_cons]
    rw [hnever, if_neg (by exact Bool.false_ne_true)]
    exact (ih _ _ _).trans (cancelled_add _ _)

/-- A run over the items reaches the first of them, or all if it is not cancelled. -/
theorem performs_applyItems (hreal : request.simulate = false) (items : List Item) (index : Nat)
    (report : ApplyReport) (progress : Progress) :
    ∃ reached, reached <+: items ∧
      progress.Performs request.user (reached.flatMap (plan request snapshot))
        (applyItems request snapshot index report progress items).2 ∧
      ((applyItems request snapshot index report progress items).1.cancelled = false →
        reached = items) := by
  induction items generalizing index report progress with
  | nil => exact ⟨[], List.prefix_refl [], .refl _ _, fun _ => rfl⟩
  | cons item rest ih =>
    rw [applyItems_cons]
    split
    · refine ⟨[], List.nil_prefix, .refl _ _, fun h => ?_⟩
      rw [(foldl_add_cancelled _ _).1] at h
      cases h
    · have hitem : progress.Performs request.user (plan request snapshot item) _ :=
        performs_applyItem hreal item progress
      obtain ⟨reached, hprefix, hperforms, hall⟩ := ih (index + 1)
        (report.add (applyItem request snapshot item progress).1)
        (applyItem request snapshot item progress).2
      refine ⟨item :: reached, List.cons_prefix_cons.2 ⟨rfl, hprefix⟩, ?_, fun h => ?_⟩
      · rw [List.flatMap_cons]
        exact hitem.append hperforms
      · exact congrArg (item :: ·) (hall h)

end Apply

end SitePresets
