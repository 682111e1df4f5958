import SitePresets.Apply
import SitePresets.Proofs.Site.Writing

/-!
# The plan of an apply

The snapshot at the start decides what an apply is going to write: the plan. No key is planned twice.
A run makes planned writes in their order and records each as a row of its own; it makes all of them
if none is refused and the run is not cancelled.
-/

namespace SitePresets

/-- A write that a run is going to make: of the value of a live setting, or of a facet. -/
structure Planned where
  live : Descriptor
  facet : Option Facet
  text : Option String

namespace Planned

def key (planned : Planned) : Key :=
  match planned.facet with
  | none => planned.live.key
  | some facet => planned.live.facetKey facet

/-- The row that records the write, by its number in the log. -/
def row (planned : Planned) (logId : Nat) : LedgerRow :=
  match planned.facet with
  | none => .setting logId
  | some facet => .facet logId planned.live.key.name facet

theorem isSetting_row (planned : Planned) (logId : Nat) :
    (planned.row logId).isSetting = decide (planned.facet = none) := by
  unfold row
  cases planned.facet <;> rfl

theorem isFacet_row (planned : Planned) (logId : Nat) :
    (planned.row logId).isFacet = decide (planned.facet ≠ none) := by
  unfold row
  cases planned.facet <;> rfl

theorem logId_row (planned : Planned) (logId : Nat) : (planned.row logId).logId? = some logId := by
  unfold row
  cases planned.facet <;> rfl

/-- What is written, and where. -/
def brief (planned : Planned) : Key × Option String :=
  (planned.key, planned.text)

/-- The same write for a setting read again. -/
def on (planned : Planned) (now : Descriptor) : Planned :=
  { planned with live := now }

theorem key_on {planned : Planned} {now : Descriptor} (h : now.declared = planned.live.declared) :
    (planned.on now).key = planned.key := by
  unfold key on Descriptor.key Descriptor.facetKey
  rw [h]

/-- Whether the setting does not have yet what would be written. -/
def differs (planned : Planned) : Bool :=
  match planned.facet with
  | none => !planned.live.equals planned.text
  | some facet => !planned.live.facetEquals facet planned.text

/-- Whether a write takes the value of a setting away whose default is a value. Then the setting has a value
again at once, which is not what was written. -/
def reverts (planned : Planned) : Bool :=
  planned.facet.isNone && planned.text.isNone &&
    (planned.live.rule.clean (some planned.live.declared.defaultText)).isSome

theorem eq_none_of_reverts {planned : Planned} (h : planned.reverts) :
    planned.facet = none ∧ planned.text = none := by
  unfold reverts at h
  simp only [Bool.and_eq_true, Option.isNone_iff_eq_none] at h
  exact h.1

/-- A write of the cleaned form of a value, or of a flag for a facet that the setting has. -/
def IsProper (planned : Planned) : Prop :=
  match planned.facet with
  | none => ∃ source, planned.text = planned.live.rule.clean source
  | some facet => facet ∈ planned.live.kind.facets ∧ ∃ on, planned.text = some (Value.flagText on)

end Planned

namespace Apply

def planFacets (live wanted : Descriptor) : List Planned :=
  (facetChanges live wanted).map fun (facet, on) => ⟨live, some facet, some (Value.flagText on)⟩

def planWanted (live wanted : Descriptor) : List Planned :=
  if live.equals wanted.value then planFacets live wanted
  else ⟨live, none, wanted.value⟩ :: planFacets live wanted

def plan (request : ApplyRequest) (snapshot : Snapshot) (item : Item) : List Planned :=
  match judge request snapshot item with
  | .wanted live wanted => planWanted live wanted
  | _ => []

/-! ### What is planned -/

section Plan

variable {request : ApplyRequest} {snapshot : Snapshot} {item : Item} {planned : Planned}

/-- The verdicts on an item, by what is known of it. -/
theorem judge_cases (request : ApplyRequest) (snapshot : Snapshot) (item : Item) :
    (item.key ∈ request.exclusions ∧ request.override = false ∧
        judge request snapshot item = .excluded) ∨
      (item.key ∉ request.exclusions ∨ request.override = true) ∧
        (snapshot.get? item.key = none ∧ judge request snapshot item = .unknown ∨
          ∃ live, snapshot.get? item.key = some live ∧ judge request snapshot item =
            if (live.withStored item.value item.attributes).isValid then
              .wanted live (live.withStored item.value item.attributes)
            else .invalid live) := by
  unfold judge
  by_cases hexcluded : item.key ∈ request.exclusions ∧ ¬ request.override
  · exact .inl ⟨hexcluded.1, Bool.eq_false_iff.2 hexcluded.2, if_pos hexcluded⟩
  · refine .inr ⟨by rwa [not_and_or, not_not] at hexcluded, ?_⟩
    rw [if_neg hexcluded]
    cases snapshot.get? item.key with
    | none => exact .inl ⟨rfl, rfl⟩
    | some live => exact .inr ⟨live, rfl, rfl⟩

theorem judge_eq_wanted {live wanted : Descriptor} :
    judge request snapshot item = .wanted live wanted ↔
      (item.key ∉ request.exclusions ∨ request.override) ∧ snapshot.get? item.key = some live ∧
        wanted = live.withStored item.value item.attributes ∧ wanted.isValid := by
  unfold judge
  by_cases hexcluded : item.key ∈ request.exclusions ∧ ¬ request.override
  · rw [if_pos hexcluded]
    simp only [reduceCtorEq, false_iff]
    rintro ⟨hkept | hkept, -⟩
    · exact hkept hexcluded.1
    · exact hexcluded.2 hkept
  · rw [if_neg hexcluded]
    have hkept : item.key ∉ request.exclusions ∨ request.override := by
      rwa [not_and_or, not_not] at hexcluded
    cases snapshot.get? item.key with
    | none => simp
    | some found =>
      by_cases hvalid : (found.withStored item.value item.attributes).isValid
      · simp only [hvalid, if_true, Verdict.wanted.injEq, Option.some.injEq, hkept, true_and]
        constructor
        · rintro ⟨rfl, rfl⟩
          exact ⟨rfl, rfl, hvalid⟩
        · rintro ⟨rfl, rfl, -⟩
          exact ⟨rfl, rfl⟩
      · simp only [hvalid, Bool.false_eq_true, if_false, reduceCtorEq, false_iff]
        rintro ⟨-, hfound, rfl, hwanted⟩
        obtain rfl := Option.some.inj hfound
        exact hvalid hwanted

theorem mem_planFacets {live wanted : Descriptor} :
    planned ∈ planFacets live wanted ↔ ∃ facet on, (facet, on) ∈ wanted.facets ∧
      live.facetEquals facet (some (Value.flagText on)) = false ∧
        planned = ⟨live, some facet, some (Value.flagText on)⟩ := by
  unfold planFacets facetChanges
  rw [List.mem_map]
  constructor
  · rintro ⟨⟨facet, on⟩, hmem, rfl⟩
    obtain ⟨hmem, hdiffers⟩ := List.mem_filter.1 hmem
    exact ⟨facet, on, hmem, by simpa using hdiffers, rfl⟩
  · rintro ⟨facet, on, hmem, hdiffers, rfl⟩
    exact ⟨(facet, on), List.mem_filter.2 ⟨hmem, by simpa using hdiffers⟩, rfl⟩

theorem mem_planWanted {live wanted : Descriptor} :
    planned ∈ planWanted live wanted ↔
      (live.equals wanted.value = false ∧ planned = ⟨live, none, wanted.value⟩) ∨
        planned ∈ planFacets live wanted := by
  unfold planWanted
  by_cases h : live.equals wanted.value = true
  · simp [h]
  · simp [h]

theorem mem_plan : planned ∈ plan request snapshot item ↔
    ∃ live wanted, judge request snapshot item = .wanted live wanted ∧
      planned ∈ planWanted live wanted := by
  unfold plan
  cases judge request snapshot item <;> simp

theorem live_of_mem_planWanted {live wanted : Descriptor} (h : planned ∈ planWanted live wanted) :
    planned.live = live := by
  rcases mem_planWanted.1 h with ⟨-, rfl⟩ | h
  · rfl
  · obtain ⟨facet, on, -, -, rfl⟩ := mem_planFacets.1 h
    rfl

theorem live_of_mem_plan (h : planned ∈ plan request snapshot item) :
    snapshot.get? item.key = some planned.live := by
  obtain ⟨live, wanted, hjudge, h⟩ := mem_plan.1 h
  rw [live_of_mem_planWanted h]
  exact (judge_eq_wanted.1 hjudge).2.1

theorem facet_mem_of_mem_plan (h : planned ∈ plan request snapshot item) {facet : Facet}
    (hfacet : planned.facet = some facet) : facet ∈ planned.live.kind.facets := by
  obtain ⟨live, wanted, hjudge, h⟩ := mem_plan.1 h
  obtain ⟨-, -, rfl, -⟩ := judge_eq_wanted.1 hjudge
  rcases mem_planWanted.1 h with ⟨-, rfl⟩ | h
  · cases hfacet
  · obtain ⟨other, on, hmem, -, rfl⟩ := mem_planFacets.1 h
    obtain rfl := Option.some.inj hfacet
    exact (Descriptor.mem_facets_withStored.1 hmem).1

theorem cleaned_of_mem_plan (h : planned ∈ plan request snapshot item) (hvalue : item.value.isSome)
    (hfacet : planned.facet = none) :
    ∃ text, planned.text = some text ∧ planned.live.rule.clean item.value = some text := by
  obtain ⟨live, wanted, hjudge, h⟩ := mem_plan.1 h
  obtain ⟨-, -, rfl, hvalid⟩ := judge_eq_wanted.1 hjudge
  rcases mem_planWanted.1 h with ⟨-, rfl⟩ | h
  · have hvalid : (item.value.isNone || (live.rule.clean item.value).isSome) = true := hvalid
    rw [Option.isNone_eq_false_iff.2 hvalue, Bool.false_or] at hvalid
    obtain ⟨text, htext⟩ := Option.isSome_iff_exists.1 hvalid
    exact ⟨text, htext, htext⟩
  · obtain ⟨facet, on, -, -, rfl⟩ := mem_planFacets.1 h
    cases hfacet

/-- A value that is given lasts. -/
theorem reverts_of_value (h : planned ∈ plan request snapshot item) (hvalue : item.value.isSome) :
    planned.reverts = false := by
  rw [← Bool.not_eq_true]
  intro hreverts
  obtain ⟨hfacet, htext⟩ := Planned.eq_none_of_reverts hreverts
  obtain ⟨text, hsome, -⟩ := cleaned_of_mem_plan h hvalue hfacet
  rw [htext] at hsome
  cases hsome

theorem flag_of_mem_plan (h : planned ∈ plan request snapshot item) {facet : Facet}
    (hfacet : planned.facet = some facet) : ∃ on, planned.text = some (Value.flagText on) := by
  obtain ⟨live, wanted, hjudge, h⟩ := mem_plan.1 h
  rcases mem_planWanted.1 h with ⟨-, rfl⟩ | h
  · cases hfacet
  · obtain ⟨facet, on, -, -, rfl⟩ := mem_planFacets.1 h
    exact ⟨on, rfl⟩

theorem differs_of_mem_plan (h : planned ∈ plan request snapshot item) : planned.differs = true := by
  obtain ⟨live, wanted, -, h⟩ := mem_plan.1 h
  unfold Planned.differs
  rcases mem_planWanted.1 h with ⟨hdiffers, rfl⟩ | h
  · simp [hdiffers]
  · obtain ⟨facet, on, -, hdiffers, rfl⟩ := mem_planFacets.1 h
    simp [hdiffers]

theorem isProper_of_mem_plan (h : planned ∈ plan request snapshot item) : planned.IsProper := by
  unfold Planned.IsProper
  split
  · rename_i hfacet
    obtain ⟨live, wanted, hjudge, h⟩ := mem_plan.1 h
    obtain ⟨-, -, rfl, -⟩ := judge_eq_wanted.1 hjudge
    rcases mem_planWanted.1 h with ⟨-, rfl⟩ | h
    · exact ⟨item.value, rfl⟩
    · obtain ⟨facet, on, -, -, rfl⟩ := mem_planFacets.1 h
      cases hfacet
  · rename_i facet hfacet
    exact ⟨facet_mem_of_mem_plan h hfacet, flag_of_mem_plan h hfacet⟩

end Plan

/-! ### No key is planned twice -/

section Distinct

variable {request : ApplyRequest} {site : Site} {snapshot : Snapshot} {root : Node}

/-- A planned write is known by its key. -/
theorem key_inj (hroot : root.FacetsApart) {a b : Planned}
    (ha : a.live.declared ∈ root.declarations) (hb : b.live.declared ∈ root.declarations)
    (h : a.key = b.key) : a.live.key = b.live.key ∧ a.facet = b.facet := by
  obtain ⟨live, facet, text⟩ := a
  obtain ⟨other, facet', text'⟩ := b
  have hkey (d : Descriptor) : d.key = ⟨d.declared.scope, d.declared.name⟩ := rfl
  cases facet with
  | none =>
    cases facet' with
    | none => exact ⟨h, rfl⟩
    | some facet' =>
      obtain ⟨hscope, hname⟩ := Key.mk.inj h
      exact absurd hname (hroot _ ha _ hb facet' hscope)
  | some facet =>
    cases facet' with
    | none =>
      obtain ⟨hscope, hname⟩ := Key.mk.inj h
      exact absurd hname.symm (hroot _ hb _ ha facet hscope.symm)
    | some facet' =>
      obtain ⟨hscope, hname⟩ := Key.mk.inj h
      obtain ⟨rfl, hname⟩ := Facet.variableOf_inj hname
      exact ⟨by rw [hkey, hkey, hscope, hname], rfl⟩

theorem pairwise_facet_planWanted (live : Descriptor) (raw : Option String)
    (attributes : List (String × Option String)) :
    (planWanted live (live.withStored raw attributes)).Pairwise fun a b => a.facet ≠ b.facet := by
  have hfacets : (planFacets live (live.withStored raw attributes)).Pairwise
      fun a b => a.facet ≠ b.facet := by
    unfold planFacets facetChanges
    rw [List.pairwise_map]
    refine List.Pairwise.filter _ ?_
    have hnodup : ((live.withStored raw attributes).facets.map Prod.fst).Nodup :=
      Descriptor.nodup_facetsOf
    rw [List.Nodup, List.pairwise_map] at hnodup
    exact hnodup.imp fun hne heq => hne (Option.some.inj heq)
  unfold planWanted
  split
  · exact hfacets
  · refine List.pairwise_cons.2 ⟨fun planned h => ?_, hfacets⟩
    obtain ⟨facet, on, -, -, rfl⟩ := mem_planFacets.1 h
    exact Option.some_ne_none facet |>.symm

theorem declared_of_get (h : Snapshot.ofSite site = .ok snapshot) {key : Key} {live : Descriptor}
    (hlive : snapshot.get? key = some live) :
    live.declared ∈ site.tree.declarations ∧ live.key = key := by
  obtain ⟨declared, hoffered, hread⟩ := Snapshot.read_of_get h hlive
  obtain ⟨hmem, hkey⟩ := Site.mem_of_offered hoffered
  have hdeclared := (Site.shows_of_read hread).declared_eq
  exact ⟨hdeclared ▸ hmem, by rw [← hkey, ← hdeclared]; rfl⟩

/-- No key is planned twice if the items have different keys. -/
theorem nodup_plan (h : Snapshot.ofSite site = .ok snapshot) (hroot : site.tree.FacetsApart)
    {items : List Item} (hitems : (items.map Item.key).Nodup) :
    ((items.flatMap (plan request snapshot)).map Planned.key).Nodup := by
  rw [List.Nodup, List.pairwise_map, List.pairwise_flatMap]
  constructor
  · intro item _
    cases hjudge : judge request snapshot item with
    | wanted live wanted =>
      obtain ⟨-, hlive, rfl, -⟩ := judge_eq_wanted.1 hjudge
      have hdeclared := (declared_of_get h hlive).1
      have hplan : plan request snapshot item =
          planWanted live (live.withStored item.value item.attributes) := by
        unfold plan
        rw [hjudge]
      rw [hplan]
      refine (pairwise_facet_planWanted live _ _).imp_of_mem fun ha hb hne heq => hne ?_
      refine (key_inj hroot ?_ ?_ heq).2
      · rwa [live_of_mem_planWanted ha]
      · rwa [live_of_mem_planWanted hb]
    | _ =>
      unfold plan
      rw [hjudge]
      exact .nil
  · rw [List.Nodup, List.pairwise_map] at hitems
    refine hitems.imp fun hne a ha b hb heq => hne ?_
    have ha := declared_of_get h (live_of_mem_plan ha)
    have hb := declared_of_get h (live_of_mem_plan hb)
    rw [← ha.2, ← hb.2]
    exact (key_inj hroot ha.1 hb.1 heq).1

end Distinct

end Apply

end SitePresets
