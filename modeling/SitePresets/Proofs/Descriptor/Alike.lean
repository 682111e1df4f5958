import Mathlib.Data.List.Basic
import SitePresets.Proofs.Descriptor.Facets
import SitePresets.Proofs.Table

/-!
# Settings that are alike

A setting read at two times may hold two values, and offer its choices in two orders. It still cleans and
compares values in one way, and takes the same facets from stored variables.
-/

namespace SitePresets

namespace Descriptor

variable {live now : Descriptor} {facet : Facet}

/-- Two descriptors of one setting, with the same choices in some order. -/
structure Alike (live now : Descriptor) : Prop where
  declared_eq : now.declared = live.declared
  kind_eq : now.kind = live.kind
  isChoice_eq : now.rule.isChoice = live.rule.isChoice

namespace Alike

theorem of_rule_eq (hdeclared : now.declared = live.declared) (hkind : now.kind = live.kind)
    (hrule : now.rule = live.rule) : live.Alike now :=
  ⟨hdeclared, hkind, congrArg ValueRule.isChoice hrule⟩

theorem refl (live : Descriptor) : live.Alike live :=
  ⟨rfl, rfl, rfl⟩

theorem key_eq (h : live.Alike now) : now.key = live.key := by
  unfold key
  rw [h.declared_eq]

theorem facetKey_eq (h : live.Alike now) (facet : Facet) : now.facetKey facet = live.facetKey facet := by
  unfold facetKey
  rw [h.declared_eq]

theorem facetOfVariable_eq (h : live.Alike now) :
    now.facetOfVariable? = live.facetOfVariable? := by
  funext name
  unfold facetOfVariable?
  rw [h.kind_eq, h.declared_eq]

theorem clean_eq (h : live.Alike now) : now.rule.clean = live.rule.clean := by
  have hfamily : now.rule.family = live.rule.family := congrArg Kind.family h.kind_eq
  have hnumeric : now.rule.numeric = live.rule.numeric := congrArg Declaration.paramType h.declared_eq
  have htext : now.rule.cleanText = live.rule.cleanText := by
    funext text
    unfold ValueRule.cleanText ValueRule.cleanNumber ValueRule.isNumeric ValueRule.isWhole
    rw [hfamily, hnumeric, h.isChoice_eq]
  funext value
  unfold ValueRule.clean
  rw [htext]

theorem same_eq (h : live.Alike now) : now.rule.same = live.rule.same := by
  have hfamily : now.rule.family = live.rule.family := congrArg Kind.family h.kind_eq
  have hnumeric : now.rule.numeric = live.rule.numeric := congrArg Declaration.paramType h.declared_eq
  funext value other
  unfold ValueRule.same ValueRule.isNumeric
  rw [hfamily, hnumeric]

theorem value_withStored (h : live.Alike now) (raw : Option String)
    (attributes : List (String × Option String)) :
    (now.withStored raw attributes).value = (live.withStored raw attributes).value := by
  show now.rule.clean raw = live.rule.clean raw
  rw [h.clean_eq]

theorem facets_withStored (h : live.Alike now) (raw : Option String)
    (attributes : List (String × Option String)) :
    (now.withStored raw attributes).facets = (live.withStored raw attributes).facets := by
  unfold withStored withValue
  simp only [h.facetOfVariable_eq, h.kind_eq]

theorem isValid_withStored (h : live.Alike now) (raw : Option String)
    (attributes : List (String × Option String)) :
    (now.withStored raw attributes).isValid = (live.withStored raw attributes).isValid := by
  unfold isValid
  rw [h.value_withStored]
  rfl

end Alike

/-! ### The order of facets -/

/-- Facets come in the order of the kind, however they are given. -/
theorem facetsOf_eq_filterMap (kind : Kind) (given : List (Facet × Option String)) :
    facetsOf kind given = kind.facets.filterMap fun facet =>
      (Table.find? facet (facetsOf kind given)).map fun on => (facet, on) := by
  conv => lhs; unfold facetsOf
  refine List.filterMap_congr fun facet hfacet => ?_
  rw [find?_facetsOf hfacet, Option.map_map]
  rfl

/-- Whether the facets of a setting come in the order of its kind. -/
def Arranged (d : Descriptor) : Prop :=
  d.facets = d.kind.facets.filterMap fun facet => (d.facet? facet).map fun on => (facet, on)

theorem arranged_withStored (d : Descriptor) (raw : Option String)
    (attributes : List (String × Option String)) : (d.withStored raw attributes).Arranged :=
  facetsOf_eq_filterMap _ _

/-- Two settings of a kind have the same facets if they say the same of each facet. -/
theorem Arranged.facets_eq (h : live.Arranged) (hnow : now.Arranged) (hkind : now.kind = live.kind)
    (hfacet : ∀ facet ∈ live.kind.facets, now.facet? facet = live.facet? facet) :
    now.facets = live.facets := by
  rw [h, hnow, hkind]
  exact List.filterMap_congr fun facet hmem => by rw [hfacet facet hmem]

theorem Arranged.nodup (h : live.Arranged) : (live.facets.map Prod.fst).Nodup := by
  rw [h]
  exact Table.nodup_filterMap _ live.kind.nodup_facets

theorem Arranged.mem_facets (h : live.Arranged) {on : Bool} :
    (facet, on) ∈ live.facets ↔ live.facet? facet = some on := by
  have hnodup : (⟨live.facets⟩ : Table Facet Bool).keys.Nodup := h.nodup
  exact Table.mem_rows_iff hnodup

theorem Arranged.facet_mem (h : live.Arranged) {row : Facet × Bool} (hrow : row ∈ live.facets) :
    row.1 ∈ live.kind.facets := by
  rw [h] at hrow
  obtain ⟨facet, hfacet, hrow⟩ := List.mem_filterMap.1 hrow
  obtain ⟨on, -, rfl⟩ := Option.map_eq_some_iff.1 hrow
  exact hfacet

/-- What a setting takes from stored variables for a facet. -/
theorem facet_withStored (d : Descriptor) (raw : Option String)
    (attributes : List (String × Option String)) (hfacet : facet ∈ d.kind.facets) :
    (d.withStored raw attributes).facet? facet =
      (Table.find? (facet.variableOf d.declared.name) attributes.reverse).join.map Value.textIsOn := by
  rw [← get?_given hfacet]
  exact find?_facetsOf hfacet

end Descriptor

end SitePresets
