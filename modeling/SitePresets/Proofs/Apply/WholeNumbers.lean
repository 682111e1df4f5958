import SitePresets.Proofs.Apply.Plan
import SitePresets.Proofs.Descriptor.Comparing
import SitePresets.Proofs.Service.Recording

/-!
# Settings of whole numbers

A setting of whole numbers reads numerals in double precision. It holds the nearest number that there is, and
takes numerals for equal that are read as the same one. Up to 53 binary digits and zeros this is the number
itself, and beyond a limit there is none.
-/

namespace SitePresets

open Numeral Numeral.Binary64

theorem Text.replacePair_of_not_mem {first second : Char} {new chars : List Char} (h : first ∉ chars) :
    Text.replacePair first second new chars = chars := by
  induction chars with
  | nil => rfl
  | cons c rest ih =>
    have hc : c ≠ first := fun heq => h (heq ▸ List.mem_cons_self)
    cases rest with
    | nil => rfl
    | cons d rest =>
      rw [Text.replacePair, if_neg fun hpair => hc hpair.1, ih fun hmem => h (List.mem_cons_of_mem c hmem)]

theorem unifyLineEnds_text (z : Int) : unifyLineEnds (Integer.text z) = Integer.chars z := by
  unfold unifyLineEnds Integer.text
  rw [String.toList_ofList]
  refine Text.replacePair_of_not_mem fun hmem => ?_
  rcases Integer.mem_chars hmem with h | h <;> revert h <;> decide

/-! ### Values -/

namespace ValueRule

variable {rule : ValueRule} {z w : Int}

theorem cleanNumber_text (hwhole : rule.isWhole = true) (z : Int) :
    rule.cleanNumber (Integer.text z) =
      if IsWithin z then some (Integer.text (nearestWhole z)) else none := by
  unfold cleanNumber
  dsimp only
  rw [Integer.trim_text, Decimal.read_text]
  dsimp only
  rw [if_pos hwhole, whole_ofWhole]
  split <;> rfl

theorem textsDiffer_text (hz : IsWithin z) : textsDiffer (some (Integer.text (nearestWhole z)))
    (some (Integer.text w)) = false ↔ nearestWhole z = nearestWhole w := by
  have hwithin := isWithin_nearestWhole.2 hz
  have hnan : ofWhole (nearestWhole z) ≠ .nan := by
    rw [ofWhole_of_isWithin hwithin]
    exact fun h => nomatch h
  rw [textsDiffer_of_read (Decimal.read_text _) (Decimal.read_text _) hnan, Bool.not_eq_false',
    same_ofWhole hwithin, nearestWhole_nearestWhole]

end ValueRule

/-! ### Settings -/

namespace Descriptor

variable {live : Descriptor}

/-- A text setting of whole numbers. -/
structure TakesWhole (live : Descriptor) : Prop where
  family : live.kind.family ∈ [Family.text, .lines, .secret]
  whole : live.declared.paramType = some "int"

namespace TakesWhole

theorem isNumeric (h : live.TakesWhole) : live.rule.isNumeric = true := by
  unfold ValueRule.isNumeric
  rw [Bool.or_eq_true]
  exact .inl (decide_eq_true h.whole)

theorem family_cases (h : live.TakesWhole) :
    live.rule.family = .text ∨ live.rule.family = .lines ∨ live.rule.family = .secret := by
  have hfamily : live.rule.family ∈ [Family.text, .lines, .secret] := h.family
  simpa using hfamily

theorem value_text (h : live.TakesWhole) (z : Int) (given : List (Facet × Option String)) :
    (live.withValue (some (Integer.text z)) given).value =
      if IsWithin z then some (Integer.text (nearestWhole z)) else none := by
  have hclean : live.rule.cleanText (Integer.text z) = live.rule.cleanNumber (Integer.text z) := by
    unfold ValueRule.cleanText
    rcases h.family_cases with hfamily | hfamily | hfamily
    all_goals
      rw [hfamily]
      exact if_pos h.isNumeric
  show live.rule.cleanText (Integer.text z) = _
  rw [hclean, ValueRule.cleanNumber_text (decide_eq_true h.whole)]

/-- Numerals are taken for equal to the number held that are read as it, or of several lines that are it. -/
theorem equals_text (h : live.TakesWhole) (z w : Int) (given : List (Facet × Option String)) :
    (live.withValue (some (Integer.text z)) given).equals (some (Integer.text w)) = true ↔
      IsWithin z ∧ nearestWhole z = if live.kind.family = .lines then w else nearestWhole w := by
  have hlines : live.kind.family = .lines ↔ live.rule.family = .lines := Iff.rfl
  unfold equals
  show live.rule.same _ _ = true ↔ _
  rw [h.value_text]
  split
  · rename_i hz
    rw [and_iff_right hz]
    unfold ValueRule.same
    rcases h.family_cases with hfamily | hfamily | hfamily
    · simp only [hlines, hfamily, reduceCtorEq, if_false]
      rw [if_pos h.isNumeric, Bool.not_eq_true', ValueRule.textsDiffer_text hz]
    · simp only [hlines, hfamily, if_true, unifyLineEnds_text, decide_eq_true_eq]
      exact ⟨Integer.chars_inj, congrArg _⟩
    · simp only [hlines, hfamily, reduceCtorEq, if_false]
      rw [if_pos h.isNumeric, Bool.not_eq_true', ValueRule.textsDiffer_text hz]
  · rename_i hz
    rw [ValueRule.same_none_some]
    exact iff_of_false Bool.false_ne_true fun heq => hz heq.1

end TakesWhole

end Descriptor

/-! ### Applying -/

namespace Apply

variable {live : Descriptor} {request : ApplyRequest} {snapshot : Snapshot} {item : Item} {z w : Int}

/-- An apply writes no number but the nearest one. -/
theorem text_of_whole (h : live.TakesWhole) (hlive : snapshot.get? item.key = some live)
    (hvalue : item.value = some (Integer.text z)) {planned : Planned}
    (hplanned : planned ∈ plan request snapshot item) (hfacet : planned.facet = none) :
    planned.text = some (Integer.text (nearestWhole z)) := by
  have hsome : item.value.isSome := hvalue ▸ rfl
  obtain ⟨text, htext, hclean⟩ := cleaned_of_mem_plan hplanned hsome hfacet
  obtain rfl := Option.some.inj (hlive.symm.trans (live_of_mem_plan hplanned))
  have hheld := h.value_text z []
  rw [hvalue] at hclean
  have hclean : (planned.live.withValue (some (Integer.text z)) []).value = some text := hclean
  rw [hclean] at hheld
  split at hheld
  · rw [htext, hheld]
  · cases hheld

/-- An apply writes no number if the setting holds one that is read as the same. -/
theorem writes_whole_iff (h : live.TakesWhole)
    (hkept : item.key ∉ request.exclusions ∨ request.override = true)
    (hlive : snapshot.get? item.key = some live) (hraw : live.raw = some (Integer.text w))
    (hvalue : item.value = some (Integer.text z)) :
    (∃ planned ∈ plan request snapshot item, planned.facet = none) ↔
      IsWithin z ∧ (IsWithin w → nearestWhole w ≠ nearestWhole z) := by
  have hwanted : (live.withStored item.value item.attributes).value =
      if IsWithin z then some (Integer.text (nearestWhole z)) else none := by
    rw [hvalue]
    exact h.value_text z _
  have hvalid : (live.withStored item.value item.attributes).isValid = true ↔ IsWithin z := by
    unfold Descriptor.isValid
    rw [hwanted]
    show (item.value.isNone || _) = true ↔ _
    rw [hvalue]
    split <;> simp [*]
  have hequals : live.equals (some (Integer.text (nearestWhole z))) = true ↔
      IsWithin w ∧ nearestWhole w = nearestWhole z := by
    have hheld := h.equals_text w (nearestWhole z) []
    rw [← hraw, nearestWhole_nearestWhole, ite_self] at hheld
    exact hheld
  constructor
  · rintro ⟨planned, hplanned, hfacet⟩
    obtain ⟨other, wanted, hjudge, hplanned⟩ := mem_plan.1 hplanned
    obtain ⟨-, hother, rfl, hisvalid⟩ := judge_eq_wanted.1 hjudge
    obtain rfl := Option.some.inj (hlive.symm.trans hother)
    have hz := hvalid.1 hisvalid
    rcases mem_planWanted.1 hplanned with ⟨hdiffers, -⟩ | hplanned
    · rw [hwanted, if_pos hz, ← Bool.not_eq_true, hequals] at hdiffers
      exact ⟨hz, fun hw heq => hdiffers ⟨hw, heq⟩⟩
    · obtain ⟨facet, on, -, -, rfl⟩ := mem_planFacets.1 hplanned
      cases hfacet
  · rintro ⟨hz, hdiffers⟩
    have hjudge := judge_eq_wanted.2 ⟨hkept, hlive, rfl, hvalid.2 hz⟩
    refine ⟨_, mem_plan.2 ⟨live, _, hjudge, mem_planWanted.2 (.inl ⟨?_, rfl⟩)⟩, rfl⟩
    rw [hwanted, if_pos hz, ← Bool.not_eq_true, hequals]
    exact fun heq => hdiffers heq.1 heq.2

end Apply

/-! ### Numbers and their neighbours -/

/-- How a setting takes a whole number for another one, and an apply of the one to a setting that holds the
other. -/
structure TakesNearest (live : Descriptor) (z w : Int) : Prop where
  /-- The number that is held for another one is the nearest in double precision, on the same side of zero. -/
  nearest : Rounds z.natAbs 1 (nearestWhole z).natAbs
  nonneg : 0 ≤ z → 0 ≤ nearestWhole z
  nonpos : z ≤ 0 → nearestWhole z ≤ 0
  value_eq : ∀ given, (live.withValue (some (Integer.text z)) given).value =
    if IsWithin z then some (Integer.text (nearestWhole z)) else none
  equals_iff : ∀ given,
    (live.withValue (some (Integer.text z)) given).equals (some (Integer.text w)) = true ↔
      IsWithin z ∧ nearestWhole z = if live.kind.family = .lines then w else nearestWhole w
  /-- Exact numbers are held as they are, and are equal to themselves only. -/
  value_eq_self_iff : ∀ given,
    (live.withValue (some (Integer.text z)) given).value = some (Integer.text z) ↔ IsExact z
  equals_iff_of_exact : IsExact z → IsExact w → ∀ given,
    ((live.withValue (some (Integer.text z)) given).equals (some (Integer.text w)) = true ↔ z = w)
  /-- An apply writes the nearest number, unless the setting has it already or it is beyond the limit. -/
  writes : ∀ request snapshot item planned, snapshot.get? item.key = some live →
    item.value = some (Integer.text z) → planned ∈ Apply.plan request snapshot item →
      planned.facet = none → planned.text = some (Integer.text (nearestWhole z))
  writes_iff : ∀ (request : ApplyRequest) snapshot item,
    item.key ∉ request.exclusions ∨ request.override = true →
      snapshot.get? item.key = some live → live.raw = some (Integer.text w) →
        item.value = some (Integer.text z) →
          ((∃ planned ∈ Apply.plan request snapshot item, planned.facet = none) ↔
            IsWithin z ∧ (IsWithin w → nearestWhole w ≠ nearestWhole z))

/-- Settings of whole numbers take whole numbers for the nearest ones in double precision. -/
theorem whole_numbers_rounded {live : Descriptor} (h : live.TakesWhole) (z w : Int) :
    TakesNearest live z w where
  nearest := rounds_nearestWhole z
  nonneg := nearestWhole_nonneg
  nonpos := nearestWhole_nonpos
  value_eq := h.value_text z
  equals_iff := h.equals_text z w
  value_eq_self_iff given := by
    rw [h.value_text, isExact_iff]
    split
    · rw [Option.some_inj, and_iff_right ‹_›]
      exact ⟨Integer.text_inj, congrArg _⟩
    · exact iff_of_false (fun heq => nomatch heq) fun hexact => absurd hexact.1 ‹_›
  equals_iff_of_exact hz hw given := by
    obtain ⟨hwithin, hz⟩ := isExact_iff.1 hz
    rw [h.equals_text, and_iff_right hwithin, hz, (isExact_iff.1 hw).2, ite_self]
  writes _ _ _ _ hlive hvalue := Apply.text_of_whole h hlive hvalue
  writes_iff _ _ _ hkept hlive hraw hvalue := Apply.writes_whole_iff h hkept hlive hraw hvalue

namespace SmallSite

def quota : Key := ⟨siteScope, "quota"⟩

def quotaSetting : Declaration := { name := "quota", paramType := some "int" }

theorem takesWhole_quota (raw : Option String) : (Descriptor.wrap .text quotaSetting raw []).TakesWhole :=
  ⟨(by decide : Family.text ∈ [Family.text, .lines, .secret]), rfl⟩

theorem quota_rounded :
    (Descriptor.wrap .text quotaSetting none []).TakesWhole ∧
      TakesNearest (Descriptor.wrap .text quotaSetting none []) 9007199254740993 9007199254740992 :=
  ⟨takesWhole_quota none, whole_numbers_rounded (takesWhole_quota none) _ _⟩

/-- A site with a setting of whole numbers, and a preset with another number for it. -/
def rationed (stored wanted : String) : Service where
  site := {
    store := .memory (.ofLists [(quota, some stored)] [])
    tree := .category "root" "" [.page "front" "" [.setting quotaSetting]] }
  library := {
    presets := [{
      preset 1 [] with
      items := [⟨1, { key := quota, value := some wanted, attributes := [] }⟩] }] }

/-- A neighbour is held, stored and taken for unchanged, and very large numbers are refused. -/
theorem neighbour_taken :
    (Descriptor.wrap .text quotaSetting (some (Integer.text 9007199254740993)) []).value =
        some (Integer.text 9007199254740992) ∧
      (Descriptor.wrap .text quotaSetting (some (Integer.text 9007199254740992)) []).equals
        (some (Integer.text 9007199254740993)) = true ∧
      (Descriptor.wrap .text quotaSetting (some (Integer.text wholeLimit)) []).value = none ∧
      ((rationed "0" "9007199254740993").apply 1 {} none).2.site.store.get quota =
        .ok (some "9007199254740992") ∧
      (((rationed "9007199254740992" "9007199254740993").apply 1 {} none).1.map fun report =>
        report.skipped.map fun entry => (entry.key, entry.status)) = .ok [(quota, .unchanged)] := by
  have hlarge : (Descriptor.wrap .text quotaSetting (some (Integer.text wholeLimit)) []).value = none := by
    have hbeyond : ¬ IsWithin wholeLimit := by
      decide +kernel
    have hvalue := (takesWhole_quota none).value_text wholeLimit []
    rw [if_neg hbeyond] at hvalue
    exact hvalue
  refine ⟨?_, ?_, hlarge, ?_, ?_⟩
  all_goals decide +kernel

end SmallSite

end SitePresets
