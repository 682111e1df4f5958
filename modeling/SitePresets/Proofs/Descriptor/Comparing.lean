import Mathlib.Data.Multiset.Defs
import SitePresets.Proofs.Descriptor.Alike
import SitePresets.Proofs.Descriptor.Cleaning
import SitePresets.Proofs.Numeral.Whole

/-!
# Comparing values

Values are compared by what they mean: a number, a list of choices in any order, or a text as it is. Among
values in their stored form this is an equivalence, whatever the family of the setting. A text in another form
has no part in it, since only the value that a setting holds is cleaned.
-/

namespace SitePresets

open Numeral

/-- Texts that are read as numbers differ as these do. -/
theorem textsDiffer_of_read {a b : String} {x y : Binary64} (ha : Decimal.read? a = some x)
    (hb : Decimal.read? b = some y) (hx : x ≠ .nan) : textsDiffer (some a) (some b) = !x.same y := by
  unfold textsDiffer
  dsimp only
  rw [ha, hb]
  by_cases heq : a = b
  · obtain rfl := Option.some.inj ((heq ▸ ha).symm.trans hb)
    rw [Binary64.same_self hx, heq]
    simp
  · simp [heq]

/-! ### Meanings -/

/-- What a value stands for. -/
inductive Meaning where
  | text (chars : List Char)
  | number (units : Int)
  | choices (parts : Multiset String)

namespace ValueRule

variable {rule : ValueRule} {value other cleaned : String}

/-- The number that a text is read as, in units. -/
def unitsOf (value : String) : Int :=
  match Decimal.read? value with
  | some (.finite negative units) => Integer.signed negative units
  | _ => 0

def meaning (rule : ValueRule) (value : String) : Meaning :=
  match rule.family with
  | .plain | .flag | .choice => .text value.toList
  | .text | .secret => if rule.isNumeric then .number (unitsOf value) else .text value.toList
  | .lines => .text (unifyLineEnds value)
  | .choices => .choices (tokens value)

/-- Whether a value is in its stored form. -/
def Settled (rule : ValueRule) (value : Option String) : Prop :=
  rule.clean value = value

theorem settled_clean (rule : ValueRule) (raw : Option String) : rule.Settled (rule.clean raw) := by
  cases hclean : rule.clean raw with
  | none => rfl
  | some cleaned =>
    obtain ⟨source, -, hsource⟩ := Option.bind_eq_some_iff.1 hclean
    exact cleanText_cleaned hsource

/-- The stored form of a number is read as a finite one. -/
theorem exists_finite_of_settled (h : rule.cleanNumber value = some value) :
    ∃ negative units, Decimal.read? value = some (.finite negative units) := by
  unfold cleanNumber at h
  dsimp only at h
  cases hread : Decimal.read? (Text.trim value) with
  | none => simp [hread] at h
  | some x =>
    simp only [hread] at h
    split at h
    · obtain ⟨z, hz, hvalue⟩ := Option.map_eq_some_iff.1 h
      rw [← hvalue, Integer.trim_text, hvalue] at hread
      cases x with
      | finite negative units => exact ⟨negative, units, hread⟩
      | _ => cases hz
    · split at h
      · rename_i hfinite
        rw [Option.some.inj h] at hread
        cases x with
        | finite negative units => exact ⟨negative, units, hread⟩
        | _ => cases hfinite
      · cases h

theorem textsDiffer_of_settled (hvalue : rule.cleanNumber value = some value)
    (hother : rule.cleanNumber other = some other) :
    textsDiffer (some value) (some other) = false ↔ unitsOf value = unitsOf other := by
  obtain ⟨negative, units, hread⟩ := exists_finite_of_settled hvalue
  obtain ⟨negative', units', hread'⟩ := exists_finite_of_settled hother
  rw [textsDiffer_of_read hread hread' (fun h => nomatch h), Bool.not_eq_false']
  unfold unitsOf
  rw [hread, hread', Binary64.signed_eq_signed]
  simp [Binary64.same]

theorem flagText_textIsOn_of_settled (hfamily : rule.family = .flag)
    (h : rule.cleanText value = some value) : Value.flagText (Value.textIsOn value) = value := by
  unfold cleanText at h
  rw [hfamily] at h
  exact Option.some.inj h

theorem cleanNumber_of_settled (hfamily : rule.family = .text ∨ rule.family = .secret)
    (hnumeric : rule.isNumeric = true) (h : rule.cleanText value = some value) :
    rule.cleanNumber value = some value := by
  unfold cleanText at h
  rcases hfamily with hfamily | hfamily
  all_goals
    simp only [hfamily] at h
    rwa [if_pos hnumeric] at h

theorem same_none_some (rule : ValueRule) (value : String) : rule.same none (some value) = false := by
  unfold same
  cases rule.family <;> simp [textsDiffer]

theorem same_some_iff (hvalue : rule.cleanText value = some value)
    (hother : rule.cleanText other = some other) :
    rule.same (some value) (some other) = true ↔ rule.meaning value = rule.meaning other := by
  unfold same meaning
  cases hfamily : rule.family with
  | plain | choice => simp [String.toList_inj]
  | flag =>
    have hflag := flagText_textIsOn_of_settled hfamily hother
    simp [hflag, String.toList_inj]
  | lines => simp
  | choices => simp [List.isPerm_iff]
  | text | secret =>
    dsimp only
    split
    · rename_i hnumeric
      have hread := cleanNumber_of_settled (by simp [hfamily]) hnumeric hvalue
      have hread' := cleanNumber_of_settled (by simp [hfamily]) hnumeric hother
      rw [Bool.not_eq_true', textsDiffer_of_settled hread hread', Meaning.number.injEq]
    · simp [String.toList_inj]

/-- Values in their stored form are the same if they mean the same. -/
theorem same_iff_meaning {value other : Option String} (hvalue : rule.Settled value)
    (hother : rule.Settled other) :
    rule.same value other = true ↔ value.map rule.meaning = other.map rule.meaning := by
  cases other with
  | none => simp [same_none]
  | some b =>
    cases value with
    | none => simp [same_none_some]
    | some a => simpa using same_some_iff hvalue hother

end ValueRule

/-! ### Settings -/

namespace Descriptor

variable {live u v w : Descriptor}

theorem settled_value (h : live.Alike u) : live.rule.Settled u.value := by
  show live.rule.Settled (u.rule.clean u.raw)
  rw [h.clean_eq]
  exact ValueRule.settled_clean live.rule u.raw

/-- Two settings that are alike hold the same if what they hold means the same. -/
theorem equals_iff_meaning (hu : live.Alike u) (hv : live.Alike v) :
    u.equals v.value = true ↔ u.value.map live.rule.meaning = v.value.map live.rule.meaning := by
  unfold equals
  rw [hu.same_eq]
  exact ValueRule.same_iff_meaning (settled_value hu) (settled_value hv)

theorem value_withValue_value (u : Descriptor) (given : List (Facet × Option String)) :
    (u.withValue u.value given).value = u.value := by
  show u.rule.clean u.value = u.value
  exact settled_value (.refl u)

theorem isValid_withValue_value (u : Descriptor) (given : List (Facet × Option String)) :
    (u.withValue u.value given).isValid = true := by
  unfold isValid
  rw [value_withValue_value]
  show (u.value.isNone || u.value.isSome) = true
  cases u.value <;> rfl

/-- What a numeric setting holds is compared as numbers. -/
theorem equals_eq_same_of_numeric (hu : live.Alike u) (hv : live.Alike v)
    (hfamily : live.kind.family = .text ∨ live.kind.family = .secret)
    (hnumeric : live.rule.isNumeric = true) {a b : String} (ha : u.value = some a) (hb : v.value = some b) :
    ∃ x y, Decimal.read? a = some x ∧ Decimal.read? b = some y ∧ x.isFinite = true ∧
      y.isFinite = true ∧ u.equals v.value = x.same y := by
  have hread {d : Descriptor} {text : String} (h : live.Alike d) (htext : d.value = some text) :
      ∃ negative units, Decimal.read? text = some (.finite negative units) := by
    have hsettled := settled_value h
    rw [htext] at hsettled
    exact ValueRule.exists_finite_of_settled (ValueRule.cleanNumber_of_settled hfamily hnumeric hsettled)
  obtain ⟨negative, units, hx⟩ := hread hu ha
  obtain ⟨negative', units', hy⟩ := hread hv hb
  refine ⟨_, _, hx, hy, rfl, rfl, ?_⟩
  have hsame : live.rule.same (some a) (some b) = !textsDiffer (some a) (some b) := by
    unfold ValueRule.same
    rcases hfamily with hfamily | hfamily
    all_goals
      rw [show live.rule.family = _ from hfamily]
      exact if_pos hnumeric
  unfold equals
  rw [hu.same_eq, ha, hb, hsame, textsDiffer_of_read hx hy (fun h => nomatch h), Bool.not_not]

/-- The values that a setting holds, now or at another time, fall into classes of values that mean the same.
A value of each is its own stored form, and numbers are in one class if they are the same in double
precision. -/
theorem values_form_classes (hu : live.Alike u) (hv : live.Alike v) (hw : live.Alike w)
    (given : List (Facet × Option String)) :
    ((u.withValue u.value given).value = u.value ∧ (u.withValue u.value given).isValid = true) ∧
      u.equals u.value = true ∧
      (u.equals v.value = true ↔ v.equals u.value = true) ∧
      (u.equals v.value = true → v.equals w.value = true → u.equals w.value = true) ∧
      (live.kind.family = .text ∨ live.kind.family = .secret → live.rule.isNumeric = true →
        ∀ a b, u.value = some a → v.value = some b →
          ∃ x y, Decimal.read? a = some x ∧ Decimal.read? b = some y ∧ x.isFinite = true ∧
            y.isFinite = true ∧ u.equals v.value = x.same y) := by
  refine ⟨⟨value_withValue_value u given, isValid_withValue_value u given⟩, ?_, ?_, ?_, ?_⟩
  · exact (equals_iff_meaning hu hu).2 rfl
  · rw [equals_iff_meaning hu hv, equals_iff_meaning hv hu, eq_comm]
  · rw [equals_iff_meaning hu hv, equals_iff_meaning hv hw, equals_iff_meaning hu hw]
    exact Eq.trans
  · intro hfamily hnumeric a b
    exact equals_eq_same_of_numeric hu hv hfamily hnumeric

/-- A setting of numbers, holding a text. -/
def ofNumber (text : String) : Descriptor :=
  wrap .text { name := "ratio", paramType := some "float" } (some text) []

theorem thousands_form_class :
    (ofNumber "1e3").value = some "1e3" ∧ (ofNumber " 1000 ").value = some "1000" ∧
      (ofNumber "1000.0").value = some "1000.0" ∧
        ((ofNumber "1e3").withValue (ofNumber "1e3").value []).value = (ofNumber "1e3").value ∧
          (ofNumber " 1000 ").equals (some "1e3") = true ∧
            (ofNumber "1e3").equals (some "1000.0") = true := by
  have hheld : (ofNumber "1e3").value = some "1e3" ∧ (ofNumber " 1000 ").value = some "1000" ∧
      (ofNumber "1000.0").value = some "1000.0" ∧ (ofNumber "1e3").equals (some "1000") = true ∧
        (ofNumber " 1000 ").equals (some "1000.0") = true := by
    decide +kernel
  obtain ⟨hu, hv, hw, huv, hvw⟩ := hheld
  have hclasses := values_form_classes (.refl (ofNumber "1e3")) (v := ofNumber " 1000 ")
    (w := ofNumber "1000.0") (.of_rule_eq rfl rfl rfl) (.of_rule_eq rfl rfl rfl) []
  rw [hu, hv, hw] at hclasses
  obtain ⟨⟨hagain, -⟩, -, hsymm, htrans, -⟩ := hclasses
  refine ⟨hu, hv, hw, ?_, hsymm.1 huv, htrans huv hvw⟩
  rw [hu]
  exact hagain

end Descriptor

end SitePresets
