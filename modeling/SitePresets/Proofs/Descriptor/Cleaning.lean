import SitePresets.Descriptor.Basic
import SitePresets.Proofs.Numeral.Reading
import SitePresets.Proofs.Text.Parts

/-!
# Cleaned values

A cleaned value is its own stored form, and it means the same as itself. So a setting that holds what
was written for it is found unchanged, whatever its family. Other choices do not change what a value that
is among them means.
-/

namespace SitePresets

open Numeral

namespace ValueRule

variable {rule : ValueRule} {value cleaned : String}

theorem cleanNumber_cleaned (h : rule.cleanNumber value = some cleaned) :
    rule.cleanNumber cleaned = some cleaned := by
  unfold cleanNumber at h
  dsimp only at h
  cases hread : Decimal.read? (Text.trim value) with
  | none => simp [hread] at h
  | some x =>
    simp only [hread] at h
    by_cases hwhole : rule.isWhole = true
    · rw [if_pos hwhole] at h
      obtain ⟨z, hz, rfl⟩ := Option.map_eq_some_iff.1 h
      obtain ⟨y, hy, hyz⟩ := Decimal.read_text_of_whole hread hz
      have htrim : Text.trim (Integer.text z) = Integer.text z := Integer.trim_text z
      simp [cleanNumber, htrim, hy, hwhole, hyz]
    · rw [if_neg hwhole] at h
      split at h
      · rename_i hfinite
        obtain rfl := Option.some.inj h
        simp [cleanNumber, hread, hwhole, hfinite]
      · cases h

theorem exists_tokens_eq (value : String) : ∃ parts : List (List Char),
    tokens value = parts.map String.ofList ∧
      ∀ part ∈ parts, part ≠ [] ∧ ',' ∉ part ∧ Text.trimBy Text.isBlank part = part := by
  refine ⟨_, rfl, fun part hpart => ?_⟩
  obtain ⟨hmem, hne⟩ := List.mem_filter.1 hpart
  obtain ⟨raw, hraw, rfl⟩ := List.mem_map.1 hmem
  refine ⟨by simpa using hne, fun hcomma => ?_, Text.trimBy_trimBy _ _⟩
  exact Text.not_mem_of_mem_splitAt hraw (Text.mem_of_mem_trimBy hcomma)

theorem tokens_joinBy_tokens (value : String) :
    tokens (Text.joinBy "," (tokens value)) = tokens value := by
  obtain ⟨parts, heq, hparts⟩ := exists_tokens_eq value
  rw [heq]
  by_cases hne : parts = []
  · subst hne
    decide
  · have hfree : ∀ part ∈ parts, ',' ∉ part := fun part h => (hparts part h).2.1
    have hsplit := Text.splitAt_joinBy parts hne hfree
    have htrim : parts.map (Text.trimBy Text.isBlank) = parts := by
      conv => rhs; rw [← List.map_id parts]
      exact List.map_congr_left fun part h => (hparts part h).2.2
    have hfilter : parts.filter (· ≠ []) = parts :=
      List.filter_eq_self.2 fun part h => by simpa using (hparts part h).1
    unfold tokens
    rw [show "," = String.singleton ',' from rfl, hsplit, htrim, hfilter]

/-- A cleaned value is its own stored form. -/
theorem cleanText_cleaned (h : rule.cleanText value = some cleaned) :
    rule.cleanText cleaned = some cleaned := by
  unfold cleanText at h ⊢
  cases hfamily : rule.family <;> simp only [hfamily] at h ⊢
  case flag =>
    obtain rfl := Option.some.inj h
    rw [Value.textIsOn_flagText]
  case choice =>
    split at h
    · rename_i hchoice
      obtain rfl := Option.some.inj h
      rw [if_pos hchoice]
    · cases h
  case choices =>
    split at h
    · rename_i hchoices
      obtain rfl := Option.some.inj h
      rw [tokens_joinBy_tokens, if_pos hchoices]
    · cases h
  all_goals
    split at h
    · rename_i hnumeric
      rw [if_pos hnumeric]
      exact cleanNumber_cleaned h
    · rename_i hnumeric
      rw [if_neg hnumeric]

/-- A cleaned value means the same as itself. -/
theorem same_cleaned (h : rule.cleanText value = some cleaned) :
    rule.same (some cleaned) (some cleaned) = true := by
  unfold cleanText at h
  unfold same
  cases hfamily : rule.family <;> simp only [hfamily] at h ⊢
  case flag =>
    obtain rfl := Option.some.inj h
    simp
  case text | secret =>
    split
    · simp [textsDiffer]
    · simp
  case choices => exact List.isPerm_iff.2 (List.Perm.refl _)
  all_goals simp

/-- Only the missing value means the same as none. -/
theorem same_none (rule : ValueRule) (value : Option String) : rule.same value none = value.isNone := by
  unfold same
  cases rule.family <;> cases value <;> simp [textsDiffer]

/-! ### Other choices -/

theorem all_isChoice_of_cleaned (hfamily : rule.family = .choices)
    (h : rule.cleanText value = some cleaned) : (tokens cleaned).all rule.isChoice := by
  unfold cleanText at h
  rw [hfamily] at h
  dsimp only at h
  split at h
  · rename_i hchoices
    obtain rfl := Option.some.inj h
    rwa [tokens_joinBy_tokens]
  · cases h

/-- Among choices a value means the same as the texts with the same parts. -/
theorem same_clean_choices (hfamily : rule.family = .choices) (h : rule.cleanText value = some cleaned)
    (text : String) :
    rule.same (rule.clean (some text)) (some cleaned) = (tokens text).isPerm (tokens cleaned) := by
  have hchoices := all_isChoice_of_cleaned hfamily h
  have hsame (current : Option String) : rule.same current (some cleaned) =
      current.any fun text => (tokens text).isPerm (tokens cleaned) := by
    unfold same
    rw [hfamily]
    cases current <;> simp
  rw [hsame]
  show Option.any _ (rule.cleanText text) = _
  unfold cleanText
  rw [hfamily]
  dsimp only
  split
  · rw [Option.any_some, tokens_joinBy_tokens]
  · rename_i hother
    rw [Option.any_none, eq_comm, ← Bool.not_eq_true, List.isPerm_iff]
    intro hperm
    rw [List.all_eq_true] at hchoices hother
    exact hother fun part hpart => hchoices part (hperm.mem_iff.1 hpart)

theorem cleanText_of_choice (hfamily : rule.family = .choice) (value : String) :
    rule.cleanText value = if rule.isChoice value then some value else none := by
  unfold cleanText
  rw [hfamily]

theorem isSome_cleanText_of_choice (hfamily : rule.family = .choice) (value : String) :
    (rule.cleanText value).isSome = rule.isChoice value := by
  rw [cleanText_of_choice hfamily]
  cases rule.isChoice value <;> rfl

/-- Of single choices it means the same as itself only. -/
theorem same_clean_choice (hfamily : rule.family = .choice) (h : rule.cleanText value = some cleaned)
    (text : String) : rule.same (rule.clean (some text)) (some cleaned) = decide (text = cleaned) := by
  have hclean : rule.clean (some text) = if rule.isChoice text then some text else none :=
    cleanText_of_choice hfamily text
  have hchoice := isSome_cleanText_of_choice hfamily cleaned
  rw [cleanText_cleaned h, Option.isSome_some] at hchoice
  unfold same
  rw [hclean, hfamily]
  refine decide_eq_decide.2 ?_
  split
  · exact Option.some_inj
  · rename_i hother
    refine iff_of_false (fun h => nomatch h) ?_
    rintro rfl
    exact hother hchoice.symm

section Others

variable {other : ValueRule} (hfamily : other.family = rule.family) (hnumeric : other.numeric = rule.numeric)
include hfamily hnumeric

theorem cleanText_eq_of_family (hchoice : rule.family ≠ .choice) (hchoices : rule.family ≠ .choices) :
    other.cleanText = rule.cleanText := by
  funext value
  unfold cleanText cleanNumber isNumeric isWhole
  rw [hfamily, hnumeric]
  cases hrule : rule.family with
  | choice => exact absurd hrule hchoice
  | choices => exact absurd hrule hchoices
  | _ => rfl

/-- What a setting accepts among two sets of choices it cleans in one way, -/
theorem cleanText_eq_of_accepted (h : rule.cleanText value = some cleaned)
    (haccepted : (other.cleanText value).isSome) : other.cleanText value = some cleaned := by
  cases hrule : rule.family with
  | choice | choices =>
    unfold cleanText at h haccepted ⊢
    rw [hfamily, hrule] at haccepted ⊢
    rw [hrule] at h
    dsimp only at h haccepted ⊢
    split at h
    · split at haccepted
      · rw [if_pos ‹_›]
        exact h
      · cases haccepted
    · cases h
  | _ => rwa [cleanText_eq_of_family hfamily hnumeric (by simp [hrule]) (by simp [hrule])]

/-- and it compares in one way with what the setting holds. -/
theorem same_eq_of_accepted (h : rule.cleanText value = some cleaned)
    (haccepted : other.cleanText value = some cleaned) (current : Option String) :
    other.same (other.clean current) (some cleaned) = rule.same (rule.clean current) (some cleaned) := by
  have hsame : other.same = rule.same := by
    funext value text
    unfold same isNumeric
    rw [hfamily, hnumeric]
  cases current with
  | none => exact congrFun (congrFun hsame none) _
  | some text =>
    cases hrule : rule.family with
    | choice => rw [same_clean_choice hrule h, same_clean_choice (hfamily.trans hrule) haccepted]
    | choices => rw [same_clean_choices hrule h, same_clean_choices (hfamily.trans hrule) haccepted]
    | _ =>
      unfold clean
      rw [hsame, cleanText_eq_of_family hfamily hnumeric (by simp [hrule]) (by simp [hrule])]

end Others

end ValueRule

namespace Descriptor

theorem value_eq_of_cleaned {live wanted : Descriptor} {value : String} (hrule : live.rule = wanted.rule)
    (hvalue : wanted.value = some value) (hraw : live.raw = some value) :
    live.value = some value := by
  obtain ⟨source, -, hsource⟩ := Option.bind_eq_some_iff.1 hvalue
  show live.rule.clean live.raw = some value
  rw [hraw, hrule]
  exact ValueRule.cleanText_cleaned hsource

theorem equals_of_cleaned {live wanted : Descriptor} {value : String} (hrule : live.rule = wanted.rule)
    (hvalue : wanted.value = some value) (hraw : live.raw = some value) :
    live.equals (some value) = true := by
  obtain ⟨source, -, hsource⟩ := Option.bind_eq_some_iff.1 hvalue
  unfold equals
  rw [value_eq_of_cleaned hrule hvalue hraw, hrule]
  exact ValueRule.same_cleaned hsource

end Descriptor

end SitePresets
