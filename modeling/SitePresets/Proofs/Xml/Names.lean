import Mathlib.Data.List.TakeWhile
import SitePresets.Xml.Element
import SitePresets.Xml.Writer

/-!
# Reading names

A name without colons is read up to the first character that cannot stand in it, and it means itself
where no name space is declared.
-/

namespace SitePresets.Xml

/-- What holds of each of the first 128 code points holds of the ASCII characters. -/
theorem forall_ascii {P : Char → Prop} (h : ∀ n < 128, P (Char.ofNat n)) {c : Char}
    (hc : c.toNat < 128) : P c :=
  Char.ofNat_toNat c ▸ h c.toNat hc

/-! ### The characters of names -/

theorem isName_iff {chars : List Char} :
    isName chars = true ↔
      ∃ c rest, chars = c :: rest ∧ isNameStart c = true ∧ ∀ d ∈ rest, isNameChar d = true := by
  cases chars with
  | nil => simp [isName, takeName]
  | cons c rest =>
    have hall : (rest.dropWhile isNameChar).isEmpty = true ↔ ∀ d ∈ rest, isNameChar d = true := by
      rw [List.isEmpty_iff, List.dropWhile_eq_nil_iff]
    by_cases hc : isNameStart c = true
    · simp only [isName, takeName, if_pos hc, hall]
      constructor
      · exact fun h => ⟨c, rest, rfl, hc, h⟩
      · rintro ⟨_, _, heq, -, h⟩
        cases heq
        exact h
    · simp [isName, takeName, hc]

theorem ne_of_isNameStart {c d : Char} (hc : isNameStart c = true) (hd : isNameStart d = false) :
    c ≠ d := by
  rintro rfl
  simp_all

theorem isNameChar_of_isNameStart {c : Char} (h : isNameStart c = true) : isNameChar c = true := by
  unfold isNameStart at h
  unfold isNameChar
  split at h
  · simp only [Bool.or_eq_true, decide_eq_true_eq] at h
    rcases h with h | h <;> simp_all [Char.isAlphanum]
  · simp_all

theorem isNameChar_of_mem {name : List Char} (h : isName name = true) {c : Char} (hc : c ∈ name) :
    isNameChar c = true := by
  obtain ⟨first, rest, rfl, hfirst, hrest⟩ := isName_iff.1 h
  rcases List.mem_cons.1 hc with rfl | hc
  · exact isNameChar_of_isNameStart hfirst
  · exact hrest c hc

/-- A sign that is no character of names is not in a name. -/
theorem not_mem_of_isName {name : List Char} (h : isName name = true) {c : Char}
    (hc : isNameChar c = false) : c ∉ name := by
  intro hmem
  have := isNameChar_of_mem h hmem
  simp_all

theorem isLegal_of_isNameChar {c : Char} (h : isNameChar c = true) : isLegal c = true := by
  have between {runs : List (Nat × Nat)} (hruns : ∀ run ∈ runs, 0x20 ≤ run.1 ∧ run.2 < 0xD800)
      (hc : Text.inRuns runs c.toNat = true) : isLegal c = true := by
    obtain ⟨run, hrun, hin⟩ := List.any_eq_true.1 hc
    have hbounds := hruns run hrun
    simp only [Bool.and_eq_true, decide_eq_true_eq] at hin
    simp only [isLegal, isLegalCode, Bool.or_eq_true, Bool.and_eq_true, decide_eq_true_eq]
    omega
  by_cases hc : c.toNat < 128
  · have hall : ∀ n < 128, isNameChar (Char.ofNat n) = true → isLegal (Char.ofNat n) = true := by
      decide
    exact @forall_ascii (fun c => isNameChar c = true → isLegal c = true) hall c hc h
  · rw [isNameChar, if_neg hc, Bool.or_eq_true] at h
    rcases h with h | h
    · exact between (by decide +kernel) h
    · exact between (by decide +kernel) h

/-! ### Taking a name -/

theorem takeName_append {name rest : List Char} (h : isName name = true)
    (hrest : ∀ c ∈ rest.head?, isNameChar c = false) :
    takeName (name ++ rest) = some (name, rest) := by
  obtain ⟨c, tail, rfl, hc, htail⟩ := isName_iff.1 h
  have htake : (tail ++ rest).takeWhile isNameChar = tail := by
    rw [List.takeWhile_append_of_pos htail]
    cases rest with
    | nil => simp
    | cons d _ => simp [List.takeWhile, hrest d rfl]
  have hdrop : (tail ++ rest).dropWhile isNameChar = rest := by
    rw [List.dropWhile_append_of_pos htail]
    cases rest with
    | nil => simp
    | cons d _ => simp [List.dropWhile, hrest d rfl]
  simp [takeName, hc, htake, hdrop]

theorem takeQualified_append {name rest : List Char} (h : isName name = true)
    (hrest : ∀ c ∈ rest.head?, isNameChar c = false ∧ c ≠ ':') :
    takeQualified (name ++ rest) = some (name, rest) := by
  have htake := takeName_append h fun c hc => (hrest c hc).1
  unfold takeQualified
  rw [htake]
  cases rest with
  | nil => rfl
  | cons c rest =>
    have hcolon : c ≠ ':' := (hrest c rfl).2
    simp [hcolon]

/-! ### Names without name spaces -/

theorem cutFirst_eq_none_of_not_mem {mark : List Char} {c : Char} (hc : c ∈ mark) {text : List Char}
    (h : c ∉ text) : Text.cutFirst mark text = none := by
  induction text with
  | nil =>
    have hmark : mark ≠ [] := List.ne_nil_of_mem hc
    simp [Text.cutFirst, hmark]
  | cons d rest ih =>
    have hprefix : ¬ mark.isPrefixOf (d :: rest) = true := by
      intro hp
      exact h (List.IsPrefix.subset (List.isPrefixOf_iff_prefix.1 hp) hc)
    rw [Text.cutFirst, if_neg hprefix, ih fun hmem => h (List.mem_cons_of_mem d hmem)]
    rfl

theorem NameScope.split_of_isName {name : String} (h : isName name.toList = true) :
    NameScope.split name = none := by
  have hcolon : ':' ∉ name.toList := not_mem_of_isName h (by decide)
  rw [NameScope.split, cutFirst_eq_none_of_not_mem List.mem_cons_self hcolon]
  rfl

theorem splitFull_of_isName {name : String} (h : isName name.toList = true) :
    splitFull name = some (none, name) := by
  obtain ⟨c, rest, hchars, hc, -⟩ := isName_iff.1 h
  have hbrace : c ≠ '\x7b' := ne_of_isNameStart hc (by decide)
  unfold splitFull
  split
  · next heq =>
    rw [hchars] at heq
    exact absurd (List.cons.inj heq).1 hbrace
  · rfl

theorem ShortNames.written_of_isName (names : ShortNames) {name : String}
    (h : isName name.toList = true) : names.written name = name.toList := by
  rw [ShortNames.written, splitFull_of_isName h]

theorem ShortNames.add_of_isName (names : ShortNames) {name : String}
    (h : isName name.toList = true) : names.add name = some names := by
  rw [ShortNames.add, splitFull_of_isName h]
  rfl

end SitePresets.Xml
