import Mathlib.Data.List.Chain
import SitePresets.Document.Xml
import SitePresets.Proofs.Xml.Names

/-!
# Names and tags

Names in lower case come back from their tags. So do scopes, as long as no underscore stands where it
could be taken for a part of a coded slash.
-/

namespace SitePresets.Document

open Xml

/-- A name without colons, of ASCII characters, none of them in upper case. -/
structure IsLowerName (chars : List Char) : Prop where
  isName : Xml.isName chars = true
  lower : ∀ c ∈ chars, c.toNat < 128 ∧ c.isUpper = false

/-- A name in lower case that may hold slashes; what follows an underscore is neither an underscore nor
a slash. -/
structure IsScope (chars : List Char) : Prop where
  start : chars.head?.any isNameStart = true
  inside : ∀ c ∈ chars, isNameChar c = true ∨ c = '/'
  lower : ∀ c ∈ chars, c.toNat < 128 ∧ c.isUpper = false
  apart : chars.IsChain fun c d => c = '_' → d ≠ '_' ∧ d ≠ '/'

instance (chars : List Char) : Decidable (IsLowerName chars) :=
  decidable_of_iff (Xml.isName chars = true ∧
      (chars.all fun c => c.toNat < 128 ∧ c.isUpper = false) = true)
    ⟨fun h => ⟨h.1, by simpa using h.2⟩, fun h => ⟨h.isName, by simpa using h.lower⟩⟩

instance (chars : List Char) : Decidable (IsScope chars) :=
  decidable_of_iff (chars.head?.any isNameStart = true ∧
      (chars.all fun c => isNameChar c = true ∨ c = '/') = true ∧
      (chars.all fun c => c.toNat < 128 ∧ c.isUpper = false) = true ∧
      chars.IsChain fun c d => c = '_' → d ≠ '_' ∧ d ≠ '/')
    ⟨fun h => ⟨h.1, by simpa using h.2.1, by simpa using h.2.2.1, h.2.2.2⟩,
      fun h => ⟨h.start, by simpa using h.inside, by simpa using h.lower, h.apart⟩⟩

/-! ### Letter case -/

theorem toLower_toUpper {c : Char} (h : c.toNat < 128 ∧ c.isUpper = false) :
    c.toUpper.toLower = c := by
  have hall : ∀ n < 128, (Char.ofNat n).isUpper = false →
      (Char.ofNat n).toUpper.toLower = Char.ofNat n := by decide
  exact @forall_ascii (fun c => c.isUpper = false → c.toUpper.toLower = c) hall c h.1 h.2

theorem toLower_of_lower {c : Char} (h : c.toNat < 128 ∧ c.isUpper = false) : c.toLower = c := by
  have hall : ∀ n < 128, (Char.ofNat n).isUpper = false →
      (Char.ofNat n).toLower = Char.ofNat n := by decide
  exact @forall_ascii (fun c => c.isUpper = false → c.toLower = c) hall c h.1 h.2

/-- The upper case of an ASCII character is one, and of the same kind in names. -/
theorem toUpper_ascii {c : Char} (h : c.toNat < 128) :
    c.toUpper.toNat < 128 ∧ isNameStart c.toUpper = isNameStart c ∧
      isNameChar c.toUpper = isNameChar c := by
  have hall : ∀ n < 128, (Char.ofNat n).toUpper.toNat < 128 ∧
      isNameStart (Char.ofNat n).toUpper = isNameStart (Char.ofNat n) ∧
      isNameChar (Char.ofNat n).toUpper = isNameChar (Char.ofNat n) := by decide
  exact @forall_ascii (fun c => c.toUpper.toNat < 128 ∧ isNameStart c.toUpper = isNameStart c ∧
    isNameChar c.toUpper = isNameChar c) hall c h

section Case

variable {chars : List Char}

theorem lowerChars_of_lower (h : ∀ c ∈ chars, c.toNat < 128 ∧ c.isUpper = false) :
    Text.lowerChars chars = chars := by
  rw [Text.lowerChars_of_ascii fun c hc => (h c hc).1]
  exact (List.map_congr_left fun c hc => toLower_of_lower (h c hc)).trans (List.map_id chars)

theorem lowerChars_upperChars (h : ∀ c ∈ chars, c.toNat < 128 ∧ c.isUpper = false) :
    Text.lowerChars (Text.upperChars chars) = chars := by
  have hupper : Text.upperChars chars = chars.map Char.toUpper :=
    Text.upperChars_of_ascii fun c hc => (h c hc).1
  have hascii : ∀ c ∈ chars.map Char.toUpper, c.toNat < 128 := by
    intro c hc
    obtain ⟨d, hd, rfl⟩ := List.mem_map.1 hc
    exact (toUpper_ascii (h d hd).1).1
  rw [hupper, Text.lowerChars_of_ascii hascii, List.map_map]
  exact (List.map_congr_left fun c hc => toLower_toUpper (h c hc)).trans (List.map_id chars)

theorem isName_upperChars (h : IsLowerName chars) : isName (Text.upperChars chars) = true := by
  rw [Text.upperChars_of_ascii fun c hc => (h.lower c hc).1]
  obtain ⟨c, rest, rfl, hc, hrest⟩ := isName_iff.1 h.isName
  have hkind {d : Char} (hd : d ∈ c :: rest) := (toUpper_ascii (h.lower d hd).1).2
  refine isName_iff.2 ⟨c.toUpper, rest.map Char.toUpper, rfl, ?_, ?_⟩
  · rw [(hkind List.mem_cons_self).1, hc]
  · intro d hd
    obtain ⟨e, he, rfl⟩ := List.mem_map.1 hd
    rw [(hkind (List.mem_cons_of_mem c he)).2, hrest e he]

end Case

/-! ### Tags of names -/

theorem lower_upper {name : String} (h : IsLowerName name.toList) :
    Text.lower (Text.upper name) = name := by
  rw [Text.lower, Text.upper, String.toList_ofList, lowerChars_upperChars h.lower,
    String.ofList_toList]

theorem lower_eq_self {name : String} (h : IsLowerName name.toList) : Text.lower name = name := by
  rw [Text.lower, lowerChars_of_lower h.lower, String.ofList_toList]

theorem isName_upper {name : String} (h : IsLowerName name.toList) :
    isName (Text.upper name).toList = true := by
  rw [Text.upper, String.toList_ofList]
  exact isName_upperChars h

/-! ### Tags of scopes -/

/-- A scope with its slashes coded. -/
def codeSlashes (scope : List Char) : List Char :=
  scope.flatMap fun c => if c = '/' then scopeMark else [c]

theorem mem_codeSlashes {scope : List Char} {c : Char} (h : c ∈ codeSlashes scope) :
    c = '_' ∨ c ∈ scope ∧ c ≠ '/' := by
  obtain ⟨d, hd, hc⟩ := List.mem_flatMap.1 h
  split_ifs at hc with hslash
  · exact .inl (by simpa [scopeMark] using hc)
  · obtain rfl := List.mem_singleton.1 hc
    exact .inr ⟨hd, hslash⟩

theorem lower_codeSlashes {scope : List Char} (h : ∀ c ∈ scope, c.toNat < 128 ∧ c.isUpper = false) :
    ∀ c ∈ codeSlashes scope, c.toNat < 128 ∧ c.isUpper = false := by
  intro c hc
  rcases mem_codeSlashes hc with rfl | ⟨hc, -⟩
  · decide
  · exact h c hc

theorem isLowerName_codeSlashes {scope : List Char} (h : IsScope scope) :
    IsLowerName (codeSlashes scope) := by
  refine ⟨?_, lower_codeSlashes h.lower⟩
  cases scope with
  | nil => exact absurd h.start (by simp)
  | cons c rest =>
    have hc : isNameStart c = true := by simpa using h.start
    have hslash : c ≠ '/' := ne_of_isNameStart hc (by decide)
    refine isName_iff.2 ⟨c, codeSlashes rest, by simp [codeSlashes, hslash], hc, ?_⟩
    intro d hd
    rcases mem_codeSlashes hd with rfl | ⟨hd, hne⟩
    · decide
    · exact (h.inside d (List.mem_cons_of_mem c hd)).resolve_right hne

theorem codeSlashes_slash (rest : List Char) :
    codeSlashes ('/' :: rest) = '_' :: '_' :: codeSlashes rest := by
  simp [codeSlashes, scopeMark]

theorem codeSlashes_cons {c : Char} (h : c ≠ '/') (rest : List Char) :
    codeSlashes (c :: rest) = c :: codeSlashes rest := by
  simp [codeSlashes, h]

theorem replacePair_cons {c : Char} {rest : List Char} (h : c = '_' → rest.head? ≠ some '_') :
    Text.replacePair '_' '_' ['/'] (c :: rest) = c :: Text.replacePair '_' '_' ['/'] rest := by
  cases rest with
  | nil => rfl
  | cons d rest =>
    have hpair : ¬ (c = '_' ∧ d = '_') := fun ⟨hc, hd⟩ => h hc (congrArg some hd)
    rw [Text.replacePair, if_neg hpair]

/-- Coded slashes are told from the other underscores, which stand alone. -/
theorem replacePair_codeSlashes {scope : List Char}
    (h : scope.IsChain fun c d => c = '_' → d ≠ '_' ∧ d ≠ '/') :
    Text.replacePair '_' '_' ['/'] (codeSlashes scope) = scope := by
  induction scope with
  | nil => rfl
  | cons c rest ih =>
    have hrest := ih h.tail
    by_cases hslash : c = '/'
    · rw [hslash, codeSlashes_slash, Text.replacePair, if_pos ⟨rfl, rfl⟩, hrest,
        List.singleton_append]
    · have hhead : c = '_' → (codeSlashes rest).head? ≠ some '_' := by
        intro hc
        cases rest with
        | nil => simp [codeSlashes]
        | cons d rest =>
          obtain ⟨hunderscore, hd⟩ := h.rel hc
          simpa [codeSlashes_cons hd] using hunderscore
      rw [codeSlashes_cons hslash, replacePair_cons hhead, hrest]

theorem toList_scopeTag (scope : String) :
    (scopeTag scope).toList = Text.upperChars (codeSlashes scope.toList) :=
  String.toList_ofList

theorem toList_tagScope_scopeTag {scope : String}
    (h : ∀ c ∈ scope.toList, c.toNat < 128 ∧ c.isUpper = false) :
    (tagScope (scopeTag scope)).toList =
      Text.replacePair '_' '_' ['/'] (codeSlashes scope.toList) := by
  rw [tagScope, String.toList_ofList, toList_scopeTag, lowerChars_upperChars (lower_codeSlashes h)]

theorem tagScope_scopeTag {scope : String} (h : IsScope scope.toList) :
    tagScope (scopeTag scope) = scope := by
  rw [← String.toList_inj, toList_tagScope_scopeTag h.lower, replacePair_codeSlashes h.apart]

theorem isName_scopeTag {scope : String} (h : IsScope scope.toList) :
    isName (scopeTag scope).toList = true := by
  rw [toList_scopeTag]
  exact isName_upperChars (isLowerName_codeSlashes h)

end SitePresets.Document
