import SitePresets.Numeral.Decimal
import SitePresets.Proofs.Numeral.Grid

/-!
# Reading back numerals of whole numbers

A decimal numeral of a whole number has no blanks, underscores or foreign digits, so it is read digit
by digit. What a text stands for, if it is whole, is what its decimal numeral stands for.
-/

namespace SitePresets.Numeral

/-! ### Reading a plain numeral -/

section Plain

variable {c : Char}

theorem isBlank_eq_false_of_isDigit (h : c.isDigit = true) : Text.isBlank c = false := by
  have hrange := Char.isDigit_iff_toNat.1 h
  have hlow : 48 ≤ c.toNat := hrange.1
  have hhigh : c.toNat ≤ 57 := hrange.2
  unfold Text.isBlank Text.isWhite
  simp only [Bool.or_eq_false_iff, Bool.and_eq_false_iff, decide_eq_false_iff_not]
  omega

theorem plainDigit_of_isDigit (h : c.isDigit = true) : Text.plainDigit c = c := by
  have hhigh : c.toNat ≤ 57 := (Char.isDigit_iff_toNat.1 h).2
  rw [Text.plainDigit, if_pos (by omega)]

theorem dropUnderscores_of_not_mem {chars : List Char} (h : '_' ∉ chars) (previous : Option Char) :
    dropUnderscores previous chars = some chars := by
  induction chars generalizing previous with
  | nil => rfl
  | cons c rest ih =>
    have hc : c ≠ '_' := fun heq => h (heq ▸ List.mem_cons_self)
    have hrest : '_' ∉ rest := fun hmem => h (List.mem_cons_of_mem c hmem)
    unfold dropUnderscores
    split
    · contradiction
    · simp_all
    · simp_all

theorem toLower_of_isDigit (h : c.isDigit = true) : c.toLower = c := by
  have hhigh : c.toNat ≤ 57 := (Char.isDigit_iff_toNat.1 h).2
  unfold Char.toLower
  rw [dif_neg]
  rintro ⟨hlow, -⟩
  have hval : 65 ≤ c.toNat := UInt32.le_iff_toNat_le.1 hlow
  omega

theorem takeSign_of_isDigit (rest : List Char) (h : c.isDigit = true) :
    takeSign (c :: rest) = (false, c :: rest) := by
  unfold takeSign
  split
  · simp_all [Char.isDigit]
  · simp_all
  · rfl

end Plain

namespace Integer

theorem mem_chars {z : Int} {c : Char} (h : c ∈ chars z) : c.isDigit = true ∨ c = '-' := by
  have digit {n : Nat} (hc : c ∈ Nat.toDigits 10 n) : c.isDigit = true :=
    Nat.isDigit_of_mem_toDigits (by decide) (by decide) hc
  cases z with
  | ofNat n => exact Or.inl (digit h)
  | negSucc n =>
    rcases List.mem_cons.1 h with rfl | h
    · exact Or.inr rfl
    · exact Or.inl (digit h)

theorem isBlank_of_mem_chars {z : Int} {c : Char} (h : c ∈ chars z) : Text.isBlank c = false := by
  rcases mem_chars h with h | rfl
  · exact isBlank_eq_false_of_isDigit h
  · decide

theorem isWhite_of_mem_chars {z : Int} {c : Char} (h : c ∈ chars z) : Text.isWhite c = false :=
  Bool.eq_false_iff.2 fun hwhite =>
    Bool.false_ne_true ((isBlank_of_mem_chars h).symm.trans (Text.isBlank_of_isWhite hwhite))

theorem trim_text (z : Int) : Text.trim (text z) = text z := by
  rw [Text.trim, text, String.toList_ofList,
    Text.trimBy_eq_self (fun c hc => isBlank_of_mem_chars (List.mem_of_head? hc))
      (fun c hc => isBlank_of_mem_chars (List.mem_of_getLast? hc))]

theorem plainDigit_of_mem_chars {z : Int} {c : Char} (h : c ∈ chars z) : Text.plainDigit c = c := by
  rcases mem_chars h with h | rfl
  · exact plainDigit_of_isDigit h
  · decide

theorem numeralChars_text (z : Int) : numeralChars (text z) = some (chars z) := by
  have htrim : Text.trimBy Text.isWhite (chars z) = chars z :=
    Text.trimBy_eq_self (fun c hc => isWhite_of_mem_chars (List.mem_of_head? hc))
      (fun c hc => isWhite_of_mem_chars (List.mem_of_getLast? hc))
  have hplain : (chars z).map Text.plainDigit = chars z := by
    conv => rhs; rw [← List.map_id (chars z)]
    exact List.map_congr_left fun c hc => plainDigit_of_mem_chars hc
  have hunderscore : '_' ∉ chars z := by
    intro hmem
    rcases mem_chars hmem with h | h <;> revert h <;> decide
  rw [numeralChars, text, String.toList_ofList, htrim, hplain]
  exact dropUnderscores_of_not_mem hunderscore none

/-- A whole number whose numeral is short enough to be read back. -/
def Fits (z : Int) : Prop :=
  (Nat.toDigits 10 z.natAbs).length ≤ maxDigits

instance (z : Int) : Decidable (Fits z) :=
  inferInstanceAs (Decidable (_ ≤ _))

theorem takeSign_chars (z : Int) :
    takeSign (chars z) = (decide (z < 0), Nat.toDigits 10 z.natAbs) := by
  cases z with
  | ofNat n =>
    have hdigit : ∀ c ∈ Nat.toDigits 10 n, c.isDigit = true :=
      fun c hc => Nat.isDigit_of_mem_toDigits (by decide) (by decide) hc
    obtain ⟨c, rest, hchars⟩ := List.exists_cons_of_ne_nil (@Nat.toDigits_ne_nil n 10)
    have hc : c.isDigit = true := hdigit c (hchars ▸ List.mem_cons_self)
    have hsign := takeSign_of_isDigit rest hc
    have hnonneg : decide (Int.ofNat n < 0) = false := decide_eq_false (by simp)
    rw [← hchars] at hsign
    rw [hnonneg]
    exact hsign
  | negSucc n => simp [chars, takeSign]

theorem read?_text {z : Int} (h : Fits z) : read? (text z) = some z := by
  have hdigit : ∀ c ∈ Nat.toDigits 10 z.natAbs, c.isDigit = true :=
    fun c hc => Nat.isDigit_of_mem_toDigits (by decide) (by decide) hc
  have htake : (Nat.toDigits 10 z.natAbs).takeWhile Char.isDigit = Nat.toDigits 10 z.natAbs := by
    simpa using @List.takeWhile_append_of_pos _ Char.isDigit _ [] hdigit
  have hsigned : signed (decide (z < 0)) z.natAbs = z := by
    by_cases hneg : z < 0
    · rw [signed, if_pos (decide_eq_true hneg)]
      omega
    · rw [signed, if_neg (by simpa using hneg)]
      omega
  have hlength : ¬ maxDigits < (Nat.toDigits 10 z.natAbs).length := Nat.not_lt.2 h
  have hread : read (text z) = .ok z := by
    rw [read, numeralChars_text]
    simp [takeSign_chars, htake, hlength, hsigned, Nat.ofDigitChars_ten_toDigits]
  rw [read?, hread]
  rfl

end Integer

namespace Decimal

open Binary64

theorem onGrid_readUnsigned {negative : Bool} {chars : List Char} {x : Binary64}
    (h : readUnsigned negative chars = some x) : x.OnGrid := by
  have scientific {mantissa : Nat} {shift : Int} {rest : List Char} (p : Prop) [Decidable p]
      (h : (if p then none else (readExponent rest).map fun exponent =>
        Binary64.ofScientific negative mantissa (exponent - shift)) = some x) : x.OnGrid := by
    split at h
    · cases h
    · obtain ⟨exponent, -, rfl⟩ := Option.map_eq_some_iff.1 h
      exact onGrid_ofScientific _ _ _
  unfold readUnsigned at h
  dsimp only at h
  split at h <;> exact scientific _ h

theorem onGrid_readChars {chars : List Char} {x : Binary64} (h : readChars chars = some x) :
    x.OnGrid := by
  unfold readChars at h
  dsimp only at h
  split at h
  · cases h
    exact .infinite _
  · split at h
    · cases h
      exact .nan
    · exact onGrid_readUnsigned h

theorem onGrid_read {text : String} {x : Binary64} (h : read? text = some x) : x.OnGrid := by
  obtain ⟨chars, -, hchars⟩ := Option.bind_eq_some_iff.1 h
  exact onGrid_readChars hchars

theorem readUnsigned_toDigits (negative : Bool) (n : Nat) :
    readUnsigned negative (Nat.toDigits 10 n) = some (Binary64.ofScientific negative n 0) := by
  have hdigits : ∀ c ∈ Nat.toDigits 10 n, c.isDigit = true :=
    fun c hc => Nat.isDigit_of_mem_toDigits (by decide) (by decide) hc
  have htake : (Nat.toDigits 10 n).takeWhile Char.isDigit = Nat.toDigits 10 n := by
    simpa using @List.takeWhile_append_of_pos _ Char.isDigit _ [] hdigits
  have hdrop : (Nat.toDigits 10 n).dropWhile Char.isDigit = [] := by
    simpa using @List.dropWhile_append_of_pos _ Char.isDigit _ [] hdigits
  unfold readUnsigned
  simp [htake, hdrop, readExponent, Nat.ofDigitChars_ten_toDigits]

theorem readChars_of_isDigit {negative : Bool} {chars rest : List Char} {c : Char}
    (hsign : takeSign chars = (negative, c :: rest)) (hc : c.isDigit = true) :
    readChars chars = readUnsigned negative (c :: rest) := by
  have hlower : c.toLower = c := toLower_of_isDigit hc
  have hname (d : Char) (hd : d.isDigit = false) (name : List Char) :
      (c :: rest).map Char.toLower ≠ d :: name := by
    intro heq
    rw [List.map_cons, hlower] at heq
    obtain ⟨rfl, -⟩ := List.cons.inj heq
    simp [hc] at hd
  rw [readChars, hsign]
  dsimp only
  rw [if_neg, if_neg (hname _ (by decide) _)]
  exact not_or.2 ⟨hname _ (by decide) _, hname _ (by decide) _⟩

theorem readChars_chars (z : Int) :
    readChars (Integer.chars z) = readUnsigned (decide (z < 0)) (Nat.toDigits 10 z.natAbs) := by
  have first (n : Nat) : ∃ c rest, Nat.toDigits 10 n = c :: rest ∧ c.isDigit = true := by
    obtain ⟨c, rest, heq⟩ := List.exists_cons_of_ne_nil (Nat.toDigits_ne_nil (n := n) (b := 10))
    have hmem : c ∈ Nat.toDigits 10 n := heq ▸ List.mem_cons_self
    exact ⟨c, rest, heq, Nat.isDigit_of_mem_toDigits (by decide) (by decide) hmem⟩
  cases z with
  | ofNat n =>
    obtain ⟨c, rest, heq, hc⟩ := first n
    have hsign : decide (Int.ofNat n < 0) = false := decide_eq_false (Int.not_lt.2 (Int.natCast_nonneg n))
    rw [hsign, Integer.chars, Int.natAbs, heq]
    exact readChars_of_isDigit (takeSign_of_isDigit rest hc) hc
  | negSucc n =>
    obtain ⟨c, rest, heq, hc⟩ := first (n + 1)
    have hsign : decide (Int.negSucc n < 0) = true := decide_eq_true (Int.negSucc_lt_zero n)
    rw [hsign, Integer.chars, Int.natAbs, heq]
    exact readChars_of_isDigit rfl hc

/-- A whole number that a numeral stands for is the one that its decimal numeral stands for. -/
theorem read_text_of_whole {source : String} {x : Binary64} {z : Int} (hread : read? source = some x)
    (hwhole : x.whole? = some z) : ∃ y, read? (Integer.text z) = some y ∧ y.whole? = some z := by
  obtain ⟨hstep, hlimit⟩ := exists_of_whole_eq_some (onGrid_read hread) hwhole
  have hchars : readChars (Integer.chars z) = some (.finite (decide (z < 0)) (z.natAbs * one)) := by
    have hscientific := ofScientific_of_dvd (decide (z < 0)) hstep hlimit
    rw [readChars_chars, readUnsigned_toDigits, hscientific]
  refine ⟨_, ?_, whole_finite_mul_one z⟩
  rw [read?, Integer.numeralChars_text, Option.bind_some, hchars]

end Decimal

end SitePresets.Numeral
