import SitePresets.Text.CaseTable

/-!
# Letter case

Upper and lower case of whole texts. One letter may become several, and a capital sigma becomes the
final form where it ends a word.
-/

namespace SitePresets.Text

def shiftOf? (shifts : List (Nat × Nat × Nat × Int)) (n : Nat) : Option Nat :=
  (shifts.find? fun (first, last, step, _) => first ≤ n && n ≤ last && (n - first) % step = 0).map
    fun (_, _, _, delta) => (n + delta).toNat

def inRuns (runs : List (Nat × Nat)) (n : Nat) : Bool :=
  runs.any fun (first, last) => first ≤ n && n ≤ last

/-- The mapping of one letter outside ASCII: an expansion, else a shift, else itself. -/
def mapLetter (expansions : List (Nat × List Nat)) (shifts : List (Nat × Nat × Nat × Int))
    (c : Char) : List Char :=
  match expansions.lookup c.toNat with
  | some codes => codes.map Char.ofNat
  | none => match shiftOf? shifts c.toNat with
    | some code => [Char.ofNat code]
    | none => [c]

def lowerLetter (c : Char) : List Char :=
  if c.toNat < 128 then [c.toLower]
  else mapLetter CaseTable.lowerExpansions CaseTable.lowerShifts c

def upperLetter (c : Char) : List Char :=
  if c.toNat < 128 then [c.toUpper]
  else mapLetter CaseTable.upperExpansions CaseTable.upperShifts c

/-- Whether the nearest character that counts for case has case. -/
def meetsCased (chars : List Char) : Bool :=
  match chars.dropWhile fun c => inRuns CaseTable.ignorable c.toNat with
  | [] => false
  | c :: _ => inRuns CaseTable.cased c.toNat

/-- The form of a capital sigma between what stands before it, nearest first, and after it. -/
def lowerSigma (before after : List Char) : Char :=
  if meetsCased before && !meetsCased after then 'ς' else 'σ'

def lowerAfter (before : List Char) : List Char → List Char
  | [] => []
  | c :: rest =>
    (if c = 'Σ' then [lowerSigma before rest] else lowerLetter c) ++ lowerAfter (c :: before) rest

def lowerChars (chars : List Char) : List Char :=
  lowerAfter [] chars

def upperChars (chars : List Char) : List Char :=
  chars.flatMap upperLetter

def lower (text : String) : String :=
  String.ofList (lowerChars text.toList)

def upper (text : String) : String :=
  String.ofList (upperChars text.toList)

theorem lowerChars_of_ascii {chars : List Char} (h : ∀ c ∈ chars, c.toNat < 128) :
    lowerChars chars = chars.map Char.toLower := by
  have step : ∀ (l before : List Char), (∀ c ∈ l, c.toNat < 128) →
      lowerAfter before l = l.map Char.toLower := by
    intro l
    induction l with
    | nil => intros; rfl
    | cons c rest ih =>
      intro before hl
      have hc : c.toNat < 128 := hl c (by simp)
      have hs : c ≠ 'Σ' := by
        rintro rfl
        exact absurd hc (by decide)
      simp [lowerAfter, hs, lowerLetter, hc, ih _ (fun d hd => hl d (by simp [hd]))]
  exact step chars [] h

theorem upperChars_of_ascii {chars : List Char} (h : ∀ c ∈ chars, c.toNat < 128) :
    upperChars chars = chars.map Char.toUpper := by
  induction chars with
  | nil => rfl
  | cons c rest ih =>
    have hc : c.toNat < 128 := h c (by simp)
    have := ih fun d hd => h d (by simp [hd])
    unfold upperChars at this ⊢
    simp [upperLetter, hc, this]

end SitePresets.Text
